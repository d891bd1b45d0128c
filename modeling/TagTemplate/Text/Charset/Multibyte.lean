/-
# Multibyte charsets — several bytes for a code point

The charsets for Chinese, Japanese and Korean have one byte for an ASCII code
point and two or more for others.  Reading goes from code point to code point;
what comes after a code point may depend on what came before.
-/
import TagTemplate.Text.Charset.Basic

namespace TagTemplate

/-- What stands at the front of bytes; `σ` is what is remembered from one code point to the next. -/
inductive Reading (σ : Type) where
  /-- The first `count` bytes are `text`. -/
  | text (text : Text) (count : Nat) (state : σ)
  /-- The first `count` bytes are wrong. -/
  | wrong (count : Nat) (reason : BadBytes.Reason)
  /-- The bytes end within a code point. -/
  | short

namespace Reading

/-- The first `count` bytes are no code point. -/
def illegal (count : Nat) : Reading σ := wrong count .illegal

/-- The first `count` bytes are a code point, if there is one. -/
def ofPoint? (count : Nat) (state : σ) : Option CodePoint → Reading σ
  | some c => text [c] count state
  | none => illegal 1

/-- What stands at the front of bytes where ASCII stands for itself, by the charset's rule for what
begins with another byte. -/
def orAscii (rule : UInt8 → List UInt8 → Reading Unit) : List UInt8 → Reading Unit
  | [] => short
  | b :: r => if b < 0x80 then text [.ofByte b] 1 () else rule b r

/-- What stands at the front of bytes where each code point beyond ASCII has two. -/
def double (point? : Nat → Nat → Option CodePoint) : List UInt8 → Reading Unit :=
  orAscii fun b₀ r => match r with
    | [] => short
    | b₁ :: _ => ofPoint? 2 () (point? b₀.toNat b₁.toNat)

end Reading

/-- The text of bytes, code point by code point; `pos` counts the bytes before them, and the first
`skip` of them belong to the code point before. -/
def Text.decodeBy (charset : Charset) (read : σ → List UInt8 → Reading σ) (pos skip : Nat)
    (state : σ) : List UInt8 → Except BadBytes Text
  | [] => .ok []
  | b :: r => match skip with
    | skip + 1 => decodeBy charset read (pos + 1) skip state r
    | 0 => match read state (b :: r) with
      | .text t count state => (decodeBy charset read (pos + 1) (count - 1) state r).map (t ++ ·)
      | .wrong count reason => .error ⟨charset, b, pos, count, reason⟩
      | .short => .error ⟨charset, b, pos, r.length + 1, .incomplete⟩

end TagTemplate
