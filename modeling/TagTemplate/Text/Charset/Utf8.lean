/-
# UTF-8 — code points as one to four bytes

    first byte      bytes   second byte restricted to
    00–7f           1
    c2–df           2
    e0              3       a0–bf   (no shorter form exists)
    e1–ec, ee, ef   3
    ed              3       80–9f   (no surrogates)
    f0              4       90–bf   (no shorter form exists)
    f1–f3           4
    f4              4       80–8f   (no code point beyond the last)

A second, third or fourth byte outside 80–bf, or outside the restriction,
spoils the bytes before it; bytes that stop short spoil all that is left.
A text with a surrogate has no UTF-8 form.
-/
import TagTemplate.Text.Charset.Basic

namespace TagTemplate

/-- The UTF-8 form of a code point that is no surrogate. -/
def CodePoint.utf8 (c : CodePoint) : List UInt8 :=
  let n := c.val
  if n < 0x80 then [.ofNat n]
  else if n < 0x800 then [.ofNat (0xc0 + n / 0x40), .ofNat (0x80 + n % 0x40)]
  else if n < 0x10000 then
    [.ofNat (0xe0 + n / 0x1000), .ofNat (0x80 + n / 0x40 % 0x40), .ofNat (0x80 + n % 0x40)]
  else
    [.ofNat (0xf0 + n / 0x40000), .ofNat (0x80 + n / 0x1000 % 0x40),
     .ofNat (0x80 + n / 0x40 % 0x40), .ofNat (0x80 + n % 0x40)]

namespace Text

/-- The first run of surrogates of a text. -/
def unencodable? (t : Text) : Option Unencodable :=
  let fromFirst := t.dropWhile (!·.isSurrogate)
  fromFirst.head?.map fun first =>
    { first, start := t.length - fromFirst.length
      count := (fromFirst.takeWhile (·.isSurrogate)).length }

/-- A byte that continues a code point. -/
def isContinuation (b : UInt8) : Bool := 0x80 ≤ b && b < 0xc0

/-- A byte that may be second after `b₀`. -/
def isSecond (b₀ b₁ : UInt8) : Bool :=
  isContinuation b₁ &&
    (b₀ != 0xe0 || 0xa0 ≤ b₁) && (b₀ != 0xed || b₁ < 0xa0) &&
    (b₀ != 0xf0 || 0x90 ≤ b₁) && (b₀ != 0xf4 || b₁ < 0x90)

/-- The text whose UTF-8 form the bytes are; `pos` counts the bytes before them. -/
def decodeUtf8 (pos : Nat) : List UInt8 → Except BadBytes Text
  | [] => .ok []
  | b₀ :: r =>
    let bad (count : Nat) (reason : BadBytes.Reason) : Except BadBytes Text :=
      .error { charset := .utf8, first := b₀, start := pos, count, reason }
    if b₀ < 0x80 then (decodeUtf8 (pos + 1) r).map (.ofByte b₀ :: ·)
    else if b₀ < 0xc2 || 0xf5 ≤ b₀ then bad 1 .invalidStart
    else match r with
    | [] => bad 1 .unexpectedEnd
    | b₁ :: r =>
      if !isSecond b₀ b₁ then bad 1 .invalidContinuation
      else if b₀ < 0xe0 then
        (decodeUtf8 (pos + 2) r).map (.assemble (b₀.toNat - 0xc0) [b₁] :: ·)
      else match r with
      | [] => bad 2 .unexpectedEnd
      | b₂ :: r =>
        if !isContinuation b₂ then bad 2 .invalidContinuation
        else if b₀ < 0xf0 then
          (decodeUtf8 (pos + 3) r).map (.assemble (b₀.toNat - 0xe0) [b₁, b₂] :: ·)
        else match r with
        | [] => bad 3 .unexpectedEnd
        | b₃ :: r =>
          if !isContinuation b₃ then bad 3 .invalidContinuation
          else (decodeUtf8 (pos + 4) r).map (.assemble (b₀.toNat - 0xf0) [b₁, b₂, b₃] :: ·)

end Text

end TagTemplate
