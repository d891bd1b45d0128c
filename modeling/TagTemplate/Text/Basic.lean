/-
# Text — sequences of code points

Template sources, names and data strings may hold any code point, a lone
surrogate included, which a `Char` cannot be.  A text is therefore a list of
code points; string literals are read as texts through a coercion.

    splitOn c t      the pieces of t between the occurrences of c
    join s ts        the pieces ts with s between each two
    ofNat, ofInt     a number in decimal
-/

namespace TagTemplate

/-- A Unicode code point; surrogates are code points too. -/
structure CodePoint where
  /-- The number of the code point. -/
  val : Nat
  /-- Code points end at U+10FFFF. -/
  val_lt : val < 0x110000
deriving DecidableEq

namespace CodePoint

def ofChar (c : Char) : CodePoint where
  val := c.val.toNat
  val_lt := by
    have h : c.val.toNat < 0xd800 ∨ (0xdfff < c.val.toNat ∧ c.val.toNat < 0x110000) := c.valid
    omega

/-- The code point numbered `n`, if there is one. -/
def ofNat? (n : Nat) : Option CodePoint :=
  if h : n < 0x110000 then some ⟨n, h⟩ else none

instance : Coe Char CodePoint := ⟨ofChar⟩

instance : LT CodePoint := ⟨fun a b => a.val < b.val⟩

instance : DecidableLT CodePoint := fun a b => inferInstanceAs (Decidable (a.val < b.val))

/-- Surrogates stand for no character on their own. -/
def isSurrogate (c : CodePoint) : Bool := 0xd800 ≤ c.val && c.val ≤ 0xdfff

/-- The number of `c` lies in one of the closed ranges. -/
def inRanges (ranges : List (Nat × Nat)) (c : CodePoint) : Bool :=
  ranges.any fun r => r.1 ≤ c.val && c.val ≤ r.2

end CodePoint

/-- A text is a list of code points. -/
abbrev Text := List CodePoint

namespace Text

/-- The text of a string, one code point per character. -/
def ofString (s : String) : Text := s.toList.map .ofChar

instance : Coe String Text := ⟨ofString⟩

/-- Texts are ordered as words are, by the first code point in which they differ. -/
def le (a b : Text) : Bool := !decide (b < a)

/-- The pieces of a text between the occurrences of `sep`: one more than occurrences. -/
def splitOn (sep : CodePoint) (t : Text) : List Text :=
  t.foldr
    (fun c pieces =>
      if c = sep then [] :: pieces
      else match pieces with
        | [] => [[c]]
        | p :: ps => (c :: p) :: ps)
    [[]]

/-- The pieces with `sep` between each two. -/
def join (sep : Text) : List Text → Text
  | [] => []
  | [t] => t
  | t :: ts => t ++ sep ++ join sep ts

/-- A natural number in decimal. -/
def ofNat (n : Nat) : Text := n.repr

/-- An integer in decimal, with a sign if negative. -/
def ofInt : Int → Text
  | .ofNat n => ofNat n
  | .negSucc n => "-" ++ ofNat (n + 1)

/-- `n` copies of a character. -/
def replicate (n : Nat) (c : Char) : Text := List.replicate n (CodePoint.ofChar c)

/-- The text with `fill` before it until it is `width` long. -/
def padLeft (width : Nat) (fill : Char) (t : Text) : Text :=
  replicate (width - t.length) fill ++ t

/-- `part` occurs somewhere in `t`. -/
def hasPart (part : Text) : Text → Bool
  | [] => part.isEmpty
  | c :: r => part.isPrefixOf (c :: r) || hasPart part r

/-- The string of a text, if it holds no surrogate. -/
def toString? (t : Text) : Option String :=
  if t.any CodePoint.isSurrogate then none
  else some (String.ofList (t.map fun c => Char.ofNat c.val))

/-- The digit for a value below sixteen, in lower case. -/
def hexDigit (n : Nat) : Char :=
  if n < 10 then Char.ofNat (0x30 + n) else Char.ofNat (0x57 + n)

/-- The last `width` hexadecimal digits of `n`. -/
def hex : (width : Nat) → (n : Nat) → Text
  | 0, _ => []
  | w + 1, n => hex w (n / 16) ++ [.ofChar (hexDigit (n % 16))]

end Text

end TagTemplate
