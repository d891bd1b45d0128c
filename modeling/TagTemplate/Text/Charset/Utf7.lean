/-
# UTF-7 — text in ASCII bytes

ASCII stands for itself, but a `+` shifts into a section of letters, digits,
`+` and `/` that hold six bits each.  The bits of a section are units of UTF-16,
with less than six zeros left over.  What is none of these ends the section; a
`-` that does is dropped.  `+-` is a plus sign.

Halves of pairs that do not meet are kept as they are, except that a first half
at the end of a section is dropped before a byte that is not ASCII or is a plus.
-/
import TagTemplate.Text.Charset.Basic

namespace TagTemplate.Text

/-- The six bits of a byte within a shifted section. -/
def sextet? (b : UInt8) : Option Nat :=
  let n := b.toNat
  if 0x41 ≤ n ∧ n ≤ 0x5a then some (n - 0x41)
  else if 0x61 ≤ n ∧ n ≤ 0x7a then some (n - 0x61 + 26)
  else if 0x30 ≤ n ∧ n ≤ 0x39 then some (n - 0x30 + 52)
  else if n = 0x2b then some 62
  else if n = 0x2f then some 63
  else none

/-- A byte that stands for itself outside of shifted sections. -/
def isDirect (b : UInt8) : Bool := b < 0x80 && b != 0x2b

/-- A shifted section being read. -/
structure Shifted where
  /-- Where its `+` is. -/
  start : Nat
  /-- That `+`. -/
  opener : UInt8
  /-- The bits that are not a unit yet, and how many they are. -/
  bits : Nat
  bitCount : Nat
  /-- The first half of a pair. -/
  half : Option Nat

namespace Shifted

/-- A section after its `+`. -/
def opened (start : Nat) (opener : UInt8) : Shifted := ⟨start, opener, 0, 0, none⟩

/-- The code points that are complete when `unit` comes, and the section after it. -/
def take (s : Shifted) (unit : Nat) : Text × Shifted :=
  match s.half with
  | some half =>
    if isSecondHalf unit then ([.ofHalves half unit], { s with half := none })
    else
      let before := CodePoint.ofNatOrReplacement half
      if isFirstHalf unit then ([before], { s with half := some unit })
      else ([before, .ofNatOrReplacement unit], { s with half := none })
  | none =>
    if isFirstHalf unit then ([], { s with half := some unit })
    else ([.ofNatOrReplacement unit], s)

/-- The code points that are complete with six more bits, and the section after them. -/
def add (s : Shifted) (sextet : Nat) : Text × Shifted :=
  let bits := s.bits * 64 + sextet
  let bitCount := s.bitCount + 6
  if bitCount < 16 then ([], { s with bits, bitCount })
  else
    let rest := Nat.pow 2 (bitCount - 16)
    { s with bits := bits % rest, bitCount := bitCount - 16 }.take (bits / rest)

/-- What is wrong with the bits left over at the end of a section. -/
def fault? (s : Shifted) : Option BadBytes.Reason :=
  if 6 ≤ s.bitCount then some .partialUnit
  else if s.bits != 0 then some .padding
  else none

/-- The half left over before the byte that ends a section. -/
def leftOver (s : Shifted) (b : UInt8) : Text :=
  match s.half with
  | some half => if isDirect b then [.ofNatOrReplacement half] else []
  | none => []

end Shifted

/-- The text that bytes are in UTF-7, within a shifted section or not; `pos` counts the bytes
before them. -/
def decodeUtf7From (pos : Nat) (section? : Option Shifted) : List UInt8 → Except BadBytes Text
  | [] => match section? with
    | some s =>
      if s.half.isSome || s.fault?.isSome then
        .error ⟨.utf7, s.opener, s.start, pos - s.start, .unterminated⟩
      else .ok []
    | none => .ok []
  | b :: r =>
    let outside (before : Text) : Except BadBytes Text :=
      if b = 0x2b then
        match r with
        | 0x2d :: r' => (decodeUtf7From (pos + 2) none r').map (before ++ .ofByte b :: ·)
        | [] => (decodeUtf7From (pos + 1) (some (.opened pos b)) []).map (before ++ ·)
        | c :: r' =>
          if (sextet? c).isSome then
            (decodeUtf7From (pos + 1) (some (.opened pos b)) (c :: r')).map (before ++ ·)
          else .error ⟨.utf7, b, pos, 2, .illFormed⟩
      else if isDirect b then (decodeUtf7From (pos + 1) none r).map (before ++ .ofByte b :: ·)
      else .error ⟨.utf7, b, pos, 1, .special⟩
    match section? with
    | none => outside []
    | some s => match sextet? b with
      | some sextet =>
        let (complete, s) := s.add sextet
        (decodeUtf7From (pos + 1) (some s) r).map (complete ++ ·)
      | none => match s.fault? with
        | some reason => .error ⟨.utf7, s.opener, s.start, pos + 1 - s.start, reason⟩
        | none =>
          if b = 0x2d then (decodeUtf7From (pos + 1) none r).map (s.leftOver b ++ ·)
          else outside (s.leftOver b)

def decodeUtf7 (bytes : List UInt8) : Except BadBytes Text := decodeUtf7From 0 none bytes

end TagTemplate.Text
