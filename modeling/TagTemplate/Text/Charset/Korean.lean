/-
# Korean charsets

    EUC-KR      two bytes: a row and a column of KS X 1001 with 80 added; a
                syllable may also be spelled out by letters
    cp949       EUC-KR with the other syllables, in the order of their numbers
    Johab       two bytes with five bits for each letter of a syllable
-/
import TagTemplate.Text.Charset.Multibyte
import TagTemplate.Text.Charset.Charts.Ksx1001

namespace TagTemplate.Korean

/-- The consonants that syllables begin with, in order. -/
def initials : Text := "ㄱㄲㄴㄷㄸㄹㅁㅂㅃㅅㅆㅇㅈㅉㅊㅋㅌㅍㅎ"

/-- The consonants that syllables end with, in order. -/
def finals : Text := "ㄱㄲㄳㄴㄵㄶㄷㄹㄺㄻㄼㄽㄾㄿㅀㅁㅂㅄㅅㅆㅇㅈㅊㅋㅌㅍㅎ"

/-- The first of the syllables. -/
def firstSyllable : Nat := 0xac00

/-- The syllable of an initial, a vowel and a final by their positions; final 0 is none. -/
def syllable? (initial vowel final : Nat) : Option CodePoint :=
  CodePoint.ofNat? (firstSyllable + (initial * 21 + vowel) * 28 + final)

/-- The consonant or vowel that a byte stands for after the lead byte of letters. -/
def letter? (b : UInt8) : Option CodePoint := do
  CodePoint.ofNat? (0x3131 + (← position? [(0xa1, 0xfe)] b.toNat))

/-- The syllable of letters that are spelled out; the filler d4 stands for no final. -/
def spelled? (initial vowel final : UInt8) : Option CodePoint := do
  let i ← initials.idxOf? (← letter? initial)
  let v ← position? [(0xbf, 0xd3)] vowel.toNat
  let f ← if final = 0xd4 then some 0 else (finals.idxOf? (← letter? final)).map (· + 1)
  syllable? i v f

def readEucKr : List UInt8 → Reading Unit :=
  .orAscii fun b₀ r => match b₀, r with
    | _, [] => .short
    | 0xa4, 0xd4 :: r => match r with
      | x₀ :: initial :: x₁ :: vowel :: x₂ :: final :: _ =>
        if x₀ = 0xa4 && x₁ = 0xa4 && x₂ = 0xa4 then .ofPoint? 8 () (spelled? initial vowel final)
        else .illegal 1
      | _ => .short
    | _, b₁ :: _ => .ofPoint? 2 () (Chart.ksx1001.raised? b₀.toNat b₁.toNat)

/-- The syllable with `n` syllables before it that are not in KS X 1001. -/
def uncharted (n : Nat) : Nat :=
  let charted := Chart.ksx1001Syllables.flatMap (·.toList)
  charted.foldl (fun candidate s => if s.toNat ≤ candidate then candidate + 1 else candidate)
    (firstSyllable + n)

/-- The number of two bytes among those of code page 949 that are not in KS X 1001. -/
def extension? (b₀ b₁ : Nat) : Option Nat :=
  let inFront := do
    let row ← position? [(0x81, 0xa0)] b₀
    return row * 178 + (← position? [(0x41, 0x5a), (0x61, 0x7a), (0x81, 0xfe)] b₁)
  let atSide := do
    let row ← position? [(0xa1, 0xc6)] b₀
    return 32 * 178 + row * 84 + (← position? [(0x41, 0x5a), (0x61, 0x7a), (0x81, 0xa0)] b₁)
  inFront <|> atSide

/-- How many syllables are not in KS X 1001. -/
def extensionSize : Nat := 8822

def cp949? (b₀ b₁ : Nat) : Option CodePoint :=
  Chart.ksx1001.raised? b₀ b₁ <|> do
    let n ← extension? b₀ b₁
    if n < extensionSize then CodePoint.ofNat? (uncharted n) else none

/-- A letter in the bits of a syllable in Johab: none, or the one at a position. -/
inductive Letter where
  | filler
  | at (position : Nat)

/-- The letter that bits stand for, by the number of the filler and the ranges of the letters. -/
def Letter.ofBits? (filler : Nat) (ranges : List (Nat × Nat)) (bits : Nat) : Option Letter :=
  if bits = filler then some .filler else (position? ranges bits).map .at

/-- The syllable of two bytes in Johab, or the single letter. -/
def johabSyllable? (b₀ b₁ : Nat) : Option CodePoint := do
  let bits := b₀ * 0x100 + b₁
  let initial ← Letter.ofBits? 1 [(2, 20)] (bits / 0x400 % 0x20)
  let vowel ← Letter.ofBits? 2 [(3, 7), (10, 15), (18, 23), (26, 29)] (bits / 0x20 % 0x20)
  let final ← Letter.ofBits? 1 [(2, 17), (19, 29)] (bits % 0x20)
  match initial, vowel, final with
  | .filler, .filler, .filler => CodePoint.ofNat? 0x3000
  | .filler, .filler, .at f => finals[f]?
  | .filler, .at v, .filler => CodePoint.ofNat? (0x314f + v)
  | .at i, .filler, .filler => initials[i]?
  | .at i, .at v, .filler => syllable? i v 0
  | .at i, .at v, .at f => syllable? i v (f + 1)
  | _, _, _ => none

/-- The code point of KS X 1001 of two bytes in Johab: each first byte has two rows. -/
def johabOther? (b₀ b₁ : Nat) : Option CodePoint := do
  let pair ← position? [(0xd9, 0xde), (0xe0, 0xf9)] b₀
  let place ← position? [(0x31, 0x7e), (0x91, 0xfe)] b₁
  let isLetter := b₀ = 0xda && 0xa1 ≤ b₁ && b₁ ≤ 0xd3
  let row := if b₀ < 0xe0 then 0x21 + pair * 2 else 0x4a + (pair - 6) * 2
  if isLetter then none else Chart.ksx1001.at? (row + place / 94) (0x21 + place % 94)

def johab? (b₀ b₁ : Nat) : Option CodePoint :=
  if b₀ < 0xd8 then johabSyllable? b₀ b₁ else johabOther? b₀ b₁

end TagTemplate.Korean
