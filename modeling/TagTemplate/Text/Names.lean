/-
# Names — code points by their names

The names are those of version 14 of the Unicode standard.  Letter case does not
count in them, except in names that are put together:

    HANGUL SYLLABLE                 and the sounds of the syllable
    CJK UNIFIED IDEOGRAPH-          and the number of the code point
    CJK COMPATIBILITY IDEOGRAPH-    the same; here case does not count
-/
import TagTemplate.Text.Charset.Basic
import TagTemplate.Text.Names.Additional
import TagTemplate.Text.Names.Ancient
import TagTemplate.Text.Names.Brahmic
import TagTemplate.Text.Names.Cuneiform
import TagTemplate.Text.Names.Emotive
import TagTemplate.Text.Names.European
import TagTemplate.Text.Names.FarAsian
import TagTemplate.Text.Names.Further
import TagTemplate.Text.Names.Geometric
import TagTemplate.Text.Names.Hieroglyphic
import TagTemplate.Text.Names.Mathematical
import TagTemplate.Text.Names.MiddleEastern
import TagTemplate.Text.Names.Phonetic
import TagTemplate.Text.Names.Pictured
import TagTemplate.Text.Names.Presentation
import TagTemplate.Text.Names.Recorded
import TagTemplate.Text.Names.Signed
import TagTemplate.Text.Names.SouthAsian
import TagTemplate.Text.Names.Supplemental
import TagTemplate.Text.Names.Syllabic
import TagTemplate.Text.Names.Technical

namespace TagTemplate

/-- Names that end in the number of the code point. -/
structure NumberedNames where
  /-- What the names begin with. -/
  stem : String
  /-- How many digits a number may have. -/
  widths : List Nat
  /-- The numbers of the code points. -/
  ranges : List (Nat × Nat)

namespace NumberedNames

/-- The value of a hexadecimal digit, its letters capitals. -/
def digit? (c : CodePoint) : Option Nat := position? [(0x30, 0x39), (0x41, 0x46)] c.val

/-- The code point of a name, if it is one of these. -/
def find? (names : NumberedNames) (name : Text) : Option CodePoint := do
  let stem : Text := names.stem
  let digits := name.drop stem.length
  if stem.isPrefixOf name && names.widths.contains digits.length then
    let number := (← digits.mapM digit?).foldl (fun n d => n * 16 + d) 0
    if names.ranges.any fun r => r.1 ≤ number && number ≤ r.2 then CodePoint.ofNat? number
    else none
  else none

/-- The unified ideographs. -/
def ideographs : NumberedNames where
  stem := "CJK UNIFIED IDEOGRAPH-"
  widths := [4, 5]
  ranges := [(0x3400, 0x4dbf), (0x4e00, 0x9fff), (0x20000, 0x2a6df), (0x2a700, 0x2b738),
    (0x2b740, 0x2b81d), (0x2b820, 0x2cea1), (0x2ceb0, 0x2ebe0), (0x30000, 0x3134a)]

/-- Names in which case does not count. -/
def others : List NumberedNames := [
  ⟨"CJK COMPATIBILITY IDEOGRAPH-", [4], [(0xf900, 0xfa6d), (0xfa70, 0xfad9)]⟩,
  ⟨"CJK COMPATIBILITY IDEOGRAPH-", [5], [(0x2f800, 0x2fa1d)]⟩,
  ⟨"KHITAN SMALL SCRIPT CHARACTER-", [5], [(0x18b00, 0x18cd5)]⟩,
  ⟨"NUSHU CHARACTER-", [5], [(0x1b170, 0x1b2fb)]⟩]

end NumberedNames

def NameRun.all : List (List NameRun) := [
  european, middleEastern, southAsian, farAsian, phonetic, technical, geometric, supplemental,
  additional, syllabic, presentation, ancient, brahmic, cuneiform, hieroglyphic, recorded,
  mathematical, signed, pictured, emotive, further]

namespace Syllable

/-- What the names of syllables begin with. -/
def stem : Text := "HANGUL SYLLABLE "

/-- The sounds that begin a syllable; one of them is silent. -/
def initials : List Text := Text.splitOn ',' "G,GG,N,D,DD,R,M,B,BB,S,SS,,J,JJ,C,K,T,P,H"

def vowels : List Text :=
  Text.splitOn ',' "A,AE,YA,YAE,EO,E,YEO,YE,O,WA,WAE,OE,YO,U,WEO,WE,WI,YU,EU,YI,I"

/-- The sounds that end a syllable, if any does. -/
def finals : List Text :=
  Text.splitOn ',' ",G,GG,GS,N,NJ,NH,D,L,LG,LM,LB,LS,LT,LP,LH,M,B,BS,S,SS,NG,J,C,K,T,P,H"

/-- The longest of the sounds that a text begins with: its index, and what comes after it. -/
def longest? (sounds : List Text) (t : Text) : Option (Nat × Text) :=
  let fitting := sounds.zipIdx.filter fun s => s.1.isPrefixOf t
  let longer (best : Option (Text × Nat)) (s : Text × Nat) : Option (Text × Nat) :=
    match best with
    | some b => if b.1.length < s.1.length then some s else some b
    | none => some s
  (fitting.foldl longer none).map fun s => (s.2, t.drop s.1.length)

/-- The syllable of the sounds. -/
def ofSounds? (t : Text) : Option CodePoint := do
  let (initial, t) ← longest? initials t
  let (vowel, t) ← longest? vowels t
  let (final, t) ← longest? finals t
  if t.isEmpty then CodePoint.ofNat? (0xac00 + (initial * 21 + vowel) * 28 + final) else none

end Syllable

namespace CodePoint

/-- A small ASCII letter as a capital. -/
def capital (c : CodePoint) : CodePoint :=
  if 0x61 ≤ c.val && c.val ≤ 0x7a then ofNatOrReplacement (c.val - 0x20) else c

def ofName? (name : Text) : Option CodePoint :=
  if Syllable.stem.isPrefixOf name then Syllable.ofSounds? (name.drop Syllable.stem.length)
  else NumberedNames.ideographs.find? name <|>
    let name := name.map capital
    NumberedNames.others.findSome? (·.find? name) <|>
      NameRun.all.findSome? (·.findSome? (·.find? name))

end CodePoint

end TagTemplate
