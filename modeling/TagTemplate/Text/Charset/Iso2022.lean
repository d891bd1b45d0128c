/-
# ISO 2022 — charsets that escape sequences switch between

Text is in seven-bit bytes.  An escape sequence designates a set of code points,
and the bytes after it are code points of that set, one or two bytes for each.
Two sets are at hand in some variants, between which 0e and 0f shift; and in one
variant there is a third set, for the single byte after an escape and `N`.

    ESC ( x      a set of one byte, as the first     ESC $ x, ESC $ ( x   of two bytes
    ESC ) x      as the second                       ESC $ ) x            as the second
    ESC . x      as the third

Any other escape sequence is part of the text.
-/
import TagTemplate.Text.Charset.Chinese
import TagTemplate.Text.Charset.Japanese
import TagTemplate.Text.Charset.Korean
import TagTemplate.Text.Charset.Pages.Iso

namespace TagTemplate.Iso2022

/-- A set of code points. -/
inductive GraphicSet where
  | ascii
  /-- The second half of ISO 8859-1. -/
  | latin1
  /-- The second half of ISO 8859-7. -/
  | greek
  /-- ASCII with a yen sign and an overline. -/
  | roman
  | kana
  | gb2312
  | ksx1001
  | jisx0208
  | jisx0212
  | firstPlane (edition : JisEdition)
  | secondPlane
deriving DecidableEq

/-- The last byte of an escape sequence, and whether it is for a set of two bytes. -/
abbrev Mark := UInt8 × Bool

/-- What differs from one variant to another. -/
structure Variant where
  /-- The sets besides ASCII, by their marks. -/
  sets : List (Mark × GraphicSet)
  /-- The bytes 0e and 0f shift between two sets. -/
  shifts : Bool
  /-- There is a third set. -/
  hasThird : Bool
  /-- The revised JIS X 0208 may be designated by a sequence of its own. -/
  hasRevision : Bool

/-- What has been designated. -/
structure State where
  first : GraphicSet
  second : GraphicSet
  third : GraphicSet
  /-- The second set is in use. -/
  isShifted : Bool
  /-- In an escape sequence that is part of the text. -/
  isPassing : Bool

/-- At the start there is only ASCII. -/
def State.start : State := ⟨.ascii, .ascii, .ascii, false, false⟩

/-- A byte that ends an escape sequence. -/
def isFinal (b : UInt8) : Bool := 0x40 ≤ b && b ≤ 0x5a

/-- A byte after an escape that begins a designation. -/
def isDesignator (b : UInt8) : Bool := [0x24, 0x26, 0x28, 0x29, 0x2e].contains b

/-- Where an escape sequence ends. -/
inductive Extent where
  | bytes (count : Nat)
  /-- Not soon enough. -/
  | none
  /-- Behind the last byte. -/
  | beyond

/-- The extent of an escape sequence, from what comes after its first `n` bytes. -/
def extent (hasRevision : Bool) (n : Nat) : List UInt8 → Extent
  | [] => if 16 ≤ n then .none else .beyond
  | b :: r =>
    if 16 ≤ n then .none
    else if isFinal b then .bytes (n + 1)
    else if hasRevision && b = 0x26 && r.head? = some 0x40 then match r with
      | _ :: _ :: r => extent hasRevision (n + 3) r
      | _ => if 13 ≤ n then .none else .beyond
    else extent hasRevision (n + 1) r

/-- The state after a set has been designated by a mark. -/
def Variant.designate? (v : Variant) (mark : Mark) (put : GraphicSet → State) : Option State :=
  if mark = (0x42, false) then some (put .ascii) else (v.sets.lookup mark).map put

/-- The state after an escape sequence, by its bytes after the escape. -/
def Variant.switch? (v : Variant) (s : State) : List UInt8 → Option State
  | [0x24, m] => v.designate? (m, true) fun set => { s with first := set }
  | [0x28, m] => v.designate? (m, false) fun set => { s with first := set }
  | [0x29, m] => v.designate? (m, false) fun set => { s with second := set }
  | [0x2e, m] =>
    if v.hasThird then v.designate? (m, false) fun set => { s with third := set } else none
  | [0x24, 0x28, m] => v.designate? (m, true) fun set => { s with first := set }
  | [0x24, 0x29, m] => v.designate? (m, true) fun set => { s with second := set }
  | [_, _, 0x1b, 0x24, 0x42] => if v.hasRevision then some { s with first := .jisx0208 } else none
  | _ => none

/-- The code point of a byte in a set of one byte. -/
def GraphicSet.single? (set : GraphicSet) (b : UInt8) : Option CodePoint :=
  match set with
  | ascii => some (.ofByte b)
  | roman => if b = 0x5c then some '¥' else if b = 0x7e then some '‾' else some (.ofByte b)
  | kana => Japanese.kana? (b + 0x80)
  | _ => none

/-- The text of two bytes in a set of two bytes, if it is one. -/
def GraphicSet.double? (set : GraphicSet) : Option (Nat → Nat → Option Text) :=
  let ofChart (chart : Chart) (row column : Nat) : Option Text :=
    (chart.at? row column).map ([·])
  match set with
  | gb2312 => some (ofChart Chart.gb2312)
  | ksx1001 => some (ofChart Chart.ksx1001)
  | jisx0208 => some (ofChart Chart.jisx0208)
  | jisx0212 => some (ofChart Chart.jisx0212)
  -- the tilde is not a wide one here
  | firstPlane edition => some fun row column =>
    if row = 0x22 && column = 0x32 then some "~" else Japanese.firstPlane? edition row column
  | secondPlane => some (ofChart Chart.jisx0213Second)
  | _ => none

/-- What an escape, an `N` and a byte are, when the byte is of this set. -/
def GraphicSet.readThird (set : GraphicSet) (s : State) (b : UInt8) : Reading State :=
  let reading (c : Option CodePoint) : Reading State := match c with
    | some c => .text [c] 3 s
    | none => .illegal 3
  match set with
  | ascii => reading (if b < 0x80 then some (.ofByte b) else none)
  | latin1 => reading (if b < 0x80 then some (.ofByte (b + 0x80)) else none)
  | greek =>
    let b := b ^^^ 0x80
    -- these came later
    reading (if [0xa4, 0xa5, 0xaa].contains b then none else CodePage.iso8859x7.point? b)
  | _ => .wrong 3 .unreadableSet

/-- What a byte that is no control code is in the set in use. -/
def readSet (s : State) (b : UInt8) (r : List UInt8) : Reading State :=
  let set := if s.isShifted then s.second else s.first
  match set.double? with
  | none => .ofPoint? 1 s (set.single? b)
  | some text? => match r with
    | [] => .short
    | b₁ :: _ => match text? b.toNat b₁.toNat with
      | some t => .text t 2 s
      | none => .illegal 2

/-- What an escape is with the bytes after it. -/
def Variant.readEscape (v : Variant) (s : State) : List UInt8 → Reading State
  | [] => .short
  | b₁ :: r =>
    if isDesignator b₁ then match extent v.hasRevision 1 (b₁ :: r) with
      | .beyond => .short
      | .none => .illegal 1
      | .bytes count => match v.switch? s ((b₁ :: r).take (count - 1)) with
        | some s => .text [] count s
        | none => .illegal count
    else if v.hasThird && b₁ = 0x4e then match r with
      | [] => .short
      | b₂ :: _ => s.third.readThird s b₂
    else .text "\x1b" 1 { s with isPassing := true }

/-- What stands at the front of bytes in a variant. -/
def Variant.read (v : Variant) (s : State) : List UInt8 → Reading State
  | [] => .short
  | b :: r =>
    if s.isPassing then .text [.ofByte b] 1 { s with isPassing := !isFinal b }
    else if b = 0x1b then v.readEscape s r
    else if v.shifts && b = 0x0e then .text [] 1 { s with isShifted := true }
    else if v.shifts && b = 0x0f then .text [] 1 { s with isShifted := false }
    else if b = 0x0a then .text [.ofByte b] 1 { s with isShifted := false }
    else if b < 0x20 then .text [.ofByte b] 1 s
    else if 0x80 ≤ b then .illegal 1
    else readSet s b r

/-- The sets of the first Japanese variant; two editions of JIS X 0208 have marks. -/
def earlySets : List (Mark × GraphicSet) :=
  [((0x42, true), .jisx0208), ((0x40, true), .jisx0208), ((0x4a, false), .roman)]

def japanese (sets : List (Mark × GraphicSet)) : Variant :=
  { sets, shifts := false, hasThird := false, hasRevision := true }

def jp : Variant := japanese earlySets

def jp1 : Variant := japanese (((0x44, true), .jisx0212) :: earlySets)

def jp2 : Variant :=
  { japanese ([((0x44, true), .jisx0212), ((0x43, true), .ksx1001), ((0x41, true), .gb2312),
      ((0x41, false), .latin1), ((0x46, false), .greek)] ++ earlySets) with hasThird := true }

def jp3 : Variant :=
  japanese [((0x42, true), .jisx0208), ((0x4f, true), .firstPlane .y2000),
    ((0x50, true), .secondPlane)]

def jp2004 : Variant :=
  japanese [((0x42, true), .jisx0208), ((0x51, true), .firstPlane .y2004),
    ((0x50, true), .secondPlane)]

def jpExt : Variant :=
  japanese ([((0x44, true), .jisx0212), ((0x49, false), .kana)] ++ earlySets)

def kr : Variant :=
  { sets := [((0x43, true), .ksx1001)], shifts := true, hasThird := false, hasRevision := false }

end TagTemplate.Iso2022
