/-
# Japanese charsets

    EUC-JP      two bytes: a row and a column of JIS X 0208 with 80 added; 8e
                comes before half-width kana, 8f before JIS X 0212
    Shift_JIS   one byte for half-width kana, two for JIS X 0208
    cp932       Shift_JIS with more rows, and places for users
    JIS X 0213  stands in both ways too, in an edition of 2000 and one of 2004
-/
import TagTemplate.Text.Charset.Multibyte
import TagTemplate.Text.Charset.Charts.Jisx0208
import TagTemplate.Text.Charset.Charts.Jisx0212
import TagTemplate.Text.Charset.Charts.Jisx0213
import TagTemplate.Text.Charset.Charts.Cp932

namespace TagTemplate.Japanese

/-- The half-width kana of a byte. -/
def kana? (b : UInt8) : Option CodePoint :=
  if 0xa1 ≤ b && b ≤ 0xdf then CodePoint.ofNat? (0xff61 + (b.toNat - 0xa1)) else none

/-- The places that the edition of 2004 filled in the first plane. -/
def addedIn2004 : List (Nat × Nat) :=
  [(0x2e, 0x21), (0x2f, 0x7e), (0x4f, 0x54), (0x4f, 0x7e), (0x74, 0x27), (0x7e, 0x7a),
   (0x7e, 0x7b), (0x7e, 0x7c), (0x7e, 0x7d), (0x7e, 0x7e)]

/-- Two code points for one place in the first plane. -/
def pairs : List ((Nat × Nat) × Text) :=
  [((0x24, 0x77), "か\u309a"), ((0x24, 0x78), "き\u309a"), ((0x24, 0x79), "く\u309a"),
   ((0x24, 0x7a), "け\u309a"), ((0x24, 0x7b), "こ\u309a"), ((0x25, 0x77), "カ\u309a"),
   ((0x25, 0x78), "キ\u309a"), ((0x25, 0x79), "ク\u309a"), ((0x25, 0x7a), "ケ\u309a"),
   ((0x25, 0x7b), "コ\u309a"), ((0x25, 0x7c), "セ\u309a"), ((0x25, 0x7d), "ツ\u309a"),
   ((0x25, 0x7e), "ト\u309a"), ((0x26, 0x78), "ㇷ\u309a"), ((0x2b, 0x44), "æ\u0300"),
   ((0x2b, 0x48), "ɔ\u0300"), ((0x2b, 0x49), "ɔ\u0301"), ((0x2b, 0x4a), "ʌ\u0300"),
   ((0x2b, 0x4b), "ʌ\u0301"), ((0x2b, 0x4c), "ə\u0300"), ((0x2b, 0x4d), "ə\u0301"),
   ((0x2b, 0x4e), "ɚ\u0300"), ((0x2b, 0x4f), "ɚ\u0301"), ((0x2b, 0x65), "˩˥"),
   ((0x2b, 0x66), "˥˩")]

/-- The text at a place of the first plane of JIS X 0213. -/
def firstPlane? (edition : JisEdition) (row column : Nat) : Option Text :=
  if edition = .y2000 && addedIn2004.contains (row, column) then none
  else pairs.lookup (row, column) <|>
    (Chart.jisx0208.at? row column <|> Chart.jisx0213.at? row column).map ([·])

/-- The text at a place of the second plane of JIS X 0213. -/
def secondPlane? (edition : JisEdition) (row column : Nat) : Option Text :=
  if edition = .y2000 && row = 0x7d && column = 0x3b then some "鬝"
  else (Chart.jisx0213Second.at? row column).map ([·])

/-- The text of a place, or how many of its bytes are wrong. -/
abbrev Place := Except Nat Text

/-- What is not there is wrong from its first byte. -/
def Place.ofText? : Option Text → Place
  | some t => .ok t
  | none => .error 1

/-- What a chart has. -/
def Place.ofPoint? (c : Option CodePoint) : Place := .ofText? (c.map ([·]))

/-- A place of the first plane of JIS X 0213.  Where the edition of 2000 has nothing yet, both bytes
are wrong. -/
def Place.inFirstPlane (edition : JisEdition) (row column : Nat) : Place :=
  match firstPlane? edition row column with
  | some t => .ok t
  | none => .error (if addedIn2004.contains (row, column) then 2 else 1)

/-- A place that takes `count` bytes. -/
def Place.reading (count : Nat) : Place → Reading Unit
  | .ok t => .text t count ()
  | .error wrong => .illegal wrong

/-- What stands at the front of bytes in EUC-JP, with the places after no byte and those after 8f. -/
def readEuc (first second : Nat → Nat → Place) : List UInt8 → Reading Unit :=
  .orAscii fun b₀ r => match b₀, r with
    | _, [] => .short
    | 0x8e, b :: _ => .ofPoint? 2 () (kana? b)
    | 0x8f, b₁ :: b₂ :: _ => (raised second b₁ b₂).reading 3
    | 0x8f, _ => .short
    | _, b₁ :: _ => (raised first b₀ b₁).reading 2
where
  raised (place : Nat → Nat → Place) (b₀ b₁ : UInt8) : Place :=
    if b₀ < 0x80 || b₁ < 0x80 then .error 1 else place (b₀.toNat - 0x80) (b₁.toNat - 0x80)

def readEucJp : List UInt8 → Reading Unit :=
  readEuc (fun row column => .ofPoint? (Chart.jisx0208.at? row column))
    fun row column => .ofPoint? (Chart.jisx0212.at? row column)

def readEucJis (edition : JisEdition) : List UInt8 → Reading Unit :=
  readEuc (.inFirstPlane edition) fun row column =>
    .ofText? (secondPlane? edition row column <|> (Chart.jisx0212.at? row column).map ([·]))

/-- The place that two bytes in Shift_JIS stand for: each first byte has two rows, and rows are
counted from zero. -/
def unshift? (b₀ b₁ : UInt8) : Option (Nat × Nat) := do
  let pair ← position? [(0x81, 0x9f), (0xe0, 0xfc)] b₀.toNat
  let place ← position? [(0x40, 0x7e), (0x80, 0xfc)] b₁.toNat
  return (pair * 2 + place / 94, 0x21 + place % 94)

/-- What stands at the front of bytes in Shift_JIS, where `isLead` says which bytes are the first of
two and `place` what these are. -/
def readShifted (isLead : UInt8 → Bool) (place : UInt8 → UInt8 → Place) :
    List UInt8 → Reading Unit :=
  .orAscii fun b₀ r => match kana? b₀ with
    | some c => .text [c] 1 ()
    | none =>
      if !isLead b₀ then .illegal 1
      else match r with
        | [] => .short
        | b₁ :: _ => (place b₀ b₁).reading 2

/-- The code point of two bytes in Shift_JIS. -/
def shifted? (b₀ b₁ : UInt8) : Option CodePoint := do
  let (row, column) ← unshift? b₀ b₁
  Chart.jisx0208.at? (0x21 + row) column

def readShiftJis : List UInt8 → Reading Unit :=
  readShifted (fun b => 0x81 ≤ b && b ≤ 0x9f || 0xe0 ≤ b && b ≤ 0xea)
    fun b₀ b₁ => .ofPoint? (shifted? b₀ b₁)

/-- The private code point of two bytes for users in code page 932. -/
def forUsers? (b₀ b₁ : UInt8) : Option CodePoint := do
  let row ← position? [(0xf0, 0xf9)] b₀.toNat
  let column ← position? [(0x40, 0x7e), (0x80, 0xfc)] b₁.toNat
  CodePoint.ofNat? (0xe000 + row * 188 + column)

/-- What stands at the front of bytes in code page 932.  The bytes that stand for nothing else are
control codes or private. -/
def readCp932 : List UInt8 → Reading Unit
  | 0x80 :: _ => .ofPoint? 1 () (CodePoint.ofNat? 0x80)
  | 0xa0 :: _ => .ofPoint? 1 () (CodePoint.ofNat? 0xf8f0)
  | 0xfd :: _ => .ofPoint? 1 () (CodePoint.ofNat? 0xf8f1)
  | 0xfe :: _ => .ofPoint? 1 () (CodePoint.ofNat? 0xf8f2)
  | 0xff :: _ => .ofPoint? 1 () (CodePoint.ofNat? 0xf8f3)
  | bytes => readShifted (fun _ => true) (fun b₀ b₁ => .ofPoint?
      (Chart.cp932.at? b₀.toNat b₁.toNat <|> shifted? b₀ b₁ <|> forUsers? b₀ b₁)) bytes

/-- The rows of the second plane that Shift_JIS has, in order. -/
def shiftedRows : List Nat :=
  [0x21, 0x28, 0x23, 0x24, 0x25, 0x2c, 0x2d, 0x2e, 0x2f] ++ (List.range 17).map (0x6e + ·)

/-- The place of two bytes in Shift_JIS with JIS X 0213.  A backslash and a tilde are where
full-width ones are otherwise. -/
def shiftedJis (edition : JisEdition) (b₀ b₁ : UInt8) : Place :=
  match unshift? b₀ b₁ with
  | none => .error 1
  | some (row, column) =>
    if row = 0 && column = 0x40 then .ok "\x5c"
    else if row = 1 && column = 0x32 then .ok "~"
    else if row < 94 then .inFirstPlane edition (0x21 + row) column
    else .ofText? (do secondPlane? edition (← shiftedRows[row - 94]?) column)

/-- What stands at the front of bytes in Shift_JIS with JIS X 0213.  A yen sign and an overline are
where ASCII has a backslash and a tilde. -/
def readShiftJis0213 (edition : JisEdition) : List UInt8 → Reading Unit
  | 0x5c :: _ => .text "¥" 1 ()
  | 0x7e :: _ => .text "‾" 1 ()
  | bytes => readShifted (fun b => 0x81 ≤ b && b ≤ 0x9f || 0xe0 ≤ b && b ≤ 0xfc)
      (shiftedJis edition) bytes

end TagTemplate.Japanese
