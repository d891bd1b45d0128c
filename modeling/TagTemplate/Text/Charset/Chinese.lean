/-
# Chinese charsets

    GB 2312     two bytes: a row and a column with 80 added
    GBK         two bytes, with more rows and columns
    GB 18030    GBK with all places filled; four bytes for all other code points
    HZ          GB 2312 without 80 added, between `~{` and `~}`
    Big5        two bytes, for traditional characters
    cp950       Big5 with other code points for some
    HKSCS       Big5 with the characters of Hong Kong
-/
import TagTemplate.Text.Charset.Multibyte
import TagTemplate.Text.Charset.Charts.Gb2312
import TagTemplate.Text.Charset.Charts.Gbk
import TagTemplate.Text.Charset.Charts.Gb18030
import TagTemplate.Text.Charset.Charts.Big5

namespace TagTemplate.Chinese

def gbk? (b₀ b₁ : Nat) : Option CodePoint :=
  Chart.gbk.at? b₀ b₁ <|> Chart.gb2312.raised? b₀ b₁

/-- The number of a place among the spare ones. -/
def spare? (b₀ b₁ : Nat) : List (Nat × Nat × Nat) → Option Nat
  | [] => none
  | (row, column, count) :: r =>
    if b₀ = row && column ≤ b₁ && b₁ < column + count then some (b₁ - column)
    else (spare? b₀ b₁ r).map (· + count)

/-- The private code point of two bytes that have no other in GB 18030: three regions are for users,
and then come the spare places. -/
def private? (b₀ b₁ : Nat) : Option Nat :=
  let column? := position? [(0xa1, 0xfe)] b₁
  let sideColumn? := position? [(0x40, 0x7e), (0x80, 0xa0)] b₁
  let region? (first last start width : Nat) (column? : Option Nat) : Option Nat := do
    let row ← position? [(first, last)] b₀
    return start + row * width + (← column?)
  region? 0xaa 0xaf 0xe000 94 column? <|> region? 0xf8 0xfe 0xe234 94 column? <|>
    region? 0xa1 0xa7 0xe4c6 96 sideColumn? <|>
    (spare? b₀ b₁ Chart.gb18030Spare).map (· + 0xe766)

/-- The code point of two bytes in GB 18030. -/
def gb18030? (b₀ b₁ : Nat) : Option CodePoint :=
  gbk? b₀ b₁ <|> Chart.gb18030.at? b₀ b₁ <|> (private? b₀ b₁).bind CodePoint.ofNat?

/-- The code point of a number among those with four bytes in the basic plane. -/
def inRuns? : List (Nat × Nat) → Nat → Option CodePoint
  | [], _ => none
  | (first, count) :: runs, n =>
    if n < count then CodePoint.ofNat? (first + n) else inRuns? runs (n - count)

/-- The code point of four bytes in GB 18030. -/
def fourByte? (b₀ b₁ b₂ b₃ : Nat) : Option CodePoint := do
  let x₀ ← position? [(0x81, 0xfe)] b₀
  let x₁ ← position? [(0x30, 0x39)] b₁
  let x₂ ← position? [(0x81, 0xfe)] b₂
  let x₃ ← position? [(0x30, 0x39)] b₃
  let number := ((x₀ * 10 + x₁) * 126 + x₂) * 10 + x₃
  let beyondBasic := 15 * 12600
  if number < beyondBasic then inRuns? Chart.gb18030Runs number
  else CodePoint.ofNat? (number - beyondBasic + 0x10000)

def readGb18030 : List UInt8 → Reading Unit :=
  .orAscii fun b₀ r => match r with
    | [] => .short
    | b₁ :: r =>
      if 0x30 ≤ b₁ && b₁ ≤ 0x39 then match r with
        | b₂ :: b₃ :: _ =>
          .ofPoint? 4 () (fourByte? b₀.toNat b₁.toNat b₂.toNat b₃.toNat)
        | _ => .short
      else .ofPoint? 2 () (gb18030? b₀.toNat b₁.toNat)

/-- What stands at the front of bytes in HZ; `shifted` after a `~\x7b`. -/
def readHz (shifted : Bool) : List UInt8 → Reading Bool
  | [] => .short
  | 0x7e :: r => match r with
    | [] => .short
    | 0x7e :: _ => if shifted then .illegal 1 else .text "~" 2 false
    | 0x0a :: _ => if shifted then .illegal 1 else .text [] 2 false
    | 0x7b :: _ => if shifted then .illegal 1 else .text [] 2 true
    | 0x7d :: _ => if shifted then .text [] 2 false else .illegal 1
    | _ => .illegal 1
  | b₀ :: r =>
    if 0x80 ≤ b₀ then .illegal 1
    else if !shifted then .text [.ofByte b₀] 1 false
    else match r with
      | [] => .short
      | b₁ :: _ => .ofPoint? 2 true (Chart.gb2312.at? b₀.toNat b₁.toNat)

def cp950? (b₀ b₁ : Nat) : Option CodePoint :=
  Chart.cp950.at? b₀ b₁ <|> Chart.big5.at? b₀ b₁

/-- Two code points for two bytes, in Big5 with the characters of Hong Kong. -/
def hongKongPairs : List ((Nat × Nat) × Text) :=
  [((0x88, 0x62), "Ê\u0304"), ((0x88, 0x64), "Ê\u030c"), ((0x88, 0xa3), "ê\u0304"),
   ((0x88, 0xa5), "ê\u030c")]

/-- The code point of two bytes in Big5 with the characters of Hong Kong; these take the place of
the rows from c6a1 to c8. -/
def hkscs? (b₀ b₁ : Nat) : Option CodePoint :=
  let replaced := (b₀ = 0xc6 && 0xa1 ≤ b₁) || b₀ = 0xc7 || b₀ = 0xc8
  Chart.hkscs.at? b₀ b₁ <|> if replaced then none else Chart.big5.at? b₀ b₁

def readHkscs : List UInt8 → Reading Unit :=
  .orAscii fun b₀ r => match r with
    | [] => .short
    | b₁ :: _ => match hongKongPairs.lookup (b₀.toNat, b₁.toNat) with
      | some pair => .text pair 2 ()
      | none => .ofPoint? 2 () (hkscs? b₀.toNat b₁.toNat)

end TagTemplate.Chinese
