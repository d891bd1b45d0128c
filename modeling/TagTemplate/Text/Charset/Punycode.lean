/-
# Punycode — text in ASCII letters and digits

The ASCII code points of a text come first, up to the last hyphen.  What comes
after that are numbers in a base of 36 whose digits have a changing weight; each
says which code point is next in order, and where it belongs.
-/
import TagTemplate.Text.Charset.Single

namespace TagTemplate.Punycode

/-! ## Reading -/

/-- The value of a digit; letters come first. -/
def digit? (c : CodePoint) : Option Nat :=
  position? [(0x41, 0x5a), (0x30, 0x39)] c.val <|> position? [(0x61, 0x7a)] c.val

/-- The threshold below which a digit is the last of its number, for the digit at `index`. -/
def threshold (bias index : Nat) : Nat := min 26 (max 1 (36 * (index + 1) - bias))

/-- The number at the front of digits, and what comes after it. -/
def number (bias index weight sum : Nat) : Text → Except PunycodeFault (Nat × Text)
  | [] => .error .incomplete
  | c :: r => match digit? c with
    | none => .error (.notDigit c)
    | some d =>
      let t := threshold bias index
      let sum := sum + d * weight
      if d < t then .ok (sum, r) else number bias (index + 1) (weight * (36 - t)) sum r

/-- How the bias grows with what is left of a number. -/
def damped (delta divisions : Nat) : Nat :=
  if 455 < delta then damped (delta / 35) (divisions + 36)
  else divisions + 36 * delta / (delta + 38)
termination_by delta

/-- The bias after a number, when the text has `size` code points. -/
def adapted (delta : Nat) (isFirst : Bool) (size : Nat) : Nat :=
  let delta := delta / (if isFirst then 700 else 2)
  damped (delta + delta / size) 0

/-- The text with the code points put in that numbers stand for.  `last` is the code point put in
last, `next` the place behind it; `fuel` bounds how many numbers there are. -/
def insert (fuel last next bias : Nat) (isFirst : Bool) (base numbers : Text) :
    Except PunycodeFault Text :=
  match fuel, numbers with
  | 0, _ | _, [] => .ok base
  | fuel + 1, numbers => do
    let (delta, rest) ← number bias 0 1 0 numbers
    let size := base.length + 1
    let c := last + (next + delta) / size
    let place := (next + delta) % size
    match CodePoint.ofNat? c with
    | none => .error (.beyondLast c)
    | some point =>
      insert fuel c (place + 1) (adapted delta isFirst size) false
        (base.take place ++ point :: base.drop place) rest

/-- The bytes up to the last hyphen and those behind it. -/
def parts (bytes : List UInt8) : List UInt8 × List UInt8 :=
  let numbers := (bytes.reverse.takeWhile (· != 0x2d)).reverse
  (bytes.take (bytes.length - numbers.length - 1), numbers)

/-- The text that bytes are in Punycode. -/
def decode (bytes : List UInt8) : Except Undecodable Text := do
  let (base, numbers) := parts bytes
  let base ← (Text.decodeAscii base).mapError .badBytes
  let numbers ← (Text.decodeAscii numbers).mapError .badBytes
  (insert numbers.length 0x80 0 72 true base numbers).mapError .punycode

/-! ## Writing -/

/-- The digit of a value. -/
def digitOf (d : Nat) : CodePoint := .ofNatOrReplacement (if d < 26 then 0x61 + d else 0x16 + d)

/-- A number in digits, for the digit at `index` and those after it. -/
def digits (bias index n : Nat) : Text :=
  let t := threshold bias index
  if n < t then [digitOf n]
  else digitOf (t + (n - t) % (36 - t)) :: digits bias (index + 1) ((n - t) / (36 - t))
termination_by n
decreasing_by
  have : 1 ≤ threshold bias index ∧ threshold bias index ≤ 26 := by
    unfold threshold; omega
  have := Nat.div_le_self (n - threshold bias index) (36 - threshold bias index)
  omega

/-- Numbers in digits, when `size` code points stand before the first. -/
def numerals (size bias : Nat) (isFirst : Bool) : List Nat → Text
  | [] => []
  | n :: ns => digits bias 0 n ++ numerals (size + 1) (adapted n isFirst (size + 1)) false ns

/-- The numbers for the places of a code point in a text, and what is left to count behind the last
of them; `delta` has been counted before. -/
def places (c : Nat) (delta : Nat) : Text → List Nat × Nat
  | [] => ([], delta)
  | d :: r =>
    if d.val < c then places c (delta + 1) r
    else if d.val = c then
      let (ns, rest) := places c 0 r
      (delta :: ns, rest)
    else places c delta r

/-- The numbers for code points of a text, given in ascending order.  `next` is the lowest code point
to come, `size` how many code points are lower. -/
def numbers (t : Text) (next size delta : Nat) : List Nat → List Nat
  | [] => []
  | c :: cs =>
    let (ns, rest) := places c (delta + (c - next) * (size + 1)) t
    ns ++ numbers t (c + 1) (size + ns.length) (rest + 1) cs

def encode (t : Text) : Text :=
  let base := t.filter (·.val < 0x80)
  let others := ((t.filter (0x80 ≤ ·.val)).map (·.val)).mergeSort.eraseDups
  let separator : Text := if base.isEmpty then [] else "-"
  base ++ separator ++ numerals base.length 72 true (numbers t 0x80 base.length 0 others)

end TagTemplate.Punycode
