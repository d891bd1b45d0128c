/-
# Shortest decimals — floating-point numbers as text

A positive number `m · 2^q` owns the reals that round to it: those between the
midpoints to its neighbours, the midpoints included iff `m` is even.  It is
written with the coarsest decimal grid `10^k` that has a point among them; of
two such points the nearer is taken, and of two equally near the even one.

The point is then laid out by a `Layout`: in positional notation if its
leading digit stands between the 10^-4 and the 10^15, else with an exponent.
-/
import TagTemplate.Number.Binary64
import TagTemplate.Text.Basic

namespace TagTemplate

namespace Binary64

/-- The point of the grid `10^k` for `mantissa · 2^exponent`, if the number owns one. -/
def gridPoint? (mantissa : Nat) (exponent : Int) (lowest : Bool) (k : Int) : Option Nat :=
  -- everything is scaled to whole quarters of the last binary place
  let scale := Nat.pow 2 (exponent - 2).toNat * Nat.pow 10 (-k).toNat
  let unit := Nat.pow 2 (2 - exponent).toNat * Nat.pow 10 k.toNat
  let value := 4 * mantissa * scale
  let low := (4 * mantissa - if lowest then 1 else 2) * scale
  let high := (4 * mantissa + 2) * scale
  let owned (n : Nat) : Bool :=
    if mantissa % 2 = 0 then low ≤ n * unit && n * unit ≤ high
    else low < n * unit && n * unit < high
  let below := value / unit
  match owned below, owned (below + 1) with
  | true, true =>
    let middle := (2 * below + 1) * unit
    if 2 * value < middle || (2 * value = middle && below % 2 = 0) then some below
    else some (below + 1)
  | true, false => some below
  | false, true => some (below + 1)
  | false, false => none

/-- The first point met on the grids `10^k`, `10^(k-1)`, and so on for `steps` grids. -/
def coarsest (mantissa : Nat) (exponent : Int) (lowest : Bool) : (steps : Nat) → (k : Int) → Nat × Int
  | 0, k => (0, k)
  | steps + 1, k =>
    match gridPoint? mantissa exponent lowest k with
    | some n => (n, k)
    | none => coarsest mantissa exponent lowest steps (k - 1)

/-- The shortest decimal `n · 10^k` of `mantissa · 2^exponent`.  All numbers are below `10^309`
and multiples of `10^-1074`. -/
def shortest (mantissa : Nat) (exponent : Int) (lowest : Bool) : Nat × Int :=
  coarsest mantissa exponent lowest 1384 309

/-- How decimals are laid out. -/
structure Layout where
  /-- The least power of ten for a leading digit in positional notation. -/
  leastPower : Int
  /-- The first power of ten too large for a leading digit in positional notation. -/
  powerLimit : Int
  /-- What stands before the exponent. -/
  exponentMark : Char
  /-- The least number of digits of an exponent. -/
  exponentDigits : Nat
  /-- What a whole number in positional notation ends in. -/
  wholeSuffix : String

/-- Numbers from 10^-4 to below 10^16 are positional, and a whole one ends in `.0`. -/
def layout : Layout := ⟨-4, 16, 'e', 2, ".0"⟩

/-- Numbers as they stand in a complex number: a whole one ends in its last digit. -/
def partLayout : Layout := { layout with wholeSuffix := "" }

/-- The decimal `n · 10^k` in a layout. -/
def Layout.write (l : Layout) (n : Nat) (k : Int) : Text :=
  let digits := Text.ofNat n
  let power : Int := k + digits.length - 1
  if l.leastPower ≤ power && power < l.powerLimit then
    if 0 ≤ k then digits ++ Text.replicate k.toNat '0' ++ l.wholeSuffix
    else if 0 ≤ power then
      digits.take (power + 1).toNat ++ "." ++ digits.drop (power + 1).toNat
    else "0." ++ Text.replicate (-power - 1).toNat '0' ++ digits
  else
    let fraction : Text := if digits.length = 1 then [] else "." ++ digits.drop 1
    digits.take 1 ++ fraction ++
      [.ofChar l.exponentMark, .ofChar (if power < 0 then '-' else '+')] ++
      (Text.ofNat power.natAbs).padLeft l.exponentDigits '0'

def textIn (l : Layout) (x : Binary64) : Text :=
  let sign (negative : Bool) : Text := if negative then "-" else []
  match x.decode with
  | .nan => "nan"
  | .infinite negative => sign negative ++ "inf"
  | .finite negative 0 _ _ => sign negative ++ ("0" ++ l.wholeSuffix)
  | .finite negative m e lowest =>
    let (n, k) := shortest m e lowest
    sign negative ++ l.write n k

def text (x : Binary64) : Text := x.textIn layout

/-- A complex number as text: its real part is left out if it is the zero without a sign. -/
def complexText (re im : Binary64) : Text :=
  let re := re.textIn partLayout
  let im := im.textIn partLayout
  if re = "0" then im ++ "j"
  else
    let sign : Text := if im.head? = some (.ofChar '-') then [] else "+"
    "(" ++ re ++ (sign ++ im) ++ "j)"

end Binary64

end TagTemplate
