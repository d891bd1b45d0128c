/-
# Binary64 — floating-point numbers by their bits

A number in the 64-bit binary format is kept as its bit pattern and decoded
when its value matters:

    sign   exponent field   fraction   value
    s      0                f          ± f · 2^-1074
    s      1 … 2046         f          ± (2^52 + f) · 2^(exponent - 1075)
    s      2047             0          ± infinity
    s      2047             not 0      not a number
-/

namespace TagTemplate

/-- A number in the 64-bit binary format. -/
structure Binary64 where
  bits : UInt64
deriving DecidableEq

namespace Binary64

/-- What a bit pattern stands for. -/
inductive Decoded where
  | nan
  | infinite (negative : Bool)
  /-- The number `mantissa · 2^exponent`; `lowest` if the number below it is nearer than the
  one above. -/
  | finite (negative : Bool) (mantissa : Nat) (exponent : Int) (lowest : Bool)

/-- The meaning of the bits. -/
def decode (x : Binary64) : Decoded :=
  let n := x.bits.toNat
  let unit : Nat := 0x10000000000000
  let negative := 2048 * unit ≤ n
  let field : Nat := n / unit % 2048
  let fraction : Nat := n % unit
  if field = 2047 then
    if fraction = 0 then .infinite negative else .nan
  else if field = 0 then .finite negative fraction (-1074) false
  else .finite negative (unit + fraction) (field - 1075) (fraction = 0 && 1 < field)

def zero : Binary64 := ⟨0⟩

def isNaN (x : Binary64) : Bool :=
  match x.decode with
  | .nan => true
  | _ => false

/-- Zero, of either sign. -/
def isZero (x : Binary64) : Bool :=
  match x.decode with
  | .finite _ 0 _ _ => true
  | _ => false

def toRat? (x : Binary64) : Option Rat :=
  match x.decode with
  | .finite negative m e _ =>
    let size : Rat := if 0 ≤ e then (m * Nat.pow 2 e.toNat : Nat) else mkRat m (Nat.pow 2 (-e).toNat)
    some (if negative then -size else size)
  | _ => none

end Binary64

end TagTemplate
