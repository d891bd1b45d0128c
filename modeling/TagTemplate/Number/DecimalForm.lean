/-
# Decimal form — when numbers are equal

Two numbers of different kinds are equal if they are the same rational number.
To tell, each is brought into the form

    numerator · 10^exponent / denominator

where the numerator does not end in a zero and the denominator is prime to ten
and to the numerator; zero has the exponent zero.  Every rational number has
one such form.  A power of ten is never multiplied out, so that decimals with
very large exponents can be compared.
-/
import TagTemplate.Number.Decimal

namespace TagTemplate

/-- A rational number in decimal form. -/
structure DecimalForm where
  negative : Bool
  numerator : Nat
  exponent : Int
  denominator : Nat
deriving DecidableEq

namespace DecimalForm

/-- How often `p` divides a number that is not zero. -/
def timesIn (p n : Nat) : Nat :=
  if 1 < p ∧ 0 < n ∧ n % p = 0 then timesIn p (n / p) + 1 else 0
termination_by n
decreasing_by exact Nat.div_lt_self (by omega) (by omega)

/-- `n · 10^exponent` as a number that does not end in a zero and an exponent. -/
def trimZeros (n : Nat) (exponent : Int) : Nat × Int :=
  if n = 0 then (0, 0)
  else if n % 10 = 0 then trimZeros (n / 10) (exponent + 1)
  else (n, exponent)
termination_by n
decreasing_by exact Nat.div_lt_self (by omega) (by omega)

/-- The form of `± n · 10^exponent / denominator`; the sign of zero does not count. -/
def make (negative : Bool) (n : Nat) (exponent : Int) (denominator : Nat) : DecimalForm :=
  let trimmed := trimZeros n exponent
  ⟨negative && n != 0, trimmed.1, trimmed.2, denominator⟩

def ofRat (q : Rat) : DecimalForm :=
  let twos := timesIn 2 q.den
  let fives := timesIn 5 q.den
  let places := max twos fives
  make (q < 0) (q.num.natAbs * (Nat.pow 2 (places - twos) * Nat.pow 5 (places - fives))) (-places)
    (q.den / (Nat.pow 2 twos * Nat.pow 5 fives))

/-- The form of a decimal number that is finite. -/
def ofDecimal? : Decimal → Option DecimalForm
  | .finite negative coefficient exponent => some (make negative coefficient exponent 1)
  | _ => none

end DecimalForm

end TagTemplate
