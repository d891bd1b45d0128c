/-
# Decimal — decimal numbers with their precision

A decimal number is a coefficient and a power of ten, so that `1.0` and `1.00`
differ though they are equal, or an infinity, or no number at all.  One that
is no number may be *signaling*: comparing it is an error.

Written, the coefficient keeps all its digits.  With `p` the power of ten just
above its leading digit, the notation is positional if the exponent is not
positive and `p > -6`, and otherwise has one digit before the point.
-/
import TagTemplate.Text.Case
import TagTemplate.Text.Digit
import TagTemplate.Text.Blank

namespace TagTemplate

/-- A decimal number. -/
inductive Decimal where
  /-- The number `coefficient · 10^exponent`. -/
  | finite (negative : Bool) (coefficient : Nat) (exponent : Int)
  | infinite (negative : Bool)
  /-- No number; `payload` is a note of where it comes from, zero for none. -/
  | nan (negative signaling : Bool) (payload : Nat)
deriving DecidableEq

namespace Decimal

def signText (negative : Bool) : Text := if negative then "-" else []

def text : Decimal → Text
  | infinite negative => signText negative ++ "Infinity"
  | nan negative signaling payload =>
    signText negative ++ (if signaling then "sNaN" else "NaN") ++
      (if payload = 0 then [] else Text.ofNat payload)
  | finite negative coefficient exponent =>
    let digits := Text.ofNat coefficient
    let power : Int := exponent + digits.length
    let point : Int := if exponent ≤ 0 && -6 < power then power else 1
    let positional : Text :=
      if point ≤ 0 then "0." ++ Text.replicate (-point).toNat '0' ++ digits
      else if digits.length ≤ point then digits
      else digits.take point.toNat ++ "." ++ digits.drop point.toNat
    let tail : Text :=
      if power = point then []
      else (if 0 ≤ power - point then "E+" else "E") ++ Text.ofInt (power - point)
    signText negative ++ positional ++ tail

def isNaN : Decimal → Bool
  | nan .. => true
  | _ => false

/-- The number is no number, and comparing it is an error. -/
def isSignaling : Decimal → Bool
  | nan _ signaling _ => signaling
  | _ => false

/-- Zero, of either sign. -/
def isZero : Decimal → Bool
  | finite _ 0 _ => true
  | _ => false

/-- An integer in decimal digits, with an optional sign. -/
def readExponent? : Text → Option Int
  | [] => none
  | c :: r =>
    if c = .ofChar '-' then (Text.numeral? r).map fun n => -(n : Int)
    else if c = .ofChar '+' then (Text.numeral? r).map Int.ofNat
    else (Text.numeral? (c :: r)).map Int.ofNat

/-- A number without sign: digits with at most one point among them, then an exponent. -/
def readUnsigned? (negative : Bool) (t : Text) : Option Decimal := do
  let isMark (c : CodePoint) : Bool := c = .ofChar 'e'
  let mantissa := t.takeWhile (!isMark ·)
  let exponent ← match t.dropWhile (!isMark ·) with
    | [] => some 0
    | _ :: r => readExponent? r
  let isPoint (c : CodePoint) : Bool := c = .ofChar '.'
  let whole := mantissa.takeWhile (!isPoint ·)
  let part := (mantissa.dropWhile (!isPoint ·)).drop 1
  return .finite negative (← Text.numeral? (whole ++ part)) (exponent - part.length)

/-- Reads what stands after the sign, in lower case. -/
def readMagnitude? (negative : Bool) (t : Text) : Option Decimal :=
  let payload? (digits : Text) : Option Nat :=
    if digits.isEmpty then some 0 else Text.numeral? digits
  let nanText : Text := "nan"
  let signalingText : Text := "snan"
  if t = "inf" || t = "infinity" then some (.infinite negative)
  else if nanText.isPrefixOf t then (payload? (t.drop 3)).map (.nan negative false)
  else if signalingText.isPrefixOf t then (payload? (t.drop 4)).map (.nan negative true)
  else readUnsigned? negative t

/-- The decimal that a text writes: blanks around it and underscores in it do not count. -/
def ofText? (t : Text) : Option Decimal :=
  let trimmed := ((t.dropWhile (·.isBlank)).reverse.dropWhile (·.isBlank)).reverse
  match Text.lower (trimmed.filter (· != CodePoint.ofChar '_')) with
  | [] => none
  | c :: r =>
    if c = .ofChar '-' then readMagnitude? true r
    else if c = .ofChar '+' then readMagnitude? false r
    else readMagnitude? false (c :: r)

end Decimal

end TagTemplate
