/-
# Lookup — following a path into the data

A path segment is looked up by the first rule that applies.

    null, undefined       undefined
    mapping               the value for the segment, a text
    sequence, all digits  the item at that index; past the end undefined
    anything else         the attribute of that name

What is not there is undefined and ends the path.  Reading an attribute may
fail, and so may reading a segment of digits as an index.

A value has attributes by its type, as a text has methods.  What these are is not
fixed here: they are an instance of `Traits`.  Besides, numbers and ranges have
parts and objects have attributes of their own.
-/
import TagTemplate.Value.Basic
import TagTemplate.Text.Digit

namespace TagTemplate

/-- The attributes that values have by their types: methods, the types themselves, and what these
have in turn.  A type may keep an attribute of a value's own from being found.  No sequence among
the attributes is longer than `width`, unless the value itself is spread as wide. -/
class Traits where
  trait? : Value → Text → Option Value
  width : Nat
  spread_trait? : ∀ {v w : Value} {name : Text}, trait? v name = some w →
    w.spread ≤ max v.spread width

/-- No value has an attribute by its type. -/
abbrev Traits.bare : Traits where
  trait? _ _ := none
  width := 0
  spread_trait? h := by cases h

namespace Value

/-- A segment of digits as an index. -/
def readIndex (key : Text) : Except Error Nat :=
  if maxDigits < key.leadingDecimals then .error (.numeralTooLong key.leadingDecimals)
  else match key.numeral? with
    | some n => .ok n
    | none => .error (.notNumeral key)

/-- The parts of numbers and ranges. -/
inductive Part where
  | real
  | imaginary
  | numerator
  | denominator
  | start
  | stop
  | step

/-- The part that a name stands for. -/
def Part.ofName? (name : Text) : Option Part :=
  if name = "real" then some real
  else if name = "imag" then some imaginary
  else if name = "numerator" then some numerator
  else if name = "denominator" then some denominator
  else if name = "start" then some start
  else if name = "stop" then some stop
  else if name = "step" then some step
  else none

def intPart? (n : Int) : Part → Option Value
  | .real | .numerator => some (int n)
  | .imaginary => some (int 0)
  | .denominator => some (int 1)
  | _ => none

/-- A part of a value, if it has that one. -/
def part? : Value → Part → Option Value
  | bool b, part => intPart? (if b then 1 else 0) part
  | int n, part => intPart? n part
  | float x, .real => some (float x)
  | float _, .imaginary => some (float .zero)
  | complex re _, .real => some (float re)
  | complex _ im, .imaginary => some (float im)
  | decimal d, .real => some (decimal d)
  | decimal _, .imaginary => some (decimal (.finite false 0 0))
  | fraction q, .real => some (fraction q)
  | fraction _, .imaginary => some (int 0)
  | fraction q, .numerator => some (int q.num)
  | fraction q, .denominator => some (int q.den)
  | range start _ _, .start => some (int start)
  | range _ stop _, .stop => some (int stop)
  | range _ _ step, .step => some (int step)
  | _, _ => none

/-- The attribute that a value has of its own, undefined if there is none. -/
def ownAttribute (v : Value) (name : Text) : Except Error Value :=
  match v with
  | object attributes => .ok ((attributes.find? (·.1 == name)).elim undefined (·.2))
  | raising name' failure =>
    if name ≠ name' then .ok undefined
    else match failure with
      | .raised .absentAttribute _ => .ok undefined
      | failure => .error failure
  | v => .ok ((Part.ofName? name >>= v.part?).getD undefined)

variable [Traits]

/-- The attribute of a value: the one by its type, or else the one of its own. -/
def attributeOf (v : Value) (name : Text) : Except Error Value :=
  match Traits.trait? v name with
  | some w => .ok w
  | none => v.ownAttribute name

/-- The item of a sequence that a segment of digits stands for. -/
def itemOf (s : Sequence) (key : Text) : Except Error Value := do
  let index ← readIndex key
  if index < (← s.size) then return (s.get? index).getD undefined
  else return undefined

/-- One segment looked up in a value. -/
def lookup (v : Value) (key : Text) : Except Error Value :=
  match v with
  | null | undefined => .ok undefined
  | dict es | view es => .ok ((findText? key es).getD undefined)
  | v => match v.sequence? with
    | some s => if key.isDigits then itemOf s key else attributeOf v key
    | none => attributeOf v key

/-- The segments looked up one after the other, until one is undefined. -/
def follow (v : Value) : List Text → Except Error Value
  | [] => .ok v
  | key :: rest => do
    let w ← v.lookup key
    if w.isUndefined then return undefined else w.follow rest

/-- What a path leads to from a value; an empty path leads nowhere. -/
def lookupPath (v : Value) : List Text → Except Error Value
  | [] => .ok undefined
  | path => v.follow path

/-- No path from the value leads to a sequence that is longer than this. -/
def reach (v : Value) : Nat := max v.spread Traits.width

end Value

end TagTemplate
