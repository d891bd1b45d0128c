/-
# Values — the data a template is rendered against

Data is dynamic: a template names things, and what it finds may be of any of
these kinds.

    nothing       null, and `undefined` for a name the data does not provide
    numbers       booleans, integers, floats, complex numbers, decimals, fractions
    text, bytes
    sequences     lists, tuples, double-ended queues, ranges
    sets
    mappings      dictionaries and read-only views of them, in insertion order
    objects       named attributes; reading one may fail
    natives       what the attributes of other values are made of: methods, types
-/
import TagTemplate.Error
import TagTemplate.Number.DecimalForm
import TagTemplate.Number.Shortest

namespace TagTemplate

/-- The kinds of sequences that list their items. -/
inductive SequenceKind where
  | list
  | tuple
  | deque
deriving DecidableEq

/-- A value. -/
inductive Value where
  | null
  /-- What a name stands for that the data does not provide. -/
  | undefined
  | bool (b : Bool)
  | int (n : Int)
  | float (x : Binary64)
  | complex (re im : Binary64)
  | decimal (d : Decimal)
  | fraction (q : Rat)
  | text (t : Text)
  | bytes (b : List UInt8)
  /-- Bytes that can be changed. -/
  | byteArray (b : List UInt8)
  | sequence (kind : SequenceKind) (items : List Value)
  /-- The integers from `start` to before `stop` in steps of `step`. -/
  | range (start stop step : Int)
  | set (items : List Value)
  | dict (entries : List (Value × Value))
  /-- A read-only view of a dictionary. -/
  | view (entries : List (Value × Value))
  | object (attributes : List (Text × Value))
  /-- An object with one attribute, which fails when it is read. -/
  | raising (name : Text) (failure : Error)
  /-- A method, a type, or another thing that is none of the above: the name of its type, its text,
  and the values it holds, as a method holds the value that it is of. -/
  | native (type form : Text) (held : List Value)

namespace Value

instance : Inhabited Value := ⟨null⟩

def list (items : List Value) : Value := sequence .list items

def tuple (items : List Value) : Value := sequence .tuple items

/-- The value of a name the data does not provide. -/
def isUndefined : Value → Bool
  | undefined => true
  | _ => false

/-- The full name of a value's type, as errors about its shape give it. -/
def typePath : Value → Text
  | null => "NoneType"
  | undefined => "_Undefined"
  | bool _ => "bool"
  | int _ => "int"
  | float _ => "float"
  | complex .. => "complex"
  | decimal _ => "decimal.Decimal"
  | fraction _ => "Fraction"
  | text _ => "str"
  | bytes _ => "bytes"
  | byteArray _ => "bytearray"
  | sequence .list _ => "list"
  | sequence .tuple _ => "tuple"
  | sequence .deque _ => "collections.deque"
  | range .. => "range"
  | set _ => "set"
  | dict _ => "dict"
  | view _ => "mappingproxy"
  | object _ => "types.SimpleNamespace"
  | raising .. => "Raising"
  | native type .. => type

/-- The name of a value's type: the last part of its full name. -/
def typeName (v : Value) : Text := (v.typePath.splitOn (.ofChar '.')).getLastD []

end Value

/-! ## Mappings -/

/-- A number that a mapping key may be equal to. -/
inductive NumericKey where
  | finite (form : DecimalForm)
  | infinite (negative : Bool)
  /-- A number with an imaginary part that is not zero. -/
  | complex (re im : NumericKey)
deriving DecidableEq

/-- A floating-point number as a key; what is not a number equals no key. -/
def NumericKey.ofBinary64? (x : Binary64) : Option NumericKey :=
  match x.decode with
  | .infinite negative => some (.infinite negative)
  | _ => x.toRat?.map (.finite <| .ofRat ·)

namespace Value

/-- The number a value is, as far as it equals itself. -/
def numericKey? : Value → Option NumericKey
  | bool b => some (.finite (.ofRat (if b then 1 else 0)))
  | int n => some (.finite (.ofRat n))
  | fraction q => some (.finite (.ofRat q))
  | float x => NumericKey.ofBinary64? x
  | complex re im =>
    if im.isZero then NumericKey.ofBinary64? re
    else do return .complex (← NumericKey.ofBinary64? re) (← NumericKey.ofBinary64? im)
  | decimal (.infinite negative) => some (.infinite negative)
  | decimal d => (DecimalForm.ofDecimal? d).map .finite
  | _ => none

/-- The number of integers from `start` to before `stop` in steps of `step`. -/
def rangeLength (start stop step : Int) : Nat :=
  if 0 < step then ((stop - start + step - 1) / step).toNat
  else if step < 0 then ((start - stop - step - 1) / -step).toNat
  else 0

mutual

/-- The values are one key to a mapping: equal numbers, equal texts, and so on. -/
def sameKey : Value → Value → Bool
  | null, null => true
  | undefined, undefined => true
  | text a, text b => a == b
  | bytes a, bytes b => a == b
  | sequence .tuple as, sequence .tuple bs => sameKeys as bs
  | range a b s, range a' b' s' =>
    let n := rangeLength a b s
    n == rangeLength a' b' s' && (n == 0 || (a == a' && (n == 1 || s == s')))
  | native type form _, native type' form' _ => type == type' && form == form'
  | v, w => match v.numericKey?, w.numericKey? with
    | some x, some y => x == y
    | _, _ => false

def sameKeys : List Value → List Value → Bool
  | [], [] => true
  | a :: as, b :: bs => sameKey a b && sameKeys as bs
  | _, _ => false

end

/-- The entries with a new value for a key: in the place of the key, or else at the end. -/
def insertEntry (key value : Value) : List (Value × Value) → List (Value × Value)
  | [] => [(key, value)]
  | (k, v) :: rest =>
    if sameKey k key then (k, value) :: rest else (k, v) :: insertEntry key value rest

/-- The dictionary of the entries, of which the last for a key counts. -/
def dictOf (entries : List (Value × Value)) : List (Value × Value) :=
  entries.foldl (fun es e => insertEntry e.1 e.2 es) []

def setOf (values : List Value) : Value := set ((dictOf (values.map (·, null))).map (·.1))

/-- The attributes with a new value for a name: in the place of the name, or else at the end. -/
def insertAttribute (name : Text) (value : Value) : List (Text × Value) → List (Text × Value)
  | [] => [(name, value)]
  | (n, v) :: rest =>
    if n = name then (n, value) :: rest else (n, v) :: insertAttribute name value rest

/-- The object with the attributes, of which the last for a name counts. -/
def objectOf (attributes : List (Text × Value)) : Value :=
  object (attributes.foldl (fun as a => insertAttribute a.1 a.2 as) [])

/-- The value for a text among the entries. -/
def findText? (key : Text) : List (Value × Value) → Option Value
  | [] => none
  | (text k, v) :: rest => if k = key then some v else findText? key rest
  | _ :: rest => findText? key rest

def entries? : Value → Option (List (Value × Value))
  | dict es | view es => some es
  | _ => none

end Value

/-! ## Sequences -/

/-- A sequence: its items, or the bounds of a range. -/
inductive Sequence where
  | items (values : List Value)
  | range (start stop step : Int)

namespace Sequence

def length : Sequence → Nat
  | items values => values.length
  | range start stop step => Value.rangeLength start stop step

/-- Sequences longer than this cannot be counted. -/
def maxLength : Nat := 0x7fffffffffffffff

/-- The number of items, if it can be counted. -/
def size (s : Sequence) : Except Error Nat :=
  if s.length ≤ maxLength then .ok s.length else .error .lengthOverflow

def get? : Sequence → Nat → Option Value
  | items values, i => values[i]?
  | range start stop step, i =>
    if i < Value.rangeLength start stop step then some (.int (start + i * step)) else none

end Sequence

namespace Value

/-- A sequence is a list, tuple, queue or range, but not text or bytes. -/
def sequence? : Value → Option Sequence
  | sequence _ items => some (.items items)
  | range start stop step => some (.range start stop step)
  | _ => none

def isSequence (v : Value) : Bool := v.sequence?.isSome

/-- The first `n` of the values met when going through a value, if one can. -/
def firstItems? (n : Nat) : Value → Option (List Value)
  | text t => some ((t.take n).map fun c => text [c])
  | bytes b | byteArray b => some ((b.take n).map fun x => int x.toNat)
  | sequence _ items | set items => some (items.take n)
  | range start stop step =>
    some ((List.range (min n (rangeLength start stop step))).map fun i : Nat => int (start + i * step))
  | dict es | view es => some ((es.take n).map (·.1))
  | _ => none

mutual

/-- The lengths of all sequences within a value, added up. -/
def spread : Value → Nat
  | sequence _ items => items.length + spreads items
  | range start stop step => rangeLength start stop step
  | set items => spreads items
  | dict es | view es => entrySpreads es
  | object attributes => attributeSpreads attributes
  | native _ _ held => spreads held
  | _ => 0

def spreads : List Value → Nat
  | [] => 0
  | v :: vs => spread v + spreads vs

def entrySpreads : List (Value × Value) → Nat
  | [] => 0
  | (k, v) :: es => spread k + spread v + entrySpreads es

def attributeSpreads : List (Text × Value) → Nat
  | [] => 0
  | (_, v) :: as => spread v + attributeSpreads as

end

end Value

end TagTemplate
