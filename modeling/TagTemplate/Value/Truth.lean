/-
# Truth — what guards think of a value

Three notions, of which no two agree.

|                 | `holds` (data)    | `isTruthy` (unless)    | `passesIf` (if)        |
|-----------------|-------------------|------------------------|------------------------|
| null, undefined | false             | false                  | false                  |
| numbers         | not zero          | not zero, not NaN      | not zero, not NaN      |
| text            | not empty         | not empty              | not empty              |
| sequences       | not empty         | true                   | not empty              |
| bytes, sets     | not empty         | true                   | true                   |
| mappings        | not empty         | true                   | true                   |
| objects, natives| true              | true                   | true                   |

Comparing a signaling non-number and counting an overlong sequence are errors.
-/
import TagTemplate.Value.Basic

namespace TagTemplate.Value

/-- A value that counts as data of its own. -/
def holds : Value → Bool
  | null | undefined => false
  | bool b => b
  | int n => n != 0
  | float x => !x.isZero
  | complex re im => !(re.isZero && im.isZero)
  | decimal d => !d.isZero
  | fraction q => q != 0
  | text t => !t.isEmpty
  | bytes b | byteArray b => !b.isEmpty
  | sequence _ items | set items => !items.isEmpty
  | range start stop step => rangeLength start stop step != 0
  | dict es | view es => !es.isEmpty
  | object _ | raising .. | native .. => true

/-- A value for which the body of an unless block does not run. -/
def isTruthy : Value → Except Error Bool
  | null | undefined => .ok false
  | bool b => .ok b
  | int n => .ok (n != 0)
  | float x => .ok (!x.isNaN && !x.isZero)
  | complex re im => .ok (!(re.isNaN || im.isNaN) && !(re.isZero && im.isZero))
  | decimal d => if d.isSignaling then .error .signalingComparison else .ok (!d.isNaN && !d.isZero)
  | fraction q => .ok (q != 0)
  | text t => .ok (!t.isEmpty)
  | _ => .ok true

/-- A value for which the body of an if block runs. -/
def passesIf (v : Value) : Except Error Bool :=
  match v.sequence? with
  | some s => do return 0 < (← s.size)
  | none => v.isTruthy

end TagTemplate.Value
