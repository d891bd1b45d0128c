/-
# Display — values as text

Output writes a value in one of two ways.  A *literal* shows what kind of value
it is, and is how values inside other values are written:

    null, undefined    None, UNDEFINED
    booleans           True, False
    text, bytes        quoted
    list               [a, b]
    tuple              (a, b), with one item (a,)
    queue              deque([a, b])
    set                {a}, without items set()
    dictionary, view   {k: v}, mappingproxy({k: v})
    object             namespace(name=a), attributes without a name left out
    native             the text that it comes with

The *text* of a value is what a variable puts out: nothing for null and undefined,
`true` and `false`, a text itself, decimals and fractions without their type, a
view as its dictionary, and the literal of anything else.

Integers of more than `maxDigits` digits have neither.
-/
import TagTemplate.Value.Basic

namespace TagTemplate.Value

def intText (n : Int) : Except Error Text :=
  let t := Text.ofInt n
  if maxDigits < (Text.ofNat n.natAbs).length then .error .numberTooLong else .ok t

/-- Parts between brackets, with commas between each two. -/
def bracketed (opening closing : Text) (parts : List Text) : Text :=
  opening ++ Text.join ", " parts ++ closing

def sequenceLiteral : SequenceKind → List Text → Text
  | .list, parts => bracketed "[" "]" parts
  | .tuple, [part] => bracketed "(" ",)" [part]
  | .tuple, parts => bracketed "(" ")" parts
  | .deque, parts => bracketed "deque([" "])" parts

/-- The literal of a range: its step is left out if it is one. -/
def rangeLiteral (start stop step : Int) : Except Error Text := do
  let bounds := if step = 1 then [start, stop] else [start, stop, step]
  return bracketed "range(" ")" (← bounds.mapM intText)

mutual

/-- A value as it is written inside another. -/
def literal : Value → Except Error Text
  | null => .ok "None"
  | undefined => .ok "UNDEFINED"
  | bool b => .ok (if b then "True" else "False")
  | int n => intText n
  | float x => .ok x.text
  | complex re im => .ok (Binary64.complexText re im)
  | decimal d => .ok ("Decimal('" ++ d.text ++ "')")
  | fraction q => do return bracketed "Fraction(" ")" [← intText q.num, ← intText q.den]
  | text t => .ok t.quoted
  | bytes b => .ok (Text.quotedBytes b)
  | byteArray b => .ok (bracketed "bytearray(" ")" [Text.quotedByteArray b])
  | sequence kind items => do return sequenceLiteral kind (← literals items)
  | range start stop step => rangeLiteral start stop step
  | set [] => .ok "set()"
  | set items => do return bracketed "\x7b" "\x7d" (← literals items)
  | dict es => do return bracketed "\x7b" "\x7d" (← entryLiterals es)
  | view es => do return bracketed "mappingproxy(\x7b" "\x7d)" (← entryLiterals es)
  | object attributes => do return bracketed "namespace(" ")" (← attributeLiterals attributes)
  | raising .. => .ok "<Raising>"
  | native _ form _ => .ok form

def literals : List Value → Except Error (List Text)
  | [] => .ok []
  | v :: vs => do return (← literal v) :: (← literals vs)

/-- The entries of a mapping, each with a colon. -/
def entryLiterals : List (Value × Value) → Except Error (List Text)
  | [] => .ok []
  | (k, v) :: es => do
    let entry := (← literal k) ++ ": " ++ (← literal v)
    return entry :: (← entryLiterals es)

/-- The attributes of an object, each with an equals sign. -/
def attributeLiterals : List (Text × Value) → Except Error (List Text)
  | [] => .ok []
  | ([], _) :: as => attributeLiterals as
  | (name, v) :: as => do
    let part := name ++ "=" ++ (← literal v)
    return part :: (← attributeLiterals as)

end

/-- A fraction: its denominator is left out if it is one. -/
def fractionText (q : Rat) : Except Error Text :=
  if q.den = 1 then intText q.num
  else do return (← intText q.num) ++ "/" ++ (← intText q.den)

/-- A value as it is written on its own. -/
def standalone : Value → Except Error Text
  | text t => .ok t
  | decimal d => .ok d.text
  | fraction q => fractionText q
  | view es => literal (dict es)
  | undefined => .ok []
  | v => literal v

/-- A value as a variable puts it out. -/
def toText : Value → Except Error Text
  | null | undefined => .ok []
  | bool b => .ok (if b then "true" else "false")
  | v => v.standalone

end TagTemplate.Value
