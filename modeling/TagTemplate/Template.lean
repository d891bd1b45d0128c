/-
# Templates — programs with data

A template is a program together with the data it was last given.  Rendering
with data that holds something replaces that data, rendering without reuses it.
Named values are merged over the data first, which must then be a mapping or
nothing.  The data is replaced even if the rendering then fails.

A template may have a target, which receives what is rendered to it.  Without a
target nothing is rendered, but the data is replaced all the same.
-/
import TagTemplate.Event
import TagTemplate.Machine
import TagTemplate.Program.Listing

namespace TagTemplate

/-- Data with named values merged over it. -/
def Value.merge (data : Value) (named : List (Text × Value)) : Except Error Value :=
  let merged (es : List (Value × Value)) : Value :=
    .dict (named.foldl (fun es n => Value.insertEntry (.text n.1) n.2 es) es)
  if named.isEmpty then .ok data
  else match data with
    | .null => .ok (merged [])
    | data => match data.entries? with
      | some es => .ok (merged es)
      | none => .error (.mergeIntoNonMapping data.typeName)

/-- A template ready to be rendered. -/
structure Template where
  program : Program
  name : Option Text
  /-- The name that the loader gave the text, null if there is none. -/
  filename : Value
  /-- The normalized source, if it is known. -/
  source : Option Text
  /-- The data last given. -/
  data : Value
  /-- What was written to the target, if there is one. -/
  target : Option (List Text)
  escapers : EscapeTable

namespace Template

/-- The template of a program; a table without escapers stands for the standard one. -/
def ofProgram (program : Program) (name : Option Text) (data : Value) (escapers : EscapeTable) :
    Template :=
  { program, name, filename := .null, source := none, data, target := none
    escapers := escapers.orStandard }

/-- The template with other data, if that holds something. -/
def remember (t : Template) (data : Value) : Template :=
  if data.holds then { t with data } else t

/-- The template with data and named values taken over. -/
def bind (t : Template) (data : Value) (named : List (Text × Value)) : Except Error Template := do
  return t.remember (← data.merge named)

variable [Traits]

/-- The output for the data the template has. -/
def output (t : Template) : Except Error Text := t.program.execute t.data t.escapers

/-- Renders with data and named values; the template afterwards and the output. -/
def render (t : Template) (data : Value) (named : List (Text × Value)) :
    Template × Except Error Text :=
  match t.bind data named with
  | .error e => (t, .error e)
  | .ok t => (t, t.output)

/-- The template after text was written to its target. -/
def write (t : Template) (text : Text) : Template :=
  { t with target := t.target.map (· ++ [text]) }

/-- Renders to the target, if there is one; the template afterwards. -/
def renderToTarget (t : Template) (data : Value) (named : List (Text × Value)) :
    Template × Traced Unit :=
  if t.target.isNone then
    match t.bind data named with
    | .error e => (t, .fail e)
    | .ok t => (t, .emit (.renderSkipped t.name))
  else match t.render data named with
    | (t, .error e) => (t, .fail e)
    | (t, .ok text) => (t.write text, pure ())

/-- The template with a new target, or without one. -/
def setTarget (t : Template) (hasTarget : Bool) : Template :=
  { t with target := if hasTarget then some [] else none }

/-- A template as it is shown to a reader. -/
def display (t : Template) : Text :=
  "<Template " ++ Text.quoted (nameOr "<string>" t.name) ++ " ops=" ++
    Text.ofNat t.program.size ++ ">"

end Template

end TagTemplate
