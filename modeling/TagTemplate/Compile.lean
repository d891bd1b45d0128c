/-
# Compilation — from tokens to a program

One pass over the tokens emits operations; a stack of open blocks remembers
where each block starts, so that its opener and its else can be linked to its
end when that arrives.

| token       | effect                                                         |
|-------------|----------------------------------------------------------------|
| text        | joins the text before it, or becomes an operation; empty: none |
| output      | an operation with the name resolved in the scope               |
| opening     | an operation and an open block; a loop also opens a frame      |
| otherwise   | an operation, noted in the innermost block                     |
| closing     | closes the innermost block, whatever its kind                  |
| inclusion   | the text of the other template, as if it stood here            |

Tags that do not fit the open blocks are issues (see `Issue`).  At the end the
blocks still open are closed, innermost first.
-/
import TagTemplate.Event
import TagTemplate.Program.Basic

namespace TagTemplate

/-- A block that is not closed yet. -/
structure OpenBlock where
  kind : BlockKind
  /-- The index of its opener. -/
  start : Nat
  /-- The place of its opening tag. -/
  position : Position
  /-- The index of its else. -/
  elseIndex : Option Nat
deriving DecidableEq

/-- A program in the making. -/
structure Draft where
  ops : Array Op
  /-- The open blocks, innermost first. -/
  blocks : List OpenBlock
  scope : Scope
deriving DecidableEq

namespace Draft

def empty : Draft := ⟨#[], [], .root⟩

def emit (d : Draft) (position : Position) (action : Action) : Draft :=
  { d with ops := d.ops.push ⟨position, action⟩ }

/-- The draft with literal text at its end: empty text leaves no trace, and text after
text becomes one operation. -/
def appendText (d : Draft) (position : Position) (value : Text) : Draft :=
  if value.isEmpty then d
  else match d.ops.back? with
    | some ⟨start, .text before⟩ =>
      { d with ops := d.ops.pop.push ⟨start, .text (before ++ value)⟩ }
    | _ => d.emit position (.text value)

def openBlock (d : Draft) (position : Position) (kind : BlockKind) (name : Text) : Draft :=
  let opener := Action.opener kind (d.scope.resolve name) (d.scope.frameFor name).slot
  { ops := d.ops.push ⟨position, opener⟩
    blocks := ⟨kind, d.ops.size, position, none⟩ :: d.blocks
    scope := if kind = .loopBlock then d.scope.push name else d.scope }

/-- The operations with the one at an index linked to its else and end. -/
def linkAt (index : Nat) (elseIndex : Option Nat) (endIndex : Nat) (ops : Array Op) : Array Op :=
  ops.modify index fun op =>
    { op with action := op.action.link (elseIndex.map Int.ofNat) endIndex }

/-- The draft with its innermost block closed. -/
def closeBlock (d : Draft) (position : Position) : Draft :=
  match d.blocks with
  | [] => d
  | block :: blocks =>
    let endIndex := d.ops.size
    let ops := d.ops.push ⟨position, .finish block.kind.word block.start⟩
    let ops := linkAt block.start block.elseIndex endIndex ops
    let ops := match block.elseIndex with
      | some i => linkAt i none endIndex ops
      | none => ops
    { ops, blocks, scope := if block.kind = .loopBlock then d.scope.pop else d.scope }

/-- What keeps an else from standing here. -/
def elseIssue? (d : Draft) : Option Issue :=
  match d.blocks with
  | [] => some .strayElse
  | block :: _ =>
    if block.kind = .loopBlock then some .strayElse
    else if block.elseIndex.isSome then some (.secondElse block.kind block.position.line)
    else none

/-- The draft with an else for its innermost block. -/
def openElse (d : Draft) (position : Position) : Draft :=
  match d.blocks with
  | [] => d
  | block :: blocks =>
    { d.emit position (.alternative unlinked) with
      blocks := { block with elseIndex := some d.ops.size } :: blocks }

/-- What is wrong with a closing tag here. -/
def closeIssue? (d : Draft) (word : Text) : Option Issue :=
  match d.blocks with
  | [] => some (.strayClose word)
  | block :: _ =>
    if block.kind.word = word then none
    else some (.wrongClose word block.kind block.position.line)

end Draft

/-- What a compilation works with besides its tokens. -/
structure Compilation where
  /-- Stop at the first issue. -/
  strict : Bool
  /-- How to get the text of an included template. -/
  includeText : Option (IncludeRequest → Traced Text)
  context : Context
  /-- The data that included templates are rendered against. -/
  data : Value

namespace Compilation

/-- Stops at an issue or reports it. -/
def report (c : Compilation) (position : Position) (issue : Issue) : Traced Unit :=
  if c.strict then .fail (issue.error c.context position)
  else .emit (.tolerated c.context.name position.line issue)

/-- Reports an issue if there is one. -/
def reportAny (c : Compilation) (position : Position) : Option Issue → Traced Unit
  | some issue => c.report position issue
  | none => pure ()

def fetchText (c : Compilation) (name : Text) : Traced Text :=
  match c.includeText with
  | none => .fail (.missing (.noInclude name))
  | some includeText => do
    Traced.of (c.context.checkDepth name)
    let request := ⟨name, c.data, c.context.child name⟩
    Traced.emit (.including request)
    includeText request

def step (c : Compilation) (d : Draft) (token : Token) : Traced Draft :=
  match token.content with
  | .text value => pure (d.appendText token.position value)
  | .output name => pure (d.emit token.position (.output (d.scope.resolve name) token.escape))
  | .opening kind name => pure (d.openBlock token.position kind name)
  | .otherwise =>
    match d.elseIssue? with
    | some issue => do
      c.report token.position issue
      return d
    | none => pure (d.openElse token.position)
  | .closing word => do
    c.reportAny token.position (d.closeIssue? word)
    return d.closeBlock token.position
  | .inclusion name => do
    let text ← c.fetchText name
    return d.appendText token.position text

def steps (c : Compilation) (d : Draft) : List Token → Traced Draft
  | [] => pure d
  | token :: tokens => do
    let d ← c.step d token
    c.steps d tokens

/-- The draft with blocks closed, of which the given ones are the open ones. -/
def closeAll (c : Compilation) (d : Draft) : List OpenBlock → Traced Draft
  | [] => pure d
  | block :: blocks => do
    c.report block.position (.unclosed block.kind)
    c.closeAll (d.closeBlock block.position) blocks

def compile (c : Compilation) (tokens : List Token) : Traced Program := do
  let d ← c.steps .empty tokens
  let d ← c.closeAll d d.blocks
  let program : Program := ⟨d.ops, c.context.name⟩
  Traced.emit (.compiled c.context.name tokens.length program.size)
  return program

end Compilation

end TagTemplate
