/-
# The machine — running a program

A run walks the operations with a position `pc`, collects output, and keeps for
every open loop the sequence and the index of the current item, by the number of
the loop.  A reference is looked up from the current item of its innermost loop,
or from the data outside of loops; the frames of a reference have no other part
in a run.

    text, output   put out; pc + 1
    branch         passes: pc + 1; else elseIndex + 1, or endIndex + 1 without else
    alternative    endIndex + 1
    loop           no items: endIndex + 1; else starts at item 0; pc + 1
    finish         of a loop with items left: takes the next; startIndex + 1
                   else: leaves the loop, if it is of one; pc + 1

Positions before the program count from its end.  The run is over when `pc`
is past the end of the program.

A state of a run is a position and, for each loop, either nothing or a place in
one of the sequences that the data leads to.  A run of more steps than there are
states meets a state twice and so has no end; that bounds the steps that are taken.
-/
import TagTemplate.Escape.Standard
import TagTemplate.Program.Basic
import TagTemplate.Value.Display
import TagTemplate.Value.Lookup
import TagTemplate.Value.Truth

namespace TagTemplate

namespace Machine

/-- A loop that is being run: its items and the index of the current one. -/
structure LoopState where
  items : Sequence
  index : Nat

/-- What a run works with. -/
structure Setup where
  program : Program
  data : Value
  escapers : EscapeTable

/-- A state of a run. -/
structure State where
  /-- The position of the next operation. -/
  pc : Int
  /-- What was put out, the latest first. -/
  output : List Text
  /-- The loops being run, by number. -/
  loops : List (Int × LoopState)

/-- The outcome of a step. -/
inductive Config where
  | running (s : State)
  | finished (text : Text)
  | failed (error : Error)

def State.initial : State := ⟨0, [], []⟩

namespace State

def goto (s : State) (pc : Int) : State := { s with pc }

def advance (s : State) : State := s.goto (s.pc + 1)

def put (s : State) (text : Text) : State := { s with output := text :: s.output }

def loop? (s : State) (slot : Int) : Option LoopState := s.loops.lookup slot

def leave (s : State) (slot : Int) : State := { s with loops := s.loops.filter (·.1 != slot) }

def enter (s : State) (slot : Int) (l : LoopState) : State :=
  { s with loops := (slot, l) :: (s.leave slot).loops }

end State

namespace Setup

variable [Traits]

/-- The operation at a position; negative positions count from the end. -/
def opAt? (m : Setup) (i : Int) : Option Op :=
  let n : Int := m.program.size
  let index := if i < 0 then i + n else i
  if 0 ≤ index then m.program.ops[index.toNat]? else none

/-- The value that paths are followed from within a loop of a number. -/
def base (m : Setup) (s : State) (slot : Int) : Except Error Value :=
  if slot = 0 then .ok m.data
  else match s.loop? slot with
    | none => .error (.emptySlot slot)
    | some l => match l.items.get? l.index with
      | some item => .ok item
      | none => .error (.emptySlot slot)

def resolve (m : Setup) (s : State) (ref : Ref) : Except Error Value := do
  let base ← m.base s ref.slot
  base.lookupPath ref.path

def output (m : Setup) (s : State) (ref : Ref) (escape : EscapeMode) : Except Error State := do
  let value ← m.resolve s ref
  let text ← value.toText
  return (s.put (← m.escapers.apply escape text)).advance

/-- The guard of a branch lets its body run. -/
def passes (m : Setup) (s : State) (negated : Bool) (ref : Ref) : Except Error Bool := do
  let value ← m.resolve s ref
  if negated then return !(← value.isTruthy) else value.passesIf

/-- The state after the opening of a loop. -/
def startLoop (m : Setup) (s : State) (ref : Ref) (slot endIndex : Int) : Except Error State := do
  let value ← m.resolve s ref
  match value.sequence? with
  | some items =>
    if items.length = 0 then return s.goto (endIndex + 1)
    else return (s.enter slot ⟨items, 0⟩).advance
  | none => return s.goto (endIndex + 1)

/-- The state after the end of a loop that starts at an index. -/
def endLoop (m : Setup) (s : State) (startIndex : Int) : Except Error State :=
  match m.opAt? startIndex with
  | none => .error (.outsideProgram startIndex)
  | some ⟨_, .loop _ slot _⟩ =>
    match s.loop? slot with
    | none => .error (.emptySlot slot)
    | some l => do
      if l.index + 1 < (← l.items.size) then
        return (s.enter slot ⟨l.items, l.index + 1⟩).goto (startIndex + 1)
      else return (s.leave slot).advance
  | some ⟨_, action⟩ => .error (.openerWithoutSlot action.title)

def perform (m : Setup) (s : State) : Action → Except Error State
  | .text value => .ok (s.put value).advance
  | .output ref escape => m.output s ref escape
  | .branch negated ref elseIndex endIndex => do
    if ← m.passes s negated ref then return s.advance
    else return s.goto (elseIndex.getD endIndex + 1)
  | .alternative endIndex => .ok (s.goto (endIndex + 1))
  | .loop ref slot endIndex => m.startLoop s ref slot endIndex
  | .finish word startIndex =>
    if word = BlockKind.loopBlock.word then m.endLoop s startIndex else .ok s.advance
  | .inert => .error .inertOperation

def step (m : Setup) (s : State) : Config :=
  if m.program.size ≤ s.pc then .finished s.output.reverse.flatten
  else match m.opAt? s.pc with
    | none => .failed (.outsideProgram s.pc)
    | some op => match m.perform s op.action with
      | .ok s => .running s
      | .error e => .failed e

/-- The outcome of a run of at most `fuel` steps; none if it takes more. -/
def run (m : Setup) : (fuel : Nat) → State → Option (Except Error Text)
  | 0, _ => none
  | fuel + 1, s => match m.step s with
    | .running s => m.run fuel s
    | .finished text => some (.ok text)
    | .failed e => some (.error e)

/-- No run takes more steps than this and comes to an end: positions times places of loops. -/
def stepBound (m : Setup) : Nat :=
  (2 * m.program.size + 1) * Nat.pow (m.data.reach + 1) m.program.loopCount + 1

end Setup

end Machine

def Program.execute [Traits] (p : Program) (data : Value) (escapers : EscapeTable) :
    Except Error Text :=
  let m : Machine.Setup := ⟨p, data, escapers⟩
  (m.run m.stepBound .initial).getD (.error .endless)

end TagTemplate
