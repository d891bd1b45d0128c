/-
# Programs — templates ready to run

A program is a flat list of operations.  Blocks are not nested in it: each
operation that may jump carries the index it jumps over.

    text         puts out literal text
    output       puts out what a reference stands for
    branch       runs its body if the guard lets it, else goes past the else, or
                 past the end if there is none
    alternative  reached after the body only; goes past the end
    loop         runs its body once per item, or goes past the end
    finish       goes back to the body of its loop while there are items left
    inert        has no action
-/
import TagTemplate.Scope
import TagTemplate.Token.Basic

namespace TagTemplate

/-- What an operation does. -/
inductive Action where
  | text (value : Text)
  | output (ref : Ref) (escape : EscapeMode)
  | branch (negated : Bool) (ref : Ref) (elseIndex : Option Int) (endIndex : Int)
  | alternative (endIndex : Int)
  | loop (ref : Ref) (slot : Int) (endIndex : Int)
  | finish (word : Text) (startIndex : Int)
  | inert
deriving DecidableEq

/-- An operation, with the place of the text or tag it comes from. -/
structure Op where
  position : Position
  action : Action
deriving DecidableEq

/-- An index that is not known yet. -/
def unlinked : Int := -1

namespace Action

def title : Action → Text
  | text _ => "Text"
  | output .. => "Output"
  | branch false .. => "If"
  | branch true .. => "Unless"
  | alternative _ => "Else"
  | loop .. => "Loop"
  | finish .. => "End"
  | inert => "Op"

def isLoop : Action → Bool
  | loop .. => true
  | _ => false

/-- The operation that opens a block, not linked yet. -/
def opener (kind : BlockKind) (ref : Ref) (slot : Int) : Action :=
  match kind with
  | .ifBlock => branch false ref none unlinked
  | .unlessBlock => branch true ref none unlinked
  | .loopBlock => loop ref slot unlinked

/-- The operation that opens a block, linked to its else and its end. -/
def link (elseIndex : Option Int) (endIndex : Int) : Action → Action
  | branch negated ref _ _ => branch negated ref elseIndex endIndex
  | alternative _ => alternative endIndex
  | loop ref slot _ => loop ref slot endIndex
  | action => action

end Action

/-- A program, with the name of its template. -/
structure Program where
  ops : Array Op
  name : Option Text
deriving DecidableEq

namespace Program

def size (p : Program) : Nat := p.ops.size

def loopCount (p : Program) : Nat := p.ops.countP (·.action.isLoop)

end Program

end TagTemplate
