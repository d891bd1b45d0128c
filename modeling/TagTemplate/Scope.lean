/-
# Scope — what a name is relative to

Inside loops a name is relative to the current item of the innermost one.
Within `<tmpl_loop rows>` and then `<tmpl_loop cells>` the name `x` means

    data.rows[i1].cells[i2].x

where `i1` and `i2` are the positions of the two loops.  Loops are numbered by
how deeply they are nested, so loops side by side share a number.
-/
import TagTemplate.Text.Basic

namespace TagTemplate

/-- The segments of a dotted name, empty ones left out. -/
def splitPath (name : Text) : List Text :=
  (name.splitOn (.ofChar '.')).filter (!·.isEmpty)

/-- An open loop: the path to its sequence and its number. -/
structure Frame where
  path : List Text
  slot : Int
deriving DecidableEq

namespace Frame

/-- A frame as a step of a reference. -/
def text (f : Frame) : Text := Text.join "." f.path ++ "[i" ++ Text.ofInt f.slot ++ "]"

end Frame

structure Ref where
  frames : List Frame
  path : List Text
deriving DecidableEq

namespace Ref

/-- The number of the innermost loop, zero outside of loops. -/
def slot (r : Ref) : Int := (r.frames.getLast?.map (·.slot)).getD 0

/-- A reference as an expression. -/
def text (r : Ref) : Text :=
  let base : Text := "data"
  let path := if r.path.isEmpty then [] else [Text.join "." r.path]
  Text.join "." (base :: r.frames.map Frame.text ++ path)

end Ref

/-- The loops open at some point, outermost first. -/
structure Scope where
  frames : List Frame
deriving DecidableEq

namespace Scope

def root : Scope := ⟨[]⟩

def depth (s : Scope) : Nat := s.frames.length

/-- What a name means in the scope. -/
def resolve (s : Scope) (name : Text) : Ref := ⟨s.frames, splitPath name⟩

/-- The frame of a loop over `name` opened in the scope. -/
def frameFor (s : Scope) (name : Text) : Frame := ⟨splitPath name, s.depth + 1⟩

/-- The scope within a loop over `name`. -/
def push (s : Scope) (name : Text) : Scope := ⟨s.frames ++ [s.frameFor name]⟩

/-- The innermost loop and the scope around it. -/
def pop? (s : Scope) : Option (Frame × Scope) :=
  s.frames.getLast?.map fun f => (f, ⟨s.frames.dropLast⟩)

def pop (s : Scope) : Scope := ⟨s.frames.dropLast⟩

end Scope

end TagTemplate
