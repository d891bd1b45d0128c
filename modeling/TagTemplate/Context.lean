/-
# Contexts — where a compilation stands in a chain of includes

A template that includes another compiles it on the way, so a compilation knows
how deep it is and in which templates.  An include is refused at the limit,
whether or not the output would ever show it: that is what ends a circle of
includes.
-/
import TagTemplate.Error

namespace TagTemplate

/-- Where a compilation stands. -/
structure Context where
  /-- The name of the template being compiled. -/
  name : Option Text
  /-- Its source, for the snippets of error messages. -/
  source : Option Text
  /-- How many includes deep the compilation is. -/
  depth : Int
  /-- The first depth at which nothing can be included any more. -/
  limit : Int
  /-- The templates around this one, outermost first. -/
  enclosing : List Text
deriving DecidableEq

namespace Context

/-- Deep enough for any hierarchy of templates, and a circle soon reaches it. -/
def defaultLimit : Int := 50

/-- The context of a template that is not included. -/
def outermost (name : Option Text) : Context := ⟨name, none, 0, defaultLimit, []⟩

/-- The templates that an include in this one is in, outermost first. -/
def stack (c : Context) : List Text := c.enclosing ++ [displayName c.name]

/-- Refuses to include `name` at the limit. -/
def checkDepth (c : Context) (name : Text) : Except Error Unit :=
  if c.limit ≤ c.depth then .error (.tooDeep name c.limit c.stack) else .ok ()

/-- The context of a template that this one includes. -/
def child (c : Context) (name : Text) : Context :=
  ⟨some name, none, c.depth + 1, c.limit, c.stack⟩

/-- How many more includes fit between this context and the limit. -/
def room (c : Context) : Nat := (c.limit - c.depth).toNat

end Context

end TagTemplate
