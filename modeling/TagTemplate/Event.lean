/-
# Events — what happens on the way to a result

Compiling and fetching leave a trail, which is kept also when they fail.  Each
event can be shown as a line of a log, with a level and the part of the library
it comes from.

| event                               | level   | from        |
|-------------------------------------|---------|-------------|
| a block tag tolerated               | warning | compiler    |
| a template compiled                 | debug   | compiler    |
| a template about to be included     | debug   | compiler    |
| a template fetched                  | debug   | environment |
| a template that cannot be fetched   | warning | environment |
| a rendering skipped                 | debug   | template    |
-/
import TagTemplate.Issue
import TagTemplate.Value.Display
import TagTemplate.Value.Truth

namespace TagTemplate

/-- What one template asks for when it includes another. -/
structure IncludeRequest where
  name : Text
  /-- The data that the including template is compiled with. -/
  data : Value
  /-- The context for compiling the included template. -/
  context : Context

/-- Something that happened. -/
inductive Event where
  | tolerated (template : Option Text) (line : Int) (issue : Issue)
  | compiled (template : Option Text) (tokens ops : Nat)
  | including (request : IncludeRequest)
  | fetched (location : Text) (filename : Value)
  | notFetched (location : Text) (error : Error)
  | renderSkipped (template : Option Text)

/-- How much an event matters. -/
inductive Level where
  | debug
  | warning
deriving DecidableEq

/-- The parts of the library that events come from. -/
inductive Origin where
  | compiler
  | environment
  | template
deriving DecidableEq

namespace Event

def level : Event → Level
  | tolerated .. | notFetched .. => .warning
  | _ => .debug

def origin : Event → Origin
  | tolerated .. | compiled .. | including _ => .compiler
  | fetched .. | notFetched .. => .environment
  | renderSkipped _ => .template

/-- The name a loader gave a text, or a placeholder. -/
def filenameText (filename : Value) : Text :=
  if filename.holds then (filename.standalone.toOption).getD [] else "<loader>"

def message : Event → Text
  | tolerated template line issue =>
    displayName template ++ ":" ++ Text.ofInt line ++ ": " ++ issue.detail ++
      if issue.isRepaired then " (repaired)" else " (ignored)"
  | compiled template tokens ops =>
    "Compiled " ++ displayName template ++ ": " ++ Text.ofNat tokens ++ " tokens -> " ++
      Text.ofNat ops ++ " ops"
  | including request =>
    "Including " ++ request.name ++ " into " ++ request.context.enclosing.getLastD []
  | fetched location filename =>
    "Fetched template " ++ location.quoted ++ " from " ++ filenameText filename
  | notFetched location error =>
    "Could not fetch template " ++ location.quoted ++ ": " ++ error.message
  | renderSkipped template =>
    "Template " ++ nameOr "<string>" template ++ " has no target; skipping render"

def issue? : Event → Option Issue
  | tolerated _ _ issue => some issue
  | _ => none

def request? : Event → Option IncludeRequest
  | including request => some request
  | _ => none

end Event

/-- A result together with the events on the way to it; a failure keeps its events. -/
structure Traced (α : Type) where
  events : List Event
  result : Except Error α

namespace Traced

/-- A result without events. -/
def of (result : Except Error α) : Traced α := ⟨[], result⟩

/-- An event and no result to speak of. -/
def emit (event : Event) : Traced Unit := ⟨[event], .ok ()⟩

def fail (error : Error) : Traced α := ⟨[], .error error⟩

/-- Goes on with a result, after its events; after a failure nothing happens. -/
def andThen (t : Traced α) (next : α → Traced β) : Traced β :=
  match t.result with
  | .ok a => let u := next a; ⟨t.events ++ u.events, u.result⟩
  | .error e => ⟨t.events, .error e⟩

instance : Monad Traced where
  pure a := of (.ok a)
  bind := andThen

end Traced

end TagTemplate
