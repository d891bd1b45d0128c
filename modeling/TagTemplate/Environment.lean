/-
# Environments — how templates are made

An environment says where templates come from and how they are compiled, and
makes templates from literal text or by the name of one.  What a template includes
is fetched, compiled and run while the template compiles, with the data given for
that; the result becomes literal text.

    construction fails      as                        with
    nothing to compile      missing                   `nothingGiven`
    no loader               missing                   `noLoader`
    the loader fails        fetchFailed               the loader's error
    the text is empty       missing                   `emptySource`

Whether line breaks are kept is settled when an environment is made: its
`keepNewlines` can be assigned later, but tokens are read as it was first said.

Only the limit of an environment bounds how deep includes are nested.  The recursion
limit of the runtime, which a chain of includes reaches first if that limit is set very
high, is not modelled.
-/
import TagTemplate.Compile
import TagTemplate.Loader.Basic
import TagTemplate.Template
import TagTemplate.Token.Source

namespace TagTemplate

/-- How templates are made. -/
structure Environment where
  loader : Option Loader
  /-- Block tags that do not fit are errors. -/
  strict : Bool
  keepNewlines : Bool
  /-- The first depth at which nothing can be included. -/
  maxIncludeDepth : Int
  escapers : EscapeTable
  /-- Line breaks are kept, as it was said when the environment was made. -/
  readsNewlines : Bool

namespace Environment

def make (loader : Option Loader) (strict keepNewlines : Bool) (maxIncludeDepth : Int)
    (escapers : EscapeTable) : Environment :=
  { loader, strict, keepNewlines, maxIncludeDepth, escapers, readsNewlines := keepNewlines }

def sourceText : Value → Except Error Text
  | .text t => .ok t
  | .bytes _ | .byteArray _ => .error .sourceIsBytes
  | v => .error (.sourceNotText v.typePath)

/-- The source and the file name for a location. -/
def fetch (env : Environment) (location : Text) : Traced (Value × Value) :=
  match env.loader with
  | none => .fail (.missing (.noLoader location))
  | some loader =>
    match loader.fetch location >>= Value.pair with
    | .error e => do
      Traced.emit (.notFetched location e)
      Traced.fail (.fetchFailed location e)
    | .ok (source, filename) =>
      if !source.holds then .fail (.missing (.emptySource location))
      else do
        Traced.emit (.fetched location filename)
        return (source, filename)

/-- The context in which a source is compiled. -/
def enter (c : Context) (source : Text) : Context :=
  { c with source := some source.normalizeNewlines }

variable [Traits]

/-- The program of a source in a context with room for `room` more includes. -/
def compileWithin (env : Environment) : (room : Nat) → Context → Value → Text → Traced Program
  | room, context, data, source => do
    let tokens ← Traced.of (Token.ofSource env.readsNewlines source)
    let includeText (request : IncludeRequest) : Traced Text :=
      match room with
      | 0 => .fail (.tooDeep request.name request.context.limit request.context.enclosing)
      | room + 1 => do
        let (source, _) ← env.fetch request.name
        let source ← Traced.of (sourceText source)
        let program ← env.compileWithin room request.context request.data source
        Traced.of (program.execute request.data env.escapers)
    let compilation : Compilation :=
      { strict := env.strict, includeText := some includeText
        context := enter context source, data }
    compilation.compile tokens

def context (env : Environment) (name : Option Text) : Context :=
  { Context.outermost name with limit := env.maxIncludeDepth }

def compile (env : Environment) (context : Context) (data : Value) (source : Text) :
    Traced Program :=
  env.compileWithin context.room context data source

/-- What a template is made from. -/
structure Request where
  source : Option Text
  location : Option Text
  data : Value
  name : Option Text
  hasTarget : Bool

/-- The text to compile, with its file name and the template's name: a source that is not empty,
or else what is at a location. -/
def textFor (env : Environment) (r : Request) : Traced (Value × Value × Option Text) :=
  match r.source, r.location with
  | some (c :: source), _ => pure (.text (c :: source), .null, r.name)
  | _, some (c :: location) => do
    let (source, filename) ← env.fetch (c :: location)
    return (source, filename, some (nameOr (c :: location) r.name))
  | _, _ => .fail (.missing .nothingGiven)

def template (env : Environment) (r : Request) : Traced Template := do
  let (text, filename, name) ← env.textFor r
  let text ← Traced.of (sourceText text)
  let program ← env.compile (env.context name) r.data text
  return { program, name, filename, source := some text.normalizeNewlines, data := r.data
           target := if r.hasTarget then some [] else none, escapers := env.escapers.orStandard }

/-- An environment as it is shown to a reader. -/
def display (env : Environment) : Text :=
  let loader : Text := match env.loader with
    | some loader => loader.title
    | none => "None"
  "<Environment loader=" ++ loader ++ " strict_blocks=" ++
    (if env.strict then "True" else "False") ++ ">"

end Environment

end TagTemplate
