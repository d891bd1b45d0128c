/-
# Includes — a template compiles what it includes

Compiling a source in an environment is one compilation of its tokens
(`compileWithin_eq`), whose includes give the text that `includeText` comes to: the
other source fetched, compiled with room for one include fewer, and run with the
data of the request.
-/
import TagTemplate.Environment
import TagTemplate.Proofs.Traced

namespace TagTemplate.Environment

variable [Traits]

/-- The text of a template that is included, with room for so many more includes. -/
def includeText (env : Environment) : (room : Nat) → IncludeRequest → Traced Text
  | 0, request => .fail (.tooDeep request.name request.context.limit request.context.enclosing)
  | room + 1, request => do
    let (source, _) ← env.fetch request.name
    let source ← Traced.of (sourceText source)
    let program ← env.compileWithin room request.context request.data source
    Traced.of (program.execute request.data env.escapers)

/-- How an environment compiles a source. -/
def compilation (env : Environment) (room : Nat) (context : Context) (data : Value)
    (source : Text) : Compilation :=
  { strict := env.strict, includeText := some (env.includeText room)
    context := enter context source, data }

theorem compileWithin_eq (env : Environment) (room : Nat) (context : Context) (data : Value)
    (source : Text) : env.compileWithin room context data source =
      Traced.of (Token.ofSource env.readsNewlines source) >>= fun tokens =>
        (env.compilation room context data source).compile tokens := by
  cases room <;> rfl

omit [Traits] in
theorem textFor_of_source (env : Environment) {r : Request} {source : Text}
    (h : r.source = some source) (hne : source ≠ []) :
    env.textFor r = pure (.text source, .null, r.name) := by
  obtain ⟨c, rest, rfl⟩ := List.exists_cons_of_ne_nil hne
  rw [textFor, h]

theorem result_template_of_source (env : Environment) {r : Request} {source : Text}
    (h : r.source = some source) (hne : source ≠ []) :
    (env.template r).result =
      (env.compile (env.context r.name) r.data source).result >>= fun program => .ok
        { program, name := r.name, filename := .null, source := some source.normalizeNewlines
          data := r.data, target := if r.hasTarget then some [] else none
          escapers := env.escapers.orStandard } := by
  rw [template, textFor_of_source env h hne]
  simp only [Traced.pure_bind, Traced.result_bind, Traced.result_pure]
  rfl

end TagTemplate.Environment
