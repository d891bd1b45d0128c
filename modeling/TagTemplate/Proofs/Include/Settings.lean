/-
# Settings that are assigned later

An environment has its settings when it is made, and each of them can be assigned later.
What it makes after that is made by the settings as they are then, but for one of them:

    loader           asked whenever a template is fetched
    strict           asked whenever a source is compiled
    maxIncludeDepth  asked whenever a template is made
    keepNewlines     asked once, when the environment is made

So after any assignments an environment is to be compared with two others that are made anew:
one that keeps line breaks as it was said first, and one that keeps them as it is said now.  It
makes what the former makes; and what the latter makes, as long as no text that is read on the
way has a line break (`ReadsFor`), or it is said now what was said first.
-/
import TagTemplate.Proofs.Include.Chains
import TagTemplate.Proofs.Token.Joined

namespace TagTemplate

/-! ## Line breaks in what is read -/

namespace Token

variable {source : Text}

theorem ofSource_of_not_mem (h : Text.lineFeed ∉ source.normalizeNewlines)
    (keepNewlines keepNewlines' : Bool) :
    ofSource keepNewlines source = ofSource keepNewlines' source := by
  rw [ofSource, ofSource, Text.lines, Text.splitOn_of_not_mem h]
  simp [ofLines]

end Token

namespace Environment

/-! ## Environments that read alike -/

/-- Compiling the source reads the text: it is this source, or that of a template that is included,
at any depth. -/
inductive Reads (env : Environment) : (source text : Text) → Prop
  | refl {source : Text} : env.Reads source source
  | step {source name stored text : Text} {found : Value × Value} : name ∈ env.inclusions source →
      (env.fetch name).result = .ok found → sourceText found.1 = .ok stored →
      env.Reads stored text → env.Reads source text

/-- Making what is requested reads the text. -/
def ReadsFor (env : Environment) (r : Request) (text : Text) : Prop :=
  ∃ found source, (env.textFor r).result = .ok found ∧ sourceText found.1 = .ok source ∧
    env.Reads source text

variable {env env' : Environment}

theorem readsFor_of_source {env : Environment} {r : Request} {source text : Text}
    (h : r.source = some source) (hne : source ≠ []) :
    env.ReadsFor r text ↔ env.Reads source text := by
  rw [ReadsFor, textFor_of_source env h hne]
  constructor
  · rintro ⟨_, _, hfound, hsource, hreads⟩
    cases hfound
    cases hsource
    exact hreads
  · exact fun hreads => ⟨_, source, rfl, rfl, hreads⟩

/-- The environments differ in nothing but how they treat line breaks. -/
structure Alike (env env' : Environment) : Prop where
  loader : env.loader = env'.loader
  strict : env.strict = env'.strict
  maxIncludeDepth : env.maxIncludeDepth = env'.maxIncludeDepth
  escapers : env.escapers = env'.escapers

theorem Alike.fetch (h : env.Alike env') (name : Text) : env.fetch name = env'.fetch name := by
  rw [Environment.fetch, Environment.fetch, h.loader]

theorem Alike.textFor (h : env.Alike env') (r : Request) : env.textFor r = env'.textFor r := by
  simp only [Environment.textFor, h.fetch]

theorem Alike.context (h : env.Alike env') (name : Option Text) :
    env.context name = env'.context name := by
  rw [Environment.context, Environment.context, h.maxIncludeDepth]

section

variable [Traits] {room : Nat} {context : Context} {data : Value} {source : Text} {r : Request}

/-- A source is compiled alike if all is read alike.  The induction is on the room for includes;
what an include reads is part of what its source reads. -/
theorem Alike.compileWithin (h : env.Alike env')
    (hread : ∀ text, env.Reads source text →
      Token.ofSource env.readsNewlines text = Token.ofSource env'.readsNewlines text) :
    env.compileWithin room context data source = env'.compileWithin room context data source := by
  induction room generalizing context data source with
  | zero => exact compileWithin_congr h.strict (hread source .refl) fun _ _ _ _ _ _ => rfl
  | succ room ih =>
      refine compileWithin_congr h.strict (hread source .refl) ?_
      intro tokens htokens t ht name hname
      have hmem : name ∈ env.inclusions source :=
        mem_inclusions.mpr ⟨tokens, htokens, t, ht, hname⟩
      refine Traced.bind_congr_of_ok fun _ _ => Traced.bind_congr_of_ok fun _ _ => ?_
      show env.includeText (room + 1) _ = env'.includeText (room + 1) _
      rw [includeText, includeText, ← h.fetch]
      refine Traced.bind_congr_of_ok fun found hfound => ?_
      refine Traced.bind_congr_of_ok fun stored hstored => ?_
      rw [ih fun text htext => hread text (.step hmem hfound hstored htext), h.escapers]
      rfl

theorem Alike.template (h : env.Alike env')
    (hread : ∀ text, env.ReadsFor r text →
      Token.ofSource env.readsNewlines text = Token.ofSource env'.readsNewlines text) :
    env.template r = env'.template r := by
  rw [Environment.template, Environment.template, ← h.textFor, h.escapers]
  refine Traced.bind_congr_of_ok fun found hfound => ?_
  refine Traced.bind_congr_of_ok fun source hsource => ?_
  rw [Environment.compile, Environment.compile, ← h.context, h.compileWithin fun text htext => ?_]
  exact hread text ⟨found, source, hfound, hsource, htext⟩

/-! ## Assignments -/

/-- Another value for one of the settings. -/
inductive Assignment where
  | loader (loader : Option Loader)
  | strict (strict : Bool)
  | keepNewlines (keepNewlines : Bool)
  | maxIncludeDepth (maxIncludeDepth : Int)

/-- The environment with another value for one of its settings. -/
def assign (env : Environment) : Assignment → Environment
  | .loader loader => { env with loader }
  | .strict strict => { env with strict }
  | .keepNewlines keepNewlines => { env with keepNewlines }
  | .maxIncludeDepth maxIncludeDepth => { env with maxIncludeDepth }

def assignAll (env : Environment) (assignments : List Assignment) : Environment :=
  assignments.foldl assign env

omit [Traits] in
theorem assign_keeps (env : Environment) (assignment : Assignment) :
    (env.assign assignment).escapers = env.escapers ∧
      (env.assign assignment).readsNewlines = env.readsNewlines := by
  cases assignment <;> exact ⟨rfl, rfl⟩

omit [Traits] in
theorem assignAll_keeps (env : Environment) (assignments : List Assignment) :
    (env.assignAll assignments).escapers = env.escapers ∧
      (env.assignAll assignments).readsNewlines = env.readsNewlines := by
  induction assignments generalizing env with
  | nil => exact ⟨rfl, rfl⟩
  | cons assignment assignments ih =>
      obtain ⟨hescapers, hreads⟩ := ih (env.assign assignment)
      obtain ⟨hescapers', hreads'⟩ := env.assign_keeps assignment
      exact ⟨hescapers.trans hescapers', hreads.trans hreads'⟩

/-- **The settings an environment has now decide what it makes**, but for line breaks, which it
treats as it was said when it was made. -/
theorem template_assignAll (loader : Option Loader) (strict keepNewlines : Bool)
    (maxIncludeDepth : Int) (escapers : EscapeTable) (assignments : List Assignment) (r : Request) :
    let env := (make loader strict keepNewlines maxIncludeDepth escapers).assignAll assignments
    env.template r =
        (make env.loader env.strict keepNewlines env.maxIncludeDepth escapers).template r ∧
      (env.keepNewlines = keepNewlines ∨
          (∀ text, env.ReadsFor r text → Text.lineFeed ∉ text.normalizeNewlines) →
        env.template r = (make env.loader env.strict env.keepNewlines env.maxIncludeDepth
          escapers).template r) := by
  intro env
  obtain ⟨hescapers, hreads⟩ :=
    (make loader strict keepNewlines maxIncludeDepth escapers).assignAll_keeps assignments
  have halike (keep : Bool) :
      env.Alike (make env.loader env.strict keep env.maxIncludeDepth escapers) :=
    ⟨rfl, rfl, rfl, hescapers⟩
  have hfirst : env.template r =
      (make env.loader env.strict keepNewlines env.maxIncludeDepth escapers).template r :=
    (halike keepNewlines).template fun text _ => congrArg (Token.ofSource · text) hreads
  refine ⟨hfirst, ?_⟩
  rintro (hkeep | hbreaks)
  · rw [hkeep, hfirst]
  · exact (halike _).template fun text htext => Token.ofSource_of_not_mem (hbreaks text htext) _ _

end

attribute [local instance] Traits.bare

/-- A loader and the keeping of line breaks, both assigned later, for two texts of one line. -/
theorem template_assignAll_one_line :
    let env := (make none false false 50 .standard).assignAll
      [.loader (some (.mapping [("b", "x<tmpl_var v>")])), .keepNewlines true]
    let r : Request := ⟨some "a<tmpl_include b>", none, .null, none, false⟩
    (∀ text, env.ReadsFor r text → Text.lineFeed ∉ text.normalizeNewlines) ∧
      env.template r = (make env.loader false true 50 .standard).template r := by
  intro env r
  have hlookup : ([("b", "x<tmpl_var v>")] : List (Text × Text)).lookup ("b" : Text) =
      some ("x<tmpl_var v>" : Text) := by decide
  have hinclusions : env.inclusions "a<tmpl_include b>" = (["b"] : List Text) ∧
      env.inclusions "x<tmpl_var v>" = [] := by decide +kernel
  have hlines : Text.lineFeed ∉ Text.normalizeNewlines "a<tmpl_include b>" ∧
      Text.lineFeed ∉ Text.normalizeNewlines "x<tmpl_var v>" := by decide +kernel
  have hreads : ∀ text, env.ReadsFor r text → Text.lineFeed ∉ text.normalizeNewlines := by
    intro text hreads
    rw [readsFor_of_source rfl (by decide)] at hreads
    cases hreads with
    | refl => exact hlines.1
    | step hname hfetch hstored hreads =>
        rw [hinclusions.1, List.mem_singleton] at hname
        subst hname
        rw [result_fetch_mapping rfl hlookup (by decide)] at hfetch
        cases hfetch
        cases hstored
        cases hreads with
        | refl => exact hlines.2
        | step hname => exact absurd (hinclusions.2 ▸ hname) List.not_mem_nil
  exact ⟨hreads, (template_assignAll none false false 50 .standard _ r).2 (.inr hreads)⟩

/-- Line breaks that shall be kept now are not kept. -/
theorem keepNewlines_assigned_late :
    let env := (make none false false 50 .standard).assignAll [.keepNewlines true]
    let r : Request := ⟨some "a\nb", none, .null, none, false⟩
    let fresh := make env.loader env.strict env.keepNewlines env.maxIncludeDepth .standard
    ((env.template r).result.map fun t => t.program.ops.toList) =
        .ok [⟨⟨1, 0⟩, .text "ab"⟩] ∧
      ((fresh.template r).result.map fun t => t.program.ops.toList) =
        .ok [⟨⟨1, 0⟩, .text "a\nb"⟩] :=
  ⟨rfl, rfl⟩

end Environment

end TagTemplate
