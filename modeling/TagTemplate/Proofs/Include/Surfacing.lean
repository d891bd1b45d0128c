/-
# What cannot be fetched surfaces as it is

A compilation that gets to an include fetches the other source.  What comes of it when that
fails goes through the templates around the include as it is, however many there are, with the
one warning that it left:

    the loader                              compiling fails with         warnings
    raises an error, or answers no pair     `fetchFailed` and the error  one, of the error
    answers with a source that is empty     `emptySource`                none
    is not there                            `noLoader`                   none

What running an included template raises goes the same way: as it is, and without a warning.
The other includes, which the compilation was through with by then, have left no warning of
this kind, since they were fetched.
-/
import TagTemplate.Proofs.Include.Blame
import TagTemplate.Proofs.Include.Depth

namespace TagTemplate

variable {α β : Type}

/-! ## Errors and warnings -/

namespace Error

def location? : Error → Option Text
  | missing reason => reason.location?
  | fetchFailed location _ => some location
  | _ => none

def cause? : Error → Option Error
  | fetchFailed _ cause => some cause
  | _ => none

/-- The error says that the template at a location is missing, and what that is due to. -/
structure Misses (e : Error) (location : Text) (cause : Option Error) : Prop where
  code : e.code? = some .missingTemplate
  location : e.location? = some location
  cause : e.cause? = cause

end Error

/-- What could not be fetched, and why. -/
def Event.unfetched? : Event → Option (Text × Error)
  | notFetched location error => some (location, error)
  | _ => none

namespace Traced

def fetchWarnings (t : Traced α) : List (Text × Error) := t.events.filterMap Event.unfetched?

/-- The computation fails, having warned so often of what it could not fetch. -/
structure FailsAs (t : Traced α) (e : Error) (warnings : List (Text × Error)) : Prop where
  result : t.result = .error e
  fetchWarnings : t.fetchWarnings = warnings

variable {t : Traced α} {f : α → Traced β} {a : α} {e : Error} {warnings : List (Text × Error)}

theorem fetchWarnings_bind_of_ok (h : t.result = .ok a) :
    (t >>= f).fetchWarnings = t.fetchWarnings ++ (f a).fetchWarnings := by
  rw [fetchWarnings, events_bind_of_ok f h, List.filterMap_append, fetchWarnings, fetchWarnings]

theorem fetchWarnings_emit {event : Event} (h : event.unfetched? = none) :
    (emit event).fetchWarnings = [] := List.filterMap_cons_none h

theorem FailsAs.bind (h : t.FailsAs e warnings) (f : α → Traced β) :
    (t >>= f).FailsAs e warnings where
  result := by rw [result_bind, h.result, error_bind]
  fetchWarnings := by
    rw [Traced.fetchWarnings, events_bind_of_error f h.result]
    exact h.fetchWarnings

theorem FailsAs.after (ht : t.result = .ok a) (hquiet : t.fetchWarnings = [])
    (h : (f a).FailsAs e warnings) : (t >>= f).FailsAs e warnings where
  result := by rw [result_bind, ht, ok_bind, h.result]
  fetchWarnings := by rw [fetchWarnings_bind_of_ok ht, hquiet, h.fetchWarnings, List.nil_append]

theorem failsAs_of {r : Except Error α} (h : r = .error e) : (of r).FailsAs e [] := ⟨h, rfl⟩

theorem failsAs_fail (e : Error) : (fail e : Traced α).FailsAs e [] := ⟨rfl, rfl⟩

end Traced

open Traced

/-! ## What works leaves no warning -/

namespace Compilation

variable {c : Compilation} {d d' : Draft} {t : Token} {ts : List Token}

/-- Whatever is fetched is fetched without a warning. -/
def FetchesQuietly (c : Compilation) : Prop :=
  ∀ name text, (c.fetchText name).result = .ok text → (c.fetchText name).fetchWarnings = []

theorem fetchWarnings_report (position : Position) (issue : Issue) :
    (c.report position issue).fetchWarnings = [] := by
  rw [report]
  split <;> rfl

theorem fetchWarnings_reportAny (position : Position) (issue? : Option Issue) :
    (c.reportAny position issue?).fetchWarnings = [] := by
  cases issue? with
  | none => rfl
  | some issue => exact fetchWarnings_report position issue

theorem FetchesQuietly.apply (hc : c.FetchesQuietly) (h : (c.apply d t).result = .ok d') :
    (c.apply d t).fetchWarnings = [] := by
  unfold Compilation.apply at h ⊢
  cases hcontent : t.content with
  | inclusion name =>
      simp only [hcontent] at h ⊢
      obtain ⟨text, htext, -⟩ := result_bind_eq_ok.mp h
      rw [fetchWarnings_bind_of_ok htext, hc name text htext]
      rfl
  | _ => rfl

theorem FetchesQuietly.step (hc : c.FetchesQuietly) (h : (c.step d t).result = .ok d') :
    (c.step d t).fetchWarnings = [] := by
  rw [step_eq] at h ⊢
  obtain ⟨⟨⟩, hreport, happly⟩ := result_bind_eq_ok.mp h
  rw [fetchWarnings_bind_of_ok hreport, fetchWarnings_reportAny, hc.apply happly]
  rfl

theorem FetchesQuietly.steps (hc : c.FetchesQuietly) (h : (c.steps d ts).result = .ok d') :
    (c.steps d ts).fetchWarnings = [] := by
  induction ts generalizing d with
  | nil => rfl
  | cons t ts ih =>
      obtain ⟨d₁, hstep, hrest⟩ := result_bind_eq_ok.mp h
      rw [Compilation.steps, fetchWarnings_bind_of_ok hstep, hc.step hstep, ih hrest]
      rfl

theorem fetchWarnings_closeAll {blocks : List OpenBlock}
    (h : (c.closeAll d blocks).result = .ok d') : (c.closeAll d blocks).fetchWarnings = [] := by
  induction blocks generalizing d with
  | nil => rfl
  | cons block blocks ih =>
      obtain ⟨⟨⟩, hreport, hrest⟩ := result_bind_eq_ok.mp h
      rw [closeAll, fetchWarnings_bind_of_ok hreport, fetchWarnings_report, ih hrest]
      rfl

theorem FetchesQuietly.compile (hc : c.FetchesQuietly) {p : Program}
    (h : (c.compile ts).result = .ok p) : (c.compile ts).fetchWarnings = [] := by
  obtain ⟨d, hsteps, h⟩ := result_bind_eq_ok.mp h
  obtain ⟨d', hclose, -⟩ := result_bind_eq_ok.mp h
  rw [Compilation.compile, fetchWarnings_bind_of_ok hsteps, fetchWarnings_bind_of_ok hclose,
    hc.steps hsteps, fetchWarnings_closeAll hclose]
  rfl

theorem exists_fetchText_of_compile (hc : c.strict = false) {e : Error}
    (h : (c.compile ts).result = .error e) :
    ∃ before t after d name, ts = before ++ t :: after ∧
      (c.steps .empty before).result = .ok d ∧ t.content = .inclusion name ∧
      (c.fetchText name).result = .error e := by
  rw [result_compile] at h
  rcases bind_eq_error.mp h with hsteps | ⟨d, hsteps, h⟩
  · obtain ⟨before, t, after, d, rfl, hbefore, hstop⟩ := exists_stop_of_steps hsteps
    rw [step_eq, result_bind, result_reportAny hc, ok_bind] at hstop
    obtain ⟨name, hname, hfetch⟩ := result_apply_eq_error hstop
    exact ⟨before, t, after, d, name, rfl, hbefore, hname, hfetch⟩
  · obtain ⟨d', hclose⟩ := exists_closeAll hc d d.blocks
    rw [hclose] at h
    cases h

end Compilation

namespace Environment

variable {env : Environment} {context context' : Context} {data : Value}
  {source source' name : Text} {e : Error} {warnings : List (Text × Error)}

theorem fetchWarnings_fetch {found : Value × Value} (h : (env.fetch name).result = .ok found) :
    (env.fetch name).fetchWarnings = [] := by
  unfold fetch at h ⊢
  cases hloader : env.loader with
  | none => rw [hloader] at h; cases h
  | some loader =>
      simp only [hloader] at h ⊢
      cases hpair : loader.fetch name >>= Value.pair with
      | error e => rw [hpair] at h; cases h
      | ok answer =>
          simp only [hpair] at h ⊢
          split at h
          · cases h
          · next hholds => rw [if_neg hholds]; rfl

section

variable [Traits]

theorem fetchText_eq_includeText (h : context.depth < context.limit) (name : Text) :
    (env.compilation context.room context data source).fetchText name =
      Traced.emit (.including ⟨name, data, context.child name⟩) >>= fun _ =>
        env.includeText ((context.child name).room + 1) ⟨name, data, context.child name⟩ := by
  rw [fetchText_of_depth_lt h, Context.room_child h name]

theorem fetchesQuietly_of_compile (h : ∀ name stored p, context.depth < context.limit →
      (env.compile (context.child name) data stored).result = .ok p →
      (env.compile (context.child name) data stored).fetchWarnings = []) :
    (env.compilation context.room context data source).FetchesQuietly := by
  intro name text htext
  obtain ⟨hlt, found, stored, program, hfound, hstored, hprogram, -⟩ :=
    result_fetchText_eq_ok.mp htext
  have hcompile : (env.compileWithin (context.child name).room (context.child name) data
      stored).result = .ok program := hprogram
  have hread : (Traced.of (sourceText found.1)).result = .ok stored := hstored
  rw [fetchText_eq_includeText hlt, fetchWarnings_bind_of_ok (result_emit _),
    fetchWarnings_emit rfl, includeText, fetchWarnings_bind_of_ok hfound,
    fetchWarnings_bind_of_ok hread, fetchWarnings_bind_of_ok hcompile, fetchWarnings_fetch hfound,
    show fetchWarnings (env.compileWithin _ _ _ _) = [] from h name stored program hlt hprogram]
  rfl

theorem fetchWarnings_compile_of_quietly
    (hquiet : (env.compilation context.room context data source).FetchesQuietly) {p : Program}
    (h : (env.compile context data source).result = .ok p) :
    (env.compile context data source).fetchWarnings = [] := by
  rw [compile, compileWithin_eq] at h ⊢
  obtain ⟨tokens, htokens, hcompile⟩ := result_bind_eq_ok.mp h
  rw [fetchWarnings_bind_of_ok htokens]
  exact hquiet.compile hcompile

/-- The other sources that a source includes are fetched without a warning, if they are, and it is
compiled so, if it is.  The induction is on the room for includes. -/
theorem fetchesQuietly (env : Environment) (context : Context) (data : Value) (source : Text) :
    (env.compilation context.room context data source).FetchesQuietly := by
  generalize hroom : context.room = room
  induction room generalizing context source with
  | zero =>
      refine hroom ▸ fetchesQuietly_of_compile fun name stored p hlt _ => ?_
      cases (Context.room_child hlt name).symm.trans hroom
  | succ room ih =>
      refine hroom ▸ fetchesQuietly_of_compile fun name stored p hlt hp => ?_
      rw [Context.room_child hlt name, Nat.add_right_cancel_iff] at hroom
      exact fetchWarnings_compile_of_quietly (hroom ▸ ih (context.child name) stored hroom) hp

theorem fetchWarnings_compile {p : Program}
    (h : (env.compile context data source).result = .ok p) :
    (env.compile context data source).fetchWarnings = [] :=
  fetchWarnings_compile_of_quietly (env.fetchesQuietly context data source) h

/-! ## Failures of an include -/

/-- Compiling a source gets to an include for which there is room: all that stands before it in the
source has worked. -/
inductive GetsTo (env : Environment) (data : Value) (context : Context) (source name : Text) : Prop
  | intro {before after : List Token} {t : Token} {d : Draft} :
      Token.ofSource env.readsNewlines source = .ok (before ++ t :: after) →
      ((env.compilation context.room context data source).steps .empty before).result = .ok d →
      t.content = .inclusion name → context.depth < context.limit →
      GetsTo env data context source name

theorem GetsTo.failsAs (h : env.GetsTo data context source name)
    (hinclude : (env.includeText ((context.child name).room + 1)
      ⟨name, data, context.child name⟩).FailsAs e warnings) :
    (env.compile context data source).FailsAs e warnings := by
  obtain ⟨hread, hsteps, hcontent, hlt⟩ := h
  rename_i before after t d
  have hfetch : ((env.compilation context.room context data source).fetchText name).FailsAs e
      warnings := by
    rw [fetchText_eq_includeText hlt]
    exact hinclude.after rfl (fetchWarnings_emit rfl)
  have hstep : ((env.compilation context.room context data source).step d t).FailsAs e
      warnings := by
    simp only [Compilation.step, hcontent]
    exact hfetch.bind _
  rw [compile, compileWithin_eq, hread]
  refine FailsAs.after rfl rfl ?_
  refine FailsAs.bind ?_ _
  rw [Compilation.steps_append]
  exact (hstep.bind _).after hsteps ((env.fetchesQuietly context data source).steps hsteps)

theorem ComesTo.failsAs (h : env.ComesTo data context source context' source')
    (hfails : (env.compile context' data source').FailsAs e warnings) :
    (env.compile context data source).FailsAs e warnings := by
  induction h with
  | here => exact hfails
  | included hread hsteps hcontent hlt hfound hstored _ ih =>
      refine GetsTo.failsAs (.intro hread hsteps hcontent hlt) ?_
      refine FailsAs.after hfound (fetchWarnings_fetch hfound) ?_
      exact FailsAs.after hstored rfl ((ih hfails).bind _)

/-- Compiling a source gets to an include, in the source itself or in what it includes. -/
def Reaches (env : Environment) (data : Value) (context : Context) (source : Text)
    (context' : Context) (name : Text) : Prop :=
  ∃ source', env.ComesTo data context source context' source' ∧
    env.GetsTo data context' source' name

theorem Reaches.failsAs (h : env.Reaches data context source context' name)
    (hinclude : (env.includeText ((context'.child name).room + 1)
      ⟨name, data, context'.child name⟩).FailsAs e warnings) :
    (env.compile context data source).FailsAs e warnings := by
  obtain ⟨source', hcomes, hgets⟩ := h
  exact hcomes.failsAs (hgets.failsAs hinclude)

theorem Reaches.failsAs_of_fetch (h : env.Reaches data context source context' name)
    (hfetch : (env.fetch name).FailsAs e warnings) :
    (env.compile context data source).FailsAs e warnings :=
  h.failsAs (hfetch.bind _)

/-! ## All failures of a tolerant environment -/

/-- Compiling a source fails at a step of its own: it cannot be read, or it gets to an include that
is too deep, cannot be fetched, is no text, or cannot be run. -/
inductive StopsAt (env : Environment) (data : Value) (context : Context) (source : Text) :
    Error → List (Text × Error) → Prop
  | unread {e : Error} : Token.ofSource env.readsNewlines source = .error e →
      StopsAt env data context source e []
  | tooDeep {before after : List Token} {t : Token} {d : Draft} {name : Text} :
      Token.ofSource env.readsNewlines source = .ok (before ++ t :: after) →
      ((env.compilation context.room context data source).steps .empty before).result = .ok d →
      t.content = .inclusion name → context.limit ≤ context.depth →
      StopsAt env data context source (.tooDeep name context.limit context.stack) []
  | unfetched {name : Text} {e : Error} {warnings : List (Text × Error)} :
      env.GetsTo data context source name → (env.fetch name).FailsAs e warnings →
      StopsAt env data context source e warnings
  | noText {name : Text} {found : Value × Value} {e : Error} :
      env.GetsTo data context source name → (env.fetch name).result = .ok found →
      sourceText found.1 = .error e → StopsAt env data context source e []
  | running {name stored : Text} {found : Value × Value} {program : Program} {e : Error} :
      env.GetsTo data context source name → (env.fetch name).result = .ok found →
      sourceText found.1 = .ok stored →
      (env.compile (context.child name) data stored).result = .ok program →
      program.execute data env.escapers = .error e → StopsAt env data context source e []

theorem StopsAt.failsAs (h : env.StopsAt data context source e warnings) :
    (env.compile context data source).FailsAs e warnings := by
  cases h with
  | unread hread =>
      rw [compile, compileWithin_eq]
      exact (failsAs_of hread).bind _
  | tooDeep hread hsteps hcontent hle =>
      rw [compile, compileWithin_eq, hread]
      refine FailsAs.after rfl rfl (FailsAs.bind ?_ _)
      rw [Compilation.steps_append]
      refine FailsAs.after hsteps ((env.fetchesQuietly context data source).steps hsteps) ?_
      refine FailsAs.bind ?_ _
      simp only [Compilation.step, hcontent, fetchText_of_limit_le hle]
      exact (failsAs_fail _).bind _
  | unfetched hgets hfetch => exact hgets.failsAs (hfetch.bind _)
  | noText hgets hfound hstored =>
      refine hgets.failsAs (FailsAs.after hfound (fetchWarnings_fetch hfound) ?_)
      exact (failsAs_of hstored).bind _
  | running hgets hfound hstored hprogram hexecute =>
      refine hgets.failsAs (FailsAs.after hfound (fetchWarnings_fetch hfound) ?_)
      refine FailsAs.after hstored rfl ?_
      exact FailsAs.after hprogram (fetchWarnings_compile hprogram) (failsAs_of hexecute)

/-- A tolerant environment fails to compile a source at a step of its own, or at an include that
fails to compile. -/
theorem stopsAt_or_included (hstrict : env.strict = false)
    (h : (env.compile context data source).result = .error e) :
    (∃ warnings, env.StopsAt data context source e warnings) ∨
      ∃ name found stored, env.GetsTo data context source name ∧
        (env.fetch name).result = .ok found ∧ sourceText found.1 = .ok stored ∧
        (env.compile (context.child name) data stored).result = .error e := by
  rw [compile, compileWithin_eq, result_bind, result_of] at h
  rcases bind_eq_error.mp h with hread | ⟨tokens, hread, h⟩
  · exact .inl ⟨[], .unread hread⟩
  obtain ⟨before, t, after, d, name, rfl, hsteps, hcontent, hfetch⟩ :=
    Compilation.exists_fetchText_of_compile hstrict h
  rcases Int.lt_or_le context.depth context.limit with hlt | hle
  · have hgets : env.GetsTo data context source name := .intro hread hsteps hcontent hlt
    rw [fetchText_eq_includeText hlt] at hfetch
    simp only [includeText, result_bind, result_emit, result_of, ok_bind] at hfetch
    rcases bind_eq_error.mp hfetch with hfetch | ⟨found, hfound, hfetch⟩
    · exact .inl ⟨_, .unfetched hgets ⟨hfetch, rfl⟩⟩
    rcases bind_eq_error.mp hfetch with hstored | ⟨stored, hstored, hfetch⟩
    · exact .inl ⟨[], .noText hgets hfound hstored⟩
    rcases bind_eq_error.mp hfetch with hcompile | ⟨program, hprogram, hexecute⟩
    · exact .inr ⟨name, found, stored, hgets, hfound, hstored, hcompile⟩
    · exact .inl ⟨[], .running hgets hfound hstored hprogram hexecute⟩
  · rw [fetchText_of_limit_le hle] at hfetch
    cases hfetch
    exact .inl ⟨[], .tooDeep hread hsteps hcontent hle⟩

theorem GetsTo.depth_lt (h : env.GetsTo data context source name) :
    context.depth < context.limit := by
  obtain ⟨-, -, -, hlt⟩ := h
  exact hlt

/-- A tolerant environment fails to compile a source at a step of a source that it comes to, and
with what that step fails with.  The induction is on the room for includes. -/
theorem exists_stopsAt_of_compile (hstrict : env.strict = false)
    (h : (env.compile context data source).result = .error e) :
    ∃ context' source' warnings, env.ComesTo data context source context' source' ∧
      env.StopsAt data context' source' e warnings := by
  generalize hroom : context.room = room
  induction room generalizing context source with
  | zero =>
      rcases stopsAt_or_included hstrict h with ⟨warnings, hstops⟩ | ⟨name, _, _, hgets, -⟩
      · exact ⟨context, source, warnings, .here, hstops⟩
      · cases (Context.room_child hgets.depth_lt name).symm.trans hroom
  | succ room ih =>
      rcases stopsAt_or_included hstrict h with
        ⟨warnings, hstops⟩ | ⟨name, found, stored, hgets, hfound, hstored, hcompile⟩
      · exact ⟨context, source, warnings, .here, hstops⟩
      · rw [Context.room_child hgets.depth_lt name, Nat.add_right_cancel_iff] at hroom
        obtain ⟨context', source', warnings, hcomes, hstops⟩ := ih hcompile hroom
        obtain ⟨hread, hsteps, hcontent, hlt⟩ := hgets
        exact ⟨context', source', warnings,
          .included hread hsteps hcontent hlt hfound hstored hcomes, hstops⟩

theorem failsAs_compile_iff (hstrict : env.strict = false) :
    (env.compile context data source).FailsAs e warnings ↔
      ∃ context' source', env.ComesTo data context source context' source' ∧
        env.StopsAt data context' source' e warnings := by
  constructor
  · intro h
    obtain ⟨context', source', warnings', hcomes, hstops⟩ :=
      exists_stopsAt_of_compile hstrict h.result
    obtain rfl := (hcomes.failsAs hstops.failsAs).fetchWarnings.symm.trans h.fetchWarnings
    exact ⟨context', source', hcomes, hstops⟩
  · rintro ⟨context', source', hcomes, hstops⟩
    exact hcomes.failsAs hstops.failsAs

/-! ## Failures of fetching -/

variable {loader : Loader}

omit [Traits] in
theorem failsAs_fetch_of_error (hloader : env.loader = some loader)
    (h : loader.fetch name >>= Value.pair = .error e) :
    (env.fetch name).FailsAs (.fetchFailed name e) [(name, e)] := by
  simp only [fetch, hloader, h]
  exact ⟨rfl, rfl⟩

omit [Traits] in
theorem failsAs_fetch_of_empty (hloader : env.loader = some loader) {text filename : Value}
    (h : loader.fetch name >>= Value.pair = .ok (text, filename)) (htext : text.holds = false) :
    (env.fetch name).FailsAs (.missing (.emptySource name)) [] := by
  simp only [fetch, hloader, h, htext]
  exact failsAs_fail _

omit [Traits] in
theorem failsAs_fetch_of_no_loader (hloader : env.loader = none) :
    (env.fetch name).FailsAs (.missing (.noLoader name)) [] := by
  simp only [fetch, hloader]
  exact failsAs_fail _

omit [Traits] in
theorem misses_fetchFailed (name : Text) (e : Error) :
    (Error.fetchFailed name e).Misses name (some e) := ⟨rfl, rfl, rfl⟩

omit [Traits] in
theorem misses_missing {reason : Missing} (h : reason.location? = some name) :
    (Error.missing reason).Misses name none := ⟨rfl, h, rfl⟩

/-- **What cannot be fetched surfaces once, and as it is.**  If compiling a source gets to an
include, however deep, what comes of it when its template cannot be fetched is what compiling the
source comes to: an error about this template, due to the loader's own error if there is one, and
not put into another.  One warning is left if the loader failed or answered no pair, and it is about
this template and that error; otherwise there is none.  What an included template raises when it is
run surfaces as it is, too. -/
theorem fetch_failure_surfaces (h : env.Reaches data context source context' name) :
    (∀ loader, env.loader = some loader →
      (∀ e, loader.fetch name >>= Value.pair = .error e →
        (env.compile context data source).FailsAs (.fetchFailed name e) [(name, e)] ∧
          (Error.fetchFailed name e).Misses name (some e)) ∧
      ∀ text filename, loader.fetch name >>= Value.pair = .ok (text, filename) →
        text.holds = false →
        (env.compile context data source).FailsAs (.missing (.emptySource name)) [] ∧
          (Error.missing (.emptySource name)).Misses name none) ∧
    (env.loader = none →
      (env.compile context data source).FailsAs (.missing (.noLoader name)) [] ∧
        (Error.missing (.noLoader name)).Misses name none) ∧
    ∀ found stored program e, (env.fetch name).result = .ok found →
      sourceText found.1 = .ok stored →
      (env.compile (context'.child name) data stored).result = .ok program →
      program.execute data env.escapers = .error e →
      (env.compile context data source).FailsAs e [] := by
  refine ⟨fun loader hloader => ⟨fun e hfetch => ?_, fun text filename hfetch htext => ?_⟩,
    fun hloader => ?_, fun found stored program e hfound hstored hprogram hexecute => ?_⟩
  · exact ⟨h.failsAs_of_fetch (failsAs_fetch_of_error hloader hfetch), misses_fetchFailed name e⟩
  · exact ⟨h.failsAs_of_fetch (failsAs_fetch_of_empty hloader hfetch htext), misses_missing rfl⟩
  · exact ⟨h.failsAs_of_fetch (failsAs_fetch_of_no_loader hloader), misses_missing rfl⟩
  · refine h.failsAs (FailsAs.after hfound (fetchWarnings_fetch hfound) ?_)
    refine FailsAs.after hstored rfl ?_
    exact FailsAs.after hprogram (fetchWarnings_compile hprogram) (failsAs_of hexecute)

end

attribute [local instance] Traits.bare

set_option maxRecDepth 20000 in
/-- A loader that fails for the template which an included one includes. -/
theorem fetch_failure_surfaces_in_include :
    let fault : Error := .raised (.other "ConnectionError") "timed out"
    let loader : Loader := .function fun name =>
      if name = "a" then .ok (.text "x<tmpl_include b>") else .error fault
    let env : Environment := .make (some loader) false false 50 .standard
    let context := env.context none
    env.Reaches .null context "<tmpl_include a>" (context.child "a") "b" ∧
      loader.fetch "b" >>= Value.pair = .error fault ∧
      (env.compile context .null "<tmpl_include a>").FailsAs (.fetchFailed "b" fault)
        [("b", fault)] := by
  intro fault loader env context
  have hmain : Token.ofSource env.readsNewlines "<tmpl_include a>" =
      .ok ([] ++ ⟨.inclusion "a", ⟨1, 0⟩, .plain⟩ :: []) := by decide +kernel +zetaReduce +revert
  have hinner : Token.ofSource env.readsNewlines "x<tmpl_include b>" =
      .ok ([⟨.text "x", ⟨1, 0⟩, .plain⟩] ++ ⟨.inclusion "b", ⟨1, 1⟩, .plain⟩ :: []) := by
    decide +kernel +zetaReduce +revert
  have hfound : (env.fetch "a").result =
      .ok (.text "x<tmpl_include b>", .text "<function>") := rfl
  have hreaches : env.Reaches .null context "<tmpl_include a>" (context.child "a") "b" :=
    ⟨"x<tmpl_include b>", .included hmain rfl rfl (by decide) hfound rfl .here,
      .intro hinner rfl rfl (by decide)⟩
  exact ⟨hreaches, rfl, ((fetch_failure_surfaces hreaches).1 loader rfl).1 fault rfl |>.1⟩

end Environment

end TagTemplate
