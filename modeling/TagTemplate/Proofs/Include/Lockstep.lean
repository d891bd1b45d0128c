/-
# Lockstep — a strict compilation stops where a tolerant one first warns

Two runs that differ only in how they take block tags that do not fit do the same
up to the first such tag.  There the strict one fails, and whatever the tolerant
one comes to after that has no bearing on it:

    tolerant   e₁ … eₙ  warning …       any result
    strict     e₁ … eₙ                  the error that the warning is about

or else there is no warning, and the two are the same from beginning to end.  This
is kept by sequencing (`Lockstep.bind`), so it passes from one tag to a template,
and, by induction on the includes that are left, from the templates that a template
includes to the template itself.

A strict compilation that fails with a mismatch is one that a tolerant one warns of,
unless the mismatch is none of the compiler's making.  Calm data and calm escapers
raise none.
-/
import TagTemplate.Proofs.Compile.Matching
import TagTemplate.Proofs.Include.Calm

namespace TagTemplate

variable {α β : Type}

/-! ## Warnings -/

def Event.isCompilerWarning (e : Event) : Bool := e.level = .warning && e.origin = .compiler

namespace Traced

def firstWarning? (t : Traced α) : Option Event := t.events.find? Event.isCompilerWarning

/-- The compiler has nothing to warn of. -/
def Quiet (t : Traced α) : Prop := ∀ e ∈ t.events, e.isCompilerWarning = false

variable {t u : Traced α} {f g : α → Traced β} {a : α}

theorem quiet_of (r : Except Error α) : (of r).Quiet := each_of r

theorem quiet_pure (a : α) : (pure a : Traced α).Quiet := each_pure a

theorem quiet_fail (e : Error) : (fail e : Traced α).Quiet := each_fail e

theorem quiet_emit {event : Event} (h : event.isCompilerWarning = false) : (emit event).Quiet :=
  each_emit h

theorem Quiet.bind (ht : t.Quiet) (hf : ∀ a, (f a).Quiet) : (t >>= f).Quiet :=
  Each.bind ht fun a _ => hf a

/-! ## Lockstep -/

/-- The first run is the second one, as far as the first warning of that: there it fails with
the error that the warning is about. -/
inductive Lockstep (strict tolerant : Traced α) : Prop
  | same : tolerant.Quiet → strict = tolerant → Lockstep strict tolerant
  | stopped {before after : List Event} {template : Option Text} {line : Int} {issue : Issue}
      {r : SyntaxReport} :
      (∀ e ∈ before, e.isCompilerWarning = false) →
      tolerant.events = before ++ .tolerated template line issue :: after →
      strict = ⟨before, .error (.mismatched r)⟩ →
      r.detail = issue.detail → r.line = some line → r.name = template → Lockstep strict tolerant

theorem Lockstep.of_warning {e : Event} (h : t.Lockstep u) (hw : u.firstWarning? = some e) :
    ∃ (template : Option Text) (line : Int) (issue : Issue) (r : SyntaxReport),
      e = .tolerated template line issue ∧ t.result = .error (.mismatched r) ∧
        r.detail = issue.detail ∧ r.line = some line ∧ r.name = template := by
  cases h with
  | same hu =>
      have hnone : u.firstWarning? = none :=
        List.find?_eq_none.mpr fun e he => by rw [hu e he]; exact Bool.false_ne_true
      rw [hnone] at hw
      cases hw
  | @stopped before after template line issue r hbefore hu ht hdetail hline hname =>
      have hnone : before.find? Event.isCompilerWarning = none :=
        List.find?_eq_none.mpr fun e he => by rw [hbefore e he]; exact Bool.false_ne_true
      have hfirst : u.firstWarning? = some (.tolerated template line issue) := by
        rw [firstWarning?, hu, List.find?_append, hnone, List.find?_cons_of_pos rfl]
        rfl
      rw [hfirst] at hw
      cases hw
      exact ⟨template, line, issue, r, rfl, by rw [ht], hdetail, hline, hname⟩

theorem Lockstep.eq_of_firstWarning (h : t.Lockstep u) (hw : u.firstWarning? = none) : t = u := by
  cases h with
  | same _ ht => exact ht
  | stopped _ hu _ =>
      have hnone := List.find?_eq_none.mp hw
      rw [hu] at hnone
      exact absurd rfl (hnone _ (List.mem_append_right _ List.mem_cons_self))

theorem Lockstep.refl (h : t.Quiet) : t.Lockstep t := .same h rfl

theorem Lockstep.bind (h : t.Lockstep u) (hf : ∀ a, (f a).Lockstep (g a)) :
    (t >>= f).Lockstep (u >>= g) := by
  cases h with
  | stopped hbefore hu ht hdetail hline hname =>
      subst ht
      -- what the tolerant run does after the warning comes after it
      obtain ⟨more, hmore⟩ : ∃ more, (u >>= g).events = u.events ++ more := by
        cases h : u.result with
        | error e => exact ⟨[], by rw [events_bind_of_error g h, List.append_nil]⟩
        | ok a => exact ⟨_, events_bind_of_ok g h⟩
      rw [hu, List.append_assoc, List.cons_append] at hmore
      exact .stopped hbefore hmore rfl hdetail hline hname
  | same hu ht =>
      subst ht
      obtain ⟨events, result⟩ := t
      cases result with
      | error e => exact .same hu rfl
      | ok a =>
          have hevents : ∀ h : α → Traced β,
              (⟨events, .ok a⟩ >>= h : Traced β) = ⟨events ++ (h a).events, (h a).result⟩ :=
            fun _ => rfl
          rw [hevents f, hevents g]
          cases hf a with
          | same hg hfg =>
              rw [hfg]
              exact .same (fun e he => (List.mem_append.mp he).elim (hu e) (hg e)) rfl
          | stopped hbefore hg hfa hdetail hline hname =>
              rw [hfa]
              have hafter := congrArg (events ++ ·) hg
              rw [← List.append_assoc] at hafter
              exact .stopped (fun e he => (List.mem_append.mp he).elim (hu e) (hbefore e)) hafter
                rfl hdetail hline hname

end Traced

/-! ## One template -/

namespace Compilation

/-- Two compilations that differ in nothing but how they take tags that do not fit. -/
structure Paired (strict tolerant : Compilation) : Prop where
  isStrict : strict.strict = true
  isTolerant : tolerant.strict = false
  context : strict.context = tolerant.context
  fetchText : ∀ name, (strict.fetchText name).Lockstep (tolerant.fetchText name)

variable {c c' : Compilation}

theorem Paired.report (h : c.Paired c') (place : Position) (issue : Issue) :
    (c.report place issue).Lockstep (c'.report place issue) := by
  rw [Compilation.report, if_pos h.isStrict, Compilation.report, h.isTolerant, h.context]
  exact .stopped (fun e (he : e ∈ []) => by cases he) rfl rfl rfl rfl rfl

theorem Paired.reportAny (h : c.Paired c') (place : Position) (issue : Option Issue) :
    (c.reportAny place issue).Lockstep (c'.reportAny place issue) := by
  cases issue with
  | none => exact .refl (Traced.quiet_pure ())
  | some issue => exact h.report place issue

theorem Paired.apply (h : c.Paired c') (d : Draft) (t : Token) :
    (c.apply d t).Lockstep (c'.apply d t) := by
  unfold Compilation.apply
  cases t.content with
  | inclusion name => exact (h.fetchText name).bind fun text => .refl (Traced.quiet_pure _)
  | _ => exact .refl (Traced.quiet_pure _)

theorem Paired.step (h : c.Paired c') (d : Draft) (t : Token) :
    (c.step d t).Lockstep (c'.step d t) := by
  rw [step_eq, step_eq]
  exact (h.reportAny t.position _).bind fun _ => h.apply d t

theorem Paired.steps (h : c.Paired c') (d : Draft) (ts : List Token) :
    (c.steps d ts).Lockstep (c'.steps d ts) := by
  induction ts generalizing d with
  | nil => exact .refl (Traced.quiet_pure d)
  | cons t ts ih => exact (h.step d t).bind ih

theorem Paired.closeAll (h : c.Paired c') (d : Draft) (blocks : List OpenBlock) :
    (c.closeAll d blocks).Lockstep (c'.closeAll d blocks) := by
  induction blocks generalizing d with
  | nil => exact .refl (Traced.quiet_pure d)
  | cons block blocks ih =>
      exact (h.report block.position (.unclosed block.kind)).bind fun _ => ih _

theorem Paired.compile (h : c.Paired c') (tokens : List Token) :
    (c.compile tokens).Lockstep (c'.compile tokens) := by
  unfold Compilation.compile
  rw [h.context]
  refine (h.steps .empty tokens).bind fun d => (h.closeAll d d.blocks).bind fun d => ?_
  exact .refl ((Traced.quiet_emit rfl).bind fun _ => Traced.quiet_pure _)

theorem lockstep_fetchText {f g : IncludeRequest → Traced Text} (hf : c.includeText = some f)
    (hg : c'.includeText = some g) (hcontext : c.context = c'.context) (hdata : c.data = c'.data)
    (h : ∀ request, (f request).Lockstep (g request)) (name : Text) :
    (c.fetchText name).Lockstep (c'.fetchText name) := by
  unfold fetchText
  rw [hf, hg, hcontext, hdata]
  refine (Traced.Lockstep.refl (Traced.quiet_of _)).bind fun _ => ?_
  exact (Traced.Lockstep.refl (Traced.quiet_emit rfl)).bind fun _ => h _

end Compilation

/-! ## Templates that include templates -/

namespace Environment

theorem quiet_fetch (env : Environment) (location : Text) : (env.fetch location).Quiet := by
  unfold fetch
  split
  · exact Traced.quiet_fail _
  · split
    · exact (Traced.quiet_emit rfl).bind fun _ => Traced.quiet_fail _
    · split
      · exact Traced.quiet_fail _
      · exact (Traced.quiet_emit rfl).bind fun _ => Traced.quiet_pure _

def strictly (env : Environment) : Environment := { env with strict := true }

def tolerantly (env : Environment) : Environment := { env with strict := false }

section

variable [Traits] {env : Environment} {room : Nat} {context : Context} {data : Value}
  {source : Text}

theorem lockstep_of_includeText (h : ∀ request,
      (env.strictly.includeText room request).Lockstep (env.tolerantly.includeText room request)) :
    (env.strictly.compileWithin room context data source).Lockstep
      (env.tolerantly.compileWithin room context data source) := by
  rw [compileWithin_eq, compileWithin_eq]
  refine (Traced.Lockstep.refl (Traced.quiet_of _)).bind fun tokens => ?_
  refine Compilation.Paired.compile ?_ tokens
  exact ⟨rfl, rfl, rfl, Compilation.lockstep_fetchText rfl rfl rfl rfl h⟩

theorem lockstep_includeText (env : Environment) (room : Nat) (request : IncludeRequest) :
    (env.strictly.includeText room request).Lockstep (env.tolerantly.includeText room request) := by
  induction room generalizing request with
  | zero => exact .refl (Traced.quiet_fail _)
  | succ room ih =>
      refine (Traced.Lockstep.refl (quiet_fetch env request.name)).bind fun found => ?_
      refine (Traced.Lockstep.refl (Traced.quiet_of _)).bind fun source => ?_
      exact (lockstep_of_includeText ih).bind fun program => .refl (Traced.quiet_of _)

/-- A source is compiled in lockstep, through all its includes. -/
theorem lockstep_compile (env : Environment) (context : Context) (data : Value) (source : Text) :
    (env.strictly.compile context data source).Lockstep
      (env.tolerantly.compile context data source) :=
  lockstep_of_includeText (lockstep_includeText env context.room)

/-- **A strict compilation fails with a mismatch where a tolerant one first warns.**  With a
warning, the mismatch has its detail, line and template; without one, the two compilations are the
same, and can only fail with a mismatch that data or escapers raise. -/
theorem compile_strictly_iff_warns (env : Environment) (context : Context) (data : Value)
    (source : Text) :
    let strict := env.strictly.compile context data source
    let tolerant := env.tolerantly.compile context data source
    (∀ e, tolerant.firstWarning? = some e →
      ∃ (template : Option Text) (line : Int) (issue : Issue) (r : SyntaxReport),
        e = .tolerated template line issue ∧ strict.result = .error (.mismatched r) ∧
          r.detail = issue.detail ∧ r.line = some line ∧ r.name = template) ∧
    (tolerant.firstWarning? = none → strict = tolerant) ∧
    ((∃ r, strict.result = .error (.mismatched r)) ↔
      tolerant.firstWarning?.isSome ∨ ∃ r, tolerant.result = .error (.mismatched r)) ∧
    (data.Calm → env.escapers.Calm →
      ((∃ r, strict.result = .error (.mismatched r)) ↔ tolerant.firstWarning?.isSome)) := by
  intro strict tolerant
  have h : strict.Lockstep tolerant := lockstep_compile env context data source
  have hiff : (∃ r, strict.result = .error (.mismatched r)) ↔
      tolerant.firstWarning?.isSome ∨ ∃ r, tolerant.result = .error (.mismatched r) := by
    cases hw : tolerant.firstWarning? with
    | none => rw [h.eq_of_firstWarning hw]; simp
    | some e =>
        obtain ⟨_, _, _, r, -, hr, -⟩ := h.of_warning hw
        exact ⟨fun _ => .inl rfl, fun _ => ⟨r, hr⟩⟩
  refine ⟨fun e => h.of_warning, h.eq_of_firstWarning, hiff, fun hd he => hiff.trans ?_⟩
  refine or_iff_left ?_
  rintro ⟨r, hr⟩
  have he : env.tolerantly.escapers.Calm := he
  cases calm_compile rfl he hd context source _ hr

end

attribute [local instance] Traits.bare

set_option maxRecDepth 20000 in
/-- A stray closing tag in a template that is included. -/
theorem mismatch_in_include :
    let templates : List (Text × Text) := [("t", "</tmpl_if>")]
    let env : Environment := .make (some (.mapping templates)) true false 50 .standard
    let strict := env.strictly.compile (env.context none) .null "<tmpl_include t>"
    let tolerant := env.tolerantly.compile (env.context none) .null "<tmpl_include t>"
    let r : SyntaxReport := ⟨"</tmpl_if> without an open block", some 1, some "t",
      some "</tmpl_if>", some 0, .unexpectedClose⟩
    strict.result = .error (.mismatched r) ∧
      ∃ issue, tolerant.firstWarning? = some (.tolerated (some "t") 1 issue) ∧
        r.detail = issue.detail := by
  intro templates env strict tolerant r
  have hstrict : strict.result = .error (.mismatched r) := by decide +kernel +zetaReduce +revert
  obtain ⟨hfirst, -, -, hcalm⟩ :=
    compile_strictly_iff_warns env (env.context none) .null "<tmpl_include t>"
  have hsome := (hcalm Value.calm_null EscapeTable.calm_standard).mp ⟨r, hstrict⟩
  obtain ⟨e, hwarning⟩ := Option.isSome_iff_exists.mp hsome
  obtain ⟨template, line, issue, r', rfl, hr, hdetail, hline, hname⟩ := hfirst e hwarning
  obtain rfl : r = r' := by
    have heq := hstrict.symm.trans hr
    cases heq
    rfl
  cases hline
  cases hname
  exact ⟨hstrict, issue, hwarning, hdetail⟩

end Environment

end TagTemplate
