/-
# Room — what compiles with little room compiles with more

An include takes room, so a source that is compiled deep in a chain of includes can fail
where it would compile at the top.  The other way round nothing is lost:

    what is fetched with less room      is fetched with more, and is the same text
    what compiles with less room        compiles with more, to the same operations

The one statement is the other, one include further down (`below_of_room_le`).  Of the
context only its room matters here; names and sources show in messages alone.
-/
import TagTemplate.Proofs.Include.Calm
import TagTemplate.Proofs.Include.Fetch

namespace TagTemplate

namespace Compilation

/-- The compilations are equally strict, and what the first one fetches the other fetches too. -/
structure Below (c c' : Compilation) : Prop where
  strict : c.strict = c'.strict
  fetchText : ∀ name text, (c.fetchText name).result = .ok text →
    (c'.fetchText name).result = .ok text

variable {c c' : Compilation} {d d' : Draft}

theorem Below.report (h : c.Below c') {position : Position} {issue : Issue}
    (hr : (c.report position issue).result = .ok ()) :
    (c'.report position issue).result = .ok () := by
  unfold Compilation.report at hr ⊢
  rw [← h.strict]
  split at hr
  · cases hr
  · next hs => rw [if_neg hs]; rfl

theorem Below.reportAny (h : c.Below c') {position : Position} {issue? : Option Issue}
    (hr : (c.reportAny position issue?).result = .ok ()) :
    (c'.reportAny position issue?).result = .ok () := by
  cases issue? with
  | none => rfl
  | some issue => exact h.report hr

theorem Below.apply (h : c.Below c') {t : Token} (ha : (c.apply d t).result = .ok d') :
    (c'.apply d t).result = .ok d' := by
  unfold Compilation.apply at ha ⊢
  cases hc : t.content with
  | inclusion name =>
      simp only [hc] at ha ⊢
      obtain ⟨text, htext, ha⟩ := Traced.result_bind_eq_ok.mp ha
      exact Traced.result_bind_eq_ok.mpr ⟨text, h.fetchText name text htext, ha⟩
  | _ =>
      simp only [hc] at ha ⊢
      exact ha

theorem Below.step (h : c.Below c') {t : Token} (hs : (c.step d t).result = .ok d') :
    (c'.step d t).result = .ok d' := by
  rw [step_eq] at hs ⊢
  obtain ⟨⟨⟩, hr, ha⟩ := Traced.result_bind_eq_ok.mp hs
  exact Traced.result_bind_eq_ok.mpr ⟨(), h.reportAny hr, h.apply ha⟩

theorem Below.steps (h : c.Below c') {ts : List Token} (hs : (c.steps d ts).result = .ok d') :
    (c'.steps d ts).result = .ok d' := by
  induction ts generalizing d with
  | nil => exact hs
  | cons t ts ih =>
      obtain ⟨d₁, h₁, hs⟩ := Traced.result_bind_eq_ok.mp hs
      exact Traced.result_bind_eq_ok.mpr ⟨d₁, h.step h₁, ih hs⟩

theorem Below.closeAll (h : c.Below c') {blocks : List OpenBlock}
    (hs : (c.closeAll d blocks).result = .ok d') : (c'.closeAll d blocks).result = .ok d' := by
  induction blocks generalizing d with
  | nil => exact hs
  | cons block blocks ih =>
      obtain ⟨⟨⟩, hr, hs⟩ := Traced.result_bind_eq_ok.mp hs
      exact Traced.result_bind_eq_ok.mpr ⟨(), h.report hr, ih hs⟩

theorem Below.exists_compile (h : c.Below c') {ts : List Token} {p : Program}
    (hp : (c.compile ts).result = .ok p) :
    ∃ p', (c'.compile ts).result = .ok p' ∧ p'.ops = p.ops := by
  rw [result_compile] at hp
  obtain ⟨d₁, h₁, hp⟩ := Traced.bind_eq_ok.mp hp
  obtain ⟨d₂, h₂, hp⟩ := Traced.bind_eq_ok.mp hp
  cases hp
  refine ⟨⟨d₂.ops, c'.context.name⟩, ?_, rfl⟩
  rw [result_compile, h.steps h₁, Traced.ok_bind, h.closeAll h₂, Traced.ok_bind]

/-- A compilation that goes through its tokens has fetched all they include. -/
theorem exists_fetchText_of_steps {ts : List Token} (hs : (c.steps d ts).result = .ok d')
    {t : Token} (ht : t ∈ ts) {name : Text} (hname : t.content = .inclusion name) :
    ∃ text, (c.fetchText name).result = .ok text := by
  induction ts generalizing d with
  | nil => cases ht
  | cons u ts ih =>
      obtain ⟨d₁, h₁, hs⟩ := Traced.result_bind_eq_ok.mp hs
      rcases List.mem_cons.mp ht with rfl | ht
      · simp only [step, hname] at h₁
        obtain ⟨text, htext, -⟩ := Traced.result_bind_eq_ok.mp h₁
        exact ⟨text, htext⟩
      · exact ih hs ht

end Compilation

namespace Environment

variable [Traits] {env : Environment} {context context' : Context} {data : Value}
  {source source' name text : Text}

theorem result_fetchText_eq_ok :
    ((env.compilation context.room context data source).fetchText name).result = .ok text ↔
      context.depth < context.limit ∧ ∃ found stored program,
        (env.fetch name).result = .ok found ∧ sourceText found.1 = .ok stored ∧
          (env.compile (context.child name) data stored).result = .ok program ∧
            program.execute data env.escapers = .ok text := by
  rcases Int.lt_or_le context.depth context.limit with hlt | hle
  · rw [fetchText_of_depth_lt hlt, Context.room_child hlt name]
    simp only [includeText, Traced.result_bind, Traced.result_emit, Traced.result_of,
      Traced.ok_bind, Traced.bind_eq_ok, hlt, true_and]
    constructor
    · rintro ⟨found, hfound, stored, hstored, program, hprogram, htext⟩
      exact ⟨found, stored, program, hfound, hstored, hprogram, htext⟩
    · rintro ⟨found, stored, program, hfound, hstored, hprogram, htext⟩
      exact ⟨found, hfound, stored, hstored, program, hprogram, htext⟩
  · rw [fetchText_of_limit_le hle]
    constructor
    · intro h
      cases h
    · rintro ⟨hlt, -⟩
      exact absurd hlt (Int.not_lt.mpr hle)

theorem exists_compile_of_below
    (h : (env.compilation context.room context data source).Below
      (env.compilation context'.room context' data source)) {p : Program}
    (hp : (env.compile context data source).result = .ok p) :
    ∃ p', (env.compile context' data source).result = .ok p' ∧ p'.ops = p.ops := by
  rw [compile, compileWithin_eq, Traced.result_bind, Traced.result_of] at hp ⊢
  obtain ⟨tokens, htokens, hp⟩ := Traced.bind_eq_ok.mp hp
  obtain ⟨p', hp', hops⟩ := h.exists_compile hp
  exact ⟨p', Traced.bind_eq_ok.mpr ⟨tokens, htokens, hp'⟩, hops⟩

/-- With more room no less is fetched.  The induction is on the smaller room: what is fetched was
compiled with less of it. -/
theorem below_of_room_le (h : context.room ≤ context'.room) :
    (env.compilation context.room context data source).Below
      (env.compilation context'.room context' data source') := by
  generalize hroom : context.room = room at h
  induction room generalizing context context' source source' with
  | zero =>
      refine ⟨rfl, fun name text hfetch => ?_⟩
      obtain ⟨hlt, -⟩ := result_fetchText_eq_ok.mp (hroom ▸ hfetch)
      rw [Context.room_child hlt name] at hroom
      cases hroom
  | succ room ih =>
      refine ⟨rfl, fun name text hfetch => ?_⟩
      obtain ⟨hlt, found, stored, program, hfound, hstored, hprogram, htext⟩ :=
        result_fetchText_eq_ok.mp (hroom ▸ hfetch)
      have hlt' : context'.depth < context'.limit :=
        Int.not_le.mp fun hle => by rw [Context.room_eq_zero hle] at h; cases h
      rw [Context.room_child hlt name, Nat.add_right_cancel_iff] at hroom
      rw [Context.room_child hlt' name, Nat.add_le_add_iff_right] at h
      obtain ⟨program', hprogram', hops⟩ := exists_compile_of_below (hroom ▸ ih hroom h) hprogram
      obtain ⟨body, hbody⟩ := exists_body_of_compileWithin hprogram
      refine result_fetchText_eq_ok.mpr
        ⟨hlt', found, stored, program', hfound, hstored, hprogram', ?_⟩
      rw [Program.execute_eq_meaning (hops ▸ hbody), ← Program.execute_eq_meaning hbody, htext]

end Environment

end TagTemplate
