/-
# Fetching — what a compilation has from outside

A compilation has its tokens, and it has the texts that it fetches for its includes.
Two compilations that agree in the rest and fetch the same texts are the same
(`Agree.compile`).  So nothing depends on how much room for includes is counted, once it
is as much as there is to the limit (`compileWithin_of_le`): at the limit an include is
refused before anything is fetched.

With a table of templates, a text that is fetched comes from a template in the table that
is not empty, compiled and run (`includeText_eq_ok`).
-/
import TagTemplate.Proofs.Compile.Matching
import TagTemplate.Proofs.Include.Basic

namespace TagTemplate

/-- The name of the template that a token includes. -/
def Token.inclusion? (t : Token) : Option Text :=
  match t.content with
  | .inclusion name => some name
  | _ => none

theorem Token.inclusion?_eq_some {t : Token} {name : Text} :
    t.inclusion? = some name ↔ t.content = .inclusion name := by
  unfold inclusion?
  cases t.content <;> simp

/-! ## Compilations that fetch the same -/

namespace Compilation

/-- For these tokens, the compilations differ in nothing but how they come by the texts they
fetch. -/
structure Agree (c c' : Compilation) (ts : List Token) : Prop where
  strict : c.strict = c'.strict
  context : c.context = c'.context
  fetchText : ∀ t ∈ ts, ∀ name, t.content = .inclusion name → c.fetchText name = c'.fetchText name

variable {c c' : Compilation} {t : Token} {ts : List Token}

theorem Agree.tail (h : c.Agree c' (t :: ts)) : c.Agree c' ts :=
  ⟨h.strict, h.context, fun u hu => h.fetchText u (List.mem_cons_of_mem _ hu)⟩

theorem Agree.report (h : c.Agree c' ts) (position : Position) (issue : Issue) :
    c.report position issue = c'.report position issue := by
  rw [Compilation.report, Compilation.report, h.strict, h.context]

theorem Agree.reportAny (h : c.Agree c' ts) (position : Position) (issue? : Option Issue) :
    c.reportAny position issue? = c'.reportAny position issue? := by
  cases issue? with
  | none => rfl
  | some issue => exact h.report position issue

theorem Agree.step (h : c.Agree c' ts) (ht : t ∈ ts) (d : Draft) : c.step d t = c'.step d t := by
  rw [step_eq, step_eq, h.reportAny, apply, apply]
  cases hcontent : t.content with
  | inclusion name => simp only [h.fetchText t ht name hcontent]
  | _ => rfl

theorem Agree.steps (h : c.Agree c' ts) (d : Draft) : c.steps d ts = c'.steps d ts := by
  induction ts generalizing d with
  | nil => rfl
  | cons t ts ih => simp only [Compilation.steps, h.step List.mem_cons_self, ih h.tail]

theorem Agree.closeAll (h : c.Agree c' ts) (d : Draft) (blocks : List OpenBlock) :
    c.closeAll d blocks = c'.closeAll d blocks := by
  induction blocks generalizing d with
  | nil => rfl
  | cons block blocks ih => simp only [Compilation.closeAll, h.report, ih]

theorem Agree.compile (h : c.Agree c' ts) : c.compile ts = c'.compile ts := by
  simp only [Compilation.compile, h.steps, h.closeAll, h.context]

end Compilation

/-! ## Room for includes -/

namespace Context

variable {c : Context}

theorem room_eq_zero (h : c.limit ≤ c.depth) : c.room = 0 :=
  Int.toNat_of_nonpos (Int.sub_nonpos_of_le h)

theorem room_child (h : c.depth < c.limit) (name : Text) :
    c.room = (c.child name).room + 1 := by
  simp only [room, child]
  omega

end Context

namespace Environment

variable [Traits] {env : Environment} {room : Nat} {context : Context} {data : Value}
  {source name : Text}

theorem fetchText_of_limit_le (h : context.limit ≤ context.depth) :
    (env.compilation room context data source).fetchText name =
      .fail (.tooDeep name context.limit context.stack) := by
  show (Traced.of ((enter context source).checkDepth name) >>= _) = _
  rw [show (enter context source).checkDepth name = _ from if_pos h]
  rfl

theorem fetchText_of_depth_lt (h : context.depth < context.limit) :
    (env.compilation room context data source).fetchText name =
      Traced.emit (.including ⟨name, data, context.child name⟩) >>= fun _ =>
        env.includeText room ⟨name, data, context.child name⟩ := by
  show (Traced.of ((enter context source).checkDepth name) >>= _) = _
  rw [show (enter context source).checkDepth name = _ from if_neg (Int.not_le.mpr h)]
  rfl

/-- Environments compile a source alike that they read alike, if what it includes is the same. -/
theorem compileWithin_congr {env' : Environment} {room' : Nat} (hstrict : env.strict = env'.strict)
    (hread : Token.ofSource env.readsNewlines source = Token.ofSource env'.readsNewlines source)
    (h : ∀ tokens, Token.ofSource env.readsNewlines source = .ok tokens → ∀ t ∈ tokens, ∀ name,
      t.content = .inclusion name → (env.compilation room context data source).fetchText name =
        (env'.compilation room' context data source).fetchText name) :
    env.compileWithin room context data source = env'.compileWithin room' context data source := by
  rw [compileWithin_eq, compileWithin_eq, ← hread]
  refine Traced.bind_congr_of_ok fun tokens htokens => ?_
  have hagree : (env.compilation room context data source).Agree
      (env'.compilation room' context data source) tokens := ⟨hstrict, rfl, h tokens htokens⟩
  exact hagree.compile

/-- Two counts of room that both reach to the limit make no difference.  The induction is on the
first; an include leaves one less of both. -/
theorem compileWithin_eq_of_le {room' : Nat} (h : context.room ≤ room)
    (h' : context.room ≤ room') :
    env.compileWithin room context data source = env.compileWithin room' context data source := by
  induction room generalizing room' context data source with
  | zero =>
      refine compileWithin_congr rfl rfl fun _ _ _ _ name _ => ?_
      rcases Int.lt_or_le context.depth context.limit with hlt | hle
      · rw [Context.room_child hlt name] at h
        exact absurd h (Nat.not_succ_le_zero _)
      · rw [fetchText_of_limit_le hle, fetchText_of_limit_le hle]
  | succ room ih =>
      refine compileWithin_congr rfl rfl fun _ _ _ _ name _ => ?_
      rcases Int.lt_or_le context.depth context.limit with hlt | hle
      · rw [fetchText_of_depth_lt hlt, fetchText_of_depth_lt hlt]
        rw [Context.room_child hlt name] at h h'
        obtain ⟨room', rfl⟩ := Nat.exists_eq_succ_of_ne_zero (Nat.ne_zero_of_lt h')
        simp only [includeText, ih (Nat.le_of_succ_le_succ h) (Nat.le_of_succ_le_succ h')]
      · rw [fetchText_of_limit_le hle, fetchText_of_limit_le hle]

theorem compileWithin_of_le (h : context.room ≤ room) :
    env.compileWithin room context data source = env.compile context data source :=
  compileWithin_eq_of_le h (Nat.le_refl _)

/-! ## A table of templates -/

variable {templates : List (Text × Text)}

omit [Traits] in
theorem result_fetch_mapping (hloader : env.loader = some (.mapping templates)) {text : Text}
    (hlookup : templates.lookup name = some text) (hne : text ≠ []) :
    (env.fetch name).result = .ok (.text text, .null) := by
  obtain ⟨c, r, rfl⟩ := List.exists_cons_of_ne_nil hne
  simp only [fetch, hloader, Loader.fetch, hlookup]
  rfl

theorem result_includeText_mapping (hloader : env.loader = some (.mapping templates))
    {request : IncludeRequest} {text : Text} (hlookup : templates.lookup request.name = some text)
    (hne : text ≠ []) :
    (env.includeText (room + 1) request).result =
      (env.compileWithin room request.context request.data text).result >>= fun program =>
        program.execute request.data env.escapers := by
  simp only [includeText, Traced.result_bind, result_fetch_mapping hloader hlookup hne,
    Traced.ok_bind, sourceText, Traced.result_of]

end Environment

end TagTemplate
