/-
# Exchange — the dual of one conditional in a tree

The dual of an if block with an else is the unless block with the branches the other way round.
In the tree of a template such a block may stand in other blocks and loops; a second tree that has
the dual in its place (`Body.Exchanged`) is laid out with other indices from there on.

    if a … else b        opener at index k, its name means ref there
    unless b … else a    the same place in the second tree

The guards of the two are evaluated in the states in which the machine comes to `k`.  If `ref`
leads to nothing then but values for which one guard is the negation of the other (`Meets`), the
trees mean the same for the data.  They need not do so for other data, or for other items of the
loops around: the induction over the trees goes along the run of the first.
-/
import TagTemplate.Proofs.Layout.Congruence
import TagTemplate.Proofs.Meaning.Correct
import TagTemplate.Proofs.Value.Guards

namespace TagTemplate

namespace Body

section
variable (k : Nat) (ref : Ref)

/-- The bodies differ at most in the block that opens at `k`, which the second has the dual of. -/
inductive Exchanged : (start : Nat) → Scope → Body → Body → Prop
  | same {start : Nat} {scope : Scope} (b : Body) : Exchanged start scope b b
  | dual {start : Nat} {scope : Scope} {before a b : Body} {name : Text}
      {place turn close place' turn' close' : Position} :
      start + before.size = k → scope.resolve name = ref →
      Exchanged start scope (.choice before place false name a turn b close)
        (.choice before place' true name b turn' a close')
  | text {start : Nat} {scope : Scope} {before before' : Body} {place : Position} {value : Text} :
      Exchanged start scope before before' →
      Exchanged start scope (.text before place value) (.text before' place value)
  | output {start : Nat} {scope : Scope} {before before' : Body} {place : Position} {name : Text}
      {escape : EscapeMode} :
      Exchanged start scope before before' →
      Exchanged start scope (.output before place name escape) (.output before' place name escape)
  | branch {start : Nat} {scope : Scope} {before before' b b' : Body} {place close : Position}
      {negated : Bool} {name : Text} :
      Exchanged start scope before before' → Exchanged (start + before.size + 1) scope b b' →
      Exchanged start scope (.branch before place negated name b close)
        (.branch before' place negated name b' close)
  | choice {start : Nat} {scope : Scope} {before before' a a' b b' : Body}
      {place turn close : Position} {negated : Bool} {name : Text} :
      Exchanged start scope before before' → Exchanged (start + before.size + 1) scope a a' →
      Exchanged (start + before.size + 1 + a.size + 1) scope b b' →
      Exchanged start scope (.choice before place negated name a turn b close)
        (.choice before' place negated name a' turn b' close)
  | loop {start : Nat} {scope : Scope} {before before' b b' : Body} {place close : Position}
      {name : Text} :
      Exchanged start scope before before' →
      Exchanged (start + before.size + 1) (scope.push name) b b' →
      Exchanged start scope (.loop before place name b close) (.loop before' place name b' close)

end

variable {k start : Nat} {ref : Ref} {scope : Scope} {b b' : Body}

theorem Exchanged.append (h : Exchanged k ref start scope b b') (place : Position) (value : Text) :
    Exchanged k ref start scope (b.append place value) (b'.append place value) := by
  unfold Body.append
  by_cases hv : value.isEmpty
  · simpa only [hv, if_true] using h
  · simp only [hv]
    cases h with
    | same => exact .same _
    | text hbefore => exact .text hbefore
    | dual hk href => exact .text (.dual hk href)
    | output hbefore => exact .text (.output hbefore)
    | branch hbefore hb => exact .text (.branch hbefore hb)
    | choice hbefore ha hb => exact .text (.choice hbefore ha hb)
    | loop hbefore hb => exact .text (.loop hbefore hb)

end Body

/-! ## Exchanging is a congruence -/

namespace Outline

variable {k : Nat} {ref : Ref} {ps : List Pending} {before body b b' : Body}
  {place turn : Position} {kind : BlockKind} {negated : Bool} {name : Text}

/-- The bodies are exchanged where they stand. -/
def ExchangedIn (k : Nat) (ref : Ref) (ps : List Pending) (b b' : Body) : Prop :=
  b.Exchanged k ref (opsOf ps).length (scopeIn ps) b'

theorem length_opsOf_first :
    (opsOf (.first before place kind name :: ps)).length =
      (opsOf ps).length + before.size + 1 := by
  simp [opsOf, Pending.ops, Nat.add_assoc]

theorem length_opsOf_second :
    (opsOf (.second before place negated name body turn :: ps)).length =
      (opsOf ps).length + before.size + 1 + body.size + 1 := by
  simp [opsOf, Pending.ops, Nat.add_assoc]
  omega

theorem congruence_exchanged (k : Nat) (ref : Ref) : Congruence (ExchangedIn k ref) where
  refl _ b := .same b
  append place value h := h.append place value
  output _ _ _ h := .output h
  first {_ _ _ _ _ _ kind _} _ hbefore hb := by
    unfold ExchangedIn at hb
    rw [length_opsOf_first] at hb
    cases kind with
    | ifBlock | unlessBlock => exact .branch hbefore hb
    | loopBlock => exact .loop hbefore hb
  second _ hbefore hbody hb := by
    unfold ExchangedIn at hbody hb
    rw [length_opsOf_first] at hbody
    rw [length_opsOf_second] at hb
    exact .choice hbefore
      (by simpa [scopeIn, Pending.scope, BlockKind.guarded_ne_loopBlock] using hbody) hb

end Outline

/-! ## What exchanged bodies mean -/

variable [Traits]

theorem Value.guards_eq (item : Value) (negated : Bool) (name : Text) :
    item.guards negated name = item.lookupPath (splitPath name) >>= guard negated := rfl

namespace Machine.Setup

open Program

/-- The value is what the reference leads to in a run, when the operation at `k` is the next. -/
def Meets (m : Setup) (k : Nat) (ref : Ref) (v : Value) : Prop :=
  ∃ s, m.Reachable s ∧ s.pc = k ∧ m.resolve s ref = .ok v

variable {m : Setup} {s : State} {start n : Nat} {scope : Scope} {item : Value} {name : Text}

/-- Two outcomes are the same after a body if they are in the states that its code leads to. -/
theorem append_congr {before before' : Body} {x y : Outcome}
    (hp : m.program.HasCode start (before.code start scope)) (hs : Numbered scope.frames)
    (hr : m.Reachable s) (hpc : s.pc = start) (hb : m.base s scope.depth = .ok item)
    (hbefore : before.meaning m.escapers item = before'.meaning m.escapers item)
    (h : ∀ s', m.Reachable s' → s'.pc = (start + before.size : Nat) →
      m.base s' scope.depth = .ok item → x = y) :
    (before.meaning m.escapers item).append x = (before'.meaning m.escapers item).append y := by
  rw [← hbefore]
  have hreaches := Machine.Setup.reaches_code before hp hs hpc hb (Nat.le_refl _)
  cases hmeaning : before.meaning m.escapers item with
  | error e => rfl
  | ok t =>
      rw [hmeaning] at hreaches
      obtain ⟨k, s', -, hruns, hpc', -, ha⟩ := hreaches
      rw [h s' (hr.runs hruns) hpc' ((base_of_agree ha).trans hb)]

theorem guarded_congr {negated : Bool} {opener : Nat} {elseIndex : Option Int} {endIndex : Int}
    {place : Position} {yes yes' no no' : Outcome}
    (ho : m.program.ops[opener]? =
      some ⟨place, .branch negated (scope.resolve name) elseIndex endIndex⟩)
    (hs : Numbered scope.frames) (hr : m.Reachable s) (hpc : s.pc = opener)
    (hb : m.base s scope.depth = .ok item)
    (hyes : ∀ s', m.Reachable s' → s'.pc = (opener + 1 : Nat) →
      m.base s' scope.depth = .ok item → yes = yes')
    (hno : ∀ s', m.Reachable s' → s'.pc = elseIndex.getD endIndex + 1 →
      m.base s' scope.depth = .ok item → no = no') :
    (item.guards negated name >>= fun passes => if passes then yes else no) =
      item.guards negated name >>= fun passes => if passes then yes' else no' := by
  have hperform := perform_branch_eq hs hb negated name elseIndex endIndex
  cases hg : item.guards negated name with
  | error e => rfl
  | ok passes =>
      rw [hg] at hperform
      have hnext := hr.runs (.one (step_of_ok ho hpc hperform))
      cases passes with
      | true => exact hyes _ hnext (by simp [hpc]) hb
      | false => exact hno _ hnext rfl hb

section
variable {items : Sequence} {f f' : Value → Outcome} {i opener finish : Nat} {v : Value}
  {vs : List Value} {ref : Ref} {place place' : Position}

/-- The rounds of a loop have the same outcome if the body has for each item it is run for.  The
induction is on the items left after the current one. -/
theorem items_congr {depth : Nat}
    (ho : m.program.ops[opener]? = some ⟨place, .loop ref (depth + 1 : Nat) finish⟩)
    (hf : m.program.ops[finish]? = some ⟨place', .finish BlockKind.loopBlock.word opener⟩)
    (hbody : ∀ (s : State) (v : Value), m.Reachable s → s.pc = (opener + 1 : Nat) →
      m.base s (depth + 1 : Nat) = .ok v →
      f v = f' v ∧ ∃ n, m.Reaches n (depth + 1) s finish (f v))
    (hv : items.values.drop i = v :: vs) (hr : m.Reachable s) (hpc : s.pc = (opener + 1 : Nat))
    (hl : s.loop? (depth + 1 : Nat) = some ⟨items, i⟩) :
    (f v).append (items.size >>= fun _ => Sequence.each f vs) =
      (f' v).append (items.size >>= fun _ => Sequence.each f' vs) := by
  induction vs generalizing s i v with
  | nil =>
      obtain ⟨hvi, -⟩ := getElem?_of_drop hv
      rw [(hbody s v hr hpc (base_of_loop (by omega) hl hvi)).1]
      rfl
  | cons w ws ih =>
      obtain ⟨hvi, hrest⟩ := getElem?_of_drop hv
      obtain ⟨heq, n, hreaches⟩ := hbody s v hr hpc (base_of_loop (by omega) hl hvi)
      rw [← heq]
      cases hitem : f v with
      | error e => rfl
      | ok t =>
          rw [hitem] at hreaches
          obtain ⟨k, s₁, -, hruns, hpc₁, -, ha⟩ := hreaches
          have hl₁ : s₁.loop? (depth + 1 : Nat) = some ⟨items, i⟩ := by rw [ha _ (by omega), hl]
          have hend : m.perform s₁ (.finish BlockKind.loopBlock.word opener) = _ :=
            endLoop_eq ho hl₁
          cases hsize : items.size with
          | error e => rfl
          | ok k =>
              have hlt : i + 1 < k := by
                have hlength := congrArg List.length hrest
                rw [List.length_drop, List.length_cons, items.length_values,
                  Sequence.length_of_size hsize] at hlength
                omega
              rw [hsize, Traced.ok_bind, if_pos hlt] at hend
              have hnext := (hr.runs hruns).runs (.one (step_of_ok hf hpc₁ hend))
              have hround := ih hrest hnext (by simp) (State.loop?_enter _ _ _)
              rw [hsize] at hround
              exact congrArg (Outcome.append _) hround

theorem loop_congr
    (ho : m.program.ops[opener]? =
      some ⟨place, .loop (scope.resolve name) (scope.frameFor name).slot finish⟩)
    (hf : m.program.ops[finish]? = some ⟨place', .finish BlockKind.loopBlock.word opener⟩)
    (hs : Numbered scope.frames) (hr : m.Reachable s) (hpc : s.pc = opener)
    (hb : m.base s scope.depth = .ok item)
    (hbody : ∀ (s : State) (v : Value), m.Reachable s → s.pc = (opener + 1 : Nat) →
      m.base s (scope.depth + 1 : Nat) = .ok v →
      f v = f' v ∧ ∃ n, m.Reaches n (scope.depth + 1) s finish (f v)) :
    (item.sequenceAt name >>= fun items => items.concatCounted f) =
      item.sequenceAt name >>= fun items => items.concatCounted f' := by
  have hslot : (scope.frameFor name).slot = (scope.depth + 1 : Nat) := rfl
  rw [hslot] at ho
  have hstart : m.perform s (.loop (scope.resolve name) (scope.depth + 1 : Nat) finish) = _ :=
    startLoop_eq hs hb name _ _
  cases hseq : item.sequenceAt name with
  | error e => rfl
  | ok items =>
      rw [hseq, Traced.ok_bind, ← items.length_values] at hstart
      rw [Traced.ok_bind, Traced.ok_bind, Sequence.concatCounted, Sequence.concatCounted]
      cases hvalues : items.values with
      | nil => rfl
      | cons v vs =>
          rw [hvalues, if_neg (by simp)] at hstart
          have hnext := hr.runs (.one (step_of_ok ho hpc hstart))
          exact items_congr ho hf hbody (i := 0) hvalues hnext (by simp [hpc])
            (State.loop?_enter _ _ _)

end

/-- A conditional and its dual have the same outcome, if one guard is the negation of the other for
what the name leads to. -/
theorem dual_congr {yes no : Outcome}
    (h : ∀ v, item.lookupPath (splitPath name) = .ok v →
      ¬ v.IsEmptySequence ∧ ¬ v.IsUncountable) :
    (item.guards false name >>= fun passes => if passes then yes else no) =
      item.guards true name >>= fun passes => if passes then no else yes := by
  rw [Value.guards_eq, Value.guards_eq]
  cases hv : item.lookupPath (splitPath name) with
  | error e => rfl
  | ok v =>
      obtain ⟨hempty, hmany⟩ := h v hv
      rw [Traced.ok_bind, Traced.ok_bind, Value.guard_unless_eq_not hempty hmany]
      cases v.guard false with
      | error e => rfl
      | ok passes => cases passes <;> rfl

end Machine.Setup

namespace Body.Exchanged

open Machine Machine.Setup Program

variable {m : Setup} {k start : Nat} {ref : Ref} {scope : Scope} {b b' : Body} {s : State}
  {item : Value}

theorem meaning_eq (h : Exchanged k ref start scope b b')
    (hmeets : ∀ v, m.Meets k ref v → ¬ v.IsEmptySequence ∧ ¬ v.IsUncountable)
    (hp : m.program.HasCode start (b.code start scope)) (hs : Numbered scope.frames)
    (hr : m.Reachable s) (hpc : s.pc = start) (hb : m.base s scope.depth = .ok item) :
    b.meaning m.escapers item = b'.meaning m.escapers item := by
  induction h generalizing s item with
  | same => rfl
  | @dual start scope before a b name _ _ _ _ _ _ hk href =>
      obtain ⟨hbefore, -⟩ := Body.code_choice hp
      refine append_congr hbefore hs hr hpc hb rfl fun s₁ hr₁ hpc₁ hb₁ => dual_congr fun v hv => ?_
      refine hmeets v ⟨s₁, hr₁, by rw [hpc₁, hk], ?_⟩
      rw [← href, resolve_eq hs hb₁, hv]
  | text _ ih =>
      obtain ⟨hbefore, -⟩ := Body.code_text hp
      exact congrArg (Outcome.append · _) (ih hbefore hs hr hpc hb)
  | output _ ih =>
      obtain ⟨hbefore, -⟩ := Body.code_output hp
      exact congrArg (Outcome.append · _) (ih hbefore hs hr hpc hb)
  | branch _ _ ih₁ ih₂ =>
      obtain ⟨hbefore, ho, hbody, -⟩ := Body.code_branch hp
      refine append_congr hbefore hs hr hpc hb (ih₁ hbefore hs hr hpc hb) fun s₁ hr₁ hpc₁ hb₁ => ?_
      exact guarded_congr ho hs hr₁ hpc₁ hb₁
        (fun s₂ hr₂ hpc₂ hb₂ => ih₂ hbody hs hr₂ hpc₂ hb₂) fun _ _ _ _ => rfl
  | choice _ _ _ ih₁ ih₂ ih₃ =>
      obtain ⟨hbefore, ho, hbody, -, hother, -⟩ := Body.code_choice hp
      refine append_congr hbefore hs hr hpc hb (ih₁ hbefore hs hr hpc hb) fun s₁ hr₁ hpc₁ hb₁ => ?_
      exact guarded_congr ho hs hr₁ hpc₁ hb₁
        (fun s₂ hr₂ hpc₂ hb₂ => ih₂ hbody hs hr₂ hpc₂ hb₂)
        fun s₂ hr₂ hpc₂ hb₂ => ih₃ hother hs hr₂ hpc₂ hb₂
  | @loop start scope _ _ b _ _ _ name _ _ ih₁ ih₂ =>
      obtain ⟨hbefore, ho, hbody, hf⟩ := Body.code_loop hp
      refine append_congr hbefore hs hr hpc hb (ih₁ hbefore hs hr hpc hb) fun s₁ hr₁ hpc₁ hb₁ => ?_
      have hpush : (scope.push name).depth = scope.depth + 1 := by simp [Scope.push, Scope.depth]
      refine loop_congr ho hf hs hr₁ hpc₁ hb₁ fun s₂ v hr₂ hpc₂ hb₂ => ?_
      rw [← hpush] at hb₂ ⊢
      have hs₂ : Numbered (scope.push name).frames := Body.numbered_push hs
      exact ⟨ih₂ hbody hs₂ hr₂ hpc₂ hb₂, _, reaches_code b hbody hs₂ hpc₂ hb₂ (Nat.le_refl _)⟩

/-- **Exchanging a conditional for its dual makes no difference**, if the name leads to no sequence
that is empty or too long when the conditional is evaluated. -/
theorem execute_eq {p p' : Program} (h : Exchanged k ref 0 .root b b')
    (hp : p.ops.toList = b.code 0 .root) (hp' : p'.ops.toList = b'.code 0 .root)
    {data : Value} {escapers : EscapeTable}
    (hmeets : ∀ v, Setup.Meets ⟨p, data, escapers⟩ k ref v →
      ¬ v.IsEmptySequence ∧ ¬ v.IsUncountable) :
    p.execute data escapers = p'.execute data escapers := by
  rw [Program.execute_eq_meaning hp, Program.execute_eq_meaning hp']
  exact h.meaning_eq (m := ⟨p, data, escapers⟩) hmeets (.whole hp) (fun n f hf => by cases hf)
    ⟨0, .refl _⟩ rfl rfl

end Body.Exchanged

end TagTemplate
