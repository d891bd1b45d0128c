/-
# Runs — the machine does what a body means

`m.Reaches n depth s pc outcome` says that the machine, from state `s` and in at
most `n` steps, comes to `pc` with the text of the outcome put out and with the
loops up to `depth` as they were, or fails as the outcome does:

    one step that puts out t                  Reaches 1  … (ok t)
    one step that fails with e                Reaches 1  … (error e)
    a, and from where that ends, b            Reaches (m + n) … (a.append b)

A body's code reaches its end with the body's meaning (`reaches_code`), by
induction on the body.  A loop is a second induction, on the items that are left:
at its end the machine is back in the state of a loop with one item fewer.
-/
import TagTemplate.Proofs.Layout.Links
import TagTemplate.Proofs.Machine.Moves
import TagTemplate.Proofs.Meaning.Extent

namespace TagTemplate

namespace Machine

/-! ## States -/

namespace State

def written (s : State) : Text := s.output.reverse.flatten

/-- The loops up to a depth are the same in the second state. -/
def Agree (depth : Nat) (s s' : State) : Prop :=
  ∀ slot : Int, slot ≤ depth → s'.loop? slot = s.loop? slot

theorem Agree.refl (depth : Nat) (s : State) : Agree depth s s := fun _ _ => rfl

theorem Agree.trans {depth : Nat} {s s' s'' : State} (h : Agree depth s s')
    (h' : Agree depth s' s'') : Agree depth s s'' :=
  fun slot hslot => (h' slot hslot).trans (h slot hslot)

theorem Agree.mono {depth depth' : Nat} {s s' : State} (h : Agree depth s s')
    (hd : depth' ≤ depth) : Agree depth' s s' :=
  fun slot hslot => h slot (by omega)

@[simp] theorem written_put (s : State) (t : Text) : (s.put t).written = s.written ++ t := by
  simp [written, put]

theorem loop?_leave_ne {slot slot' : Int} (s : State) (h : slot' ≠ slot) :
    (s.leave slot).loop? slot' = s.loop? slot' := by
  obtain ⟨pc, output, loops⟩ := s
  simp only [loop?, leave]
  induction loops with
  | nil => rfl
  | cons l loops ih =>
      obtain ⟨k, l⟩ := l
      by_cases hk : k = slot
      · have hne : (slot' == k) = false := beq_false_of_ne (hk ▸ h)
        rw [List.filter_cons_of_neg (by simp [hk]), List.lookup_cons, hne]
        exact ih
      · rw [List.filter_cons_of_pos (by simpa using hk), List.lookup_cons, List.lookup_cons, ih]

theorem loop?_enter (s : State) (slot : Int) (l : LoopState) :
    (s.enter slot l).loop? slot = some l := by
  simp [loop?, enter]

theorem loop?_enter_ne {slot slot' : Int} (s : State) (l : LoopState) (h : slot' ≠ slot) :
    (s.enter slot l).loop? slot' = s.loop? slot' := by
  have hne : (slot' == slot) = false := beq_false_of_ne h
  rw [← s.loop?_leave_ne h]
  simp only [loop?, enter, List.lookup_cons, hne]

theorem agree_enter {depth : Nat} {s : State} {slot : Int} (l : LoopState) (h : depth < slot) :
    Agree depth s (s.enter slot l) :=
  fun _ hslot => s.loop?_enter_ne l (by omega)

theorem agree_leave {depth : Nat} {s : State} {slot : Int} (h : depth < slot) :
    Agree depth s (s.leave slot) :=
  fun _ hslot => s.loop?_leave_ne (by omega)

end State

/-! ## Steps -/

namespace Setup

section
variable [Traits] {m : Setup} {k k' : Nat} {s s' s'' : State}

theorem Runs.trans (h : m.Runs s k s') (h' : m.Runs s' k' s'') : m.Runs s (k + k') s'' := by
  induction h with
  | refl s => rwa [Nat.zero_add]
  | cons hstep _ ih => exact Nat.succ_add _ k' ▸ .cons hstep (ih h')

theorem Runs.one (h : m.step s = .running s') : m.Runs s 1 s' := .cons h (.refl s')

theorem Runs.run_eq (h : m.Runs s k s') (fuel : Nat) : m.run (fuel + k) s = m.run fuel s' := by
  induction h with
  | refl s => rfl
  | cons hstep _ ih =>
      rw [← Nat.add_assoc, run, hstep]
      exact ih

theorem Reachable.runs (h : m.Reachable s) (h' : m.Runs s k s') : m.Reachable s' := by
  obtain ⟨k₀, h⟩ := h
  exact ⟨k₀ + k, h.trans h'⟩

end

variable [Traits] (m : Setup)

/-- Within `n` steps the machine comes to `pc` with the text of the outcome, or fails. -/
def Reaches (n depth : Nat) (s : State) (pc : Int) : Outcome → Prop
  | .ok t => ∃ k s', k ≤ n ∧ m.Runs s k s' ∧ s'.pc = pc ∧ s'.written = s.written ++ t ∧
      s.Agree depth s'
  | .error e => ∃ k, k ≤ n ∧ ∀ fuel, m.run (fuel + k) s = some (.error e)

variable {m} {n n' k depth : Nat} {s s' : State} {pc pc' : Int} {a b : Outcome} {t : Text}
  {e : Error}

/-! ## Reaching -/

theorem Reaches.mono (h : m.Reaches n depth s pc a) (hn : n ≤ n') : m.Reaches n' depth s pc a := by
  cases a with
  | ok t =>
      obtain ⟨k, s', hk, hrest⟩ := h
      exact ⟨k, s', Nat.le_trans hk hn, hrest⟩
  | error e =>
      obtain ⟨k, hk, hrest⟩ := h
      exact ⟨k, Nat.le_trans hk hn, hrest⟩

theorem Reaches.refl (hpc : s.pc = pc) : m.Reaches 0 depth s pc (.ok []) :=
  ⟨0, s, Nat.le_refl 0, .refl s, hpc, (List.append_nil _).symm, .refl depth s⟩

theorem Reaches.put (h : m.step s = .running s') (hpc : s'.pc = pc)
    (hw : s'.written = s.written ++ t) (ha : s.Agree depth s') : m.Reaches 1 depth s pc (.ok t) :=
  ⟨1, s', Nat.le_refl 1, .one h, hpc, hw, ha⟩

theorem Reaches.fail (h : m.step s = .failed e) : m.Reaches 1 depth s pc (.error e) := by
  refine ⟨1, Nat.le_refl 1, fun fuel => ?_⟩
  simp only [run, h]

/-- One outcome, and then another from where the first ends, which may leave a loop. -/
theorem Reaches.append {inner : Nat} (h : m.Reaches n inner s pc a) (hd : depth ≤ inner)
    (h' : ∀ s', s'.pc = pc → s.Agree inner s' → m.Reaches n' depth s' pc' b) :
    m.Reaches (n + n') depth s pc' (a.append b) := by
  cases a with
  | error e => exact Reaches.mono (a := .error e) h (Nat.le_add_right n n')
  | ok t =>
      obtain ⟨k, s₁, hk, hsteps, hpc, hw, ha⟩ := h
      have h₁ := h' s₁ hpc ha
      cases b with
      | ok u =>
          obtain ⟨k', s₂, hk', hsteps', hpc', hw', ha'⟩ := h₁
          exact ⟨k + k', s₂, Nat.add_le_add hk hk', hsteps.trans hsteps', hpc',
            by rw [hw', hw, List.append_assoc], (ha.mono hd).trans ha'⟩
      | error e =>
          obtain ⟨k', hk', herr⟩ := h₁
          refine ⟨k + k', Nat.add_le_add hk hk', fun fuel => ?_⟩
          rw [show fuel + (k + k') = fuel + k' + k by omega, hsteps.run_eq, herr]

theorem Reaches.step (h : m.step s = .running s') (hw : s'.written = s.written)
    (ha : s.Agree depth s') (h' : m.Reaches n depth s' pc a) :
    m.Reaches (n + 1) depth s pc a := by
  cases a with
  | ok t =>
      obtain ⟨k, s₂, hk, hsteps, hpc, hw', ha'⟩ := h'
      exact ⟨1 + k, s₂, by omega, (Runs.one h).trans hsteps, hpc, by rw [hw', hw], ha.trans ha'⟩
  | error e =>
      obtain ⟨k, hk, herr⟩ := h'
      refine ⟨k + 1, by omega, fun fuel => ?_⟩
      rw [show fuel + (k + 1) = fuel + k + 1 by omega, (Runs.one h).run_eq, herr]

/-! ## Operations -/

omit [Traits] in
theorem opAt?_natCast (m : Setup) (i : Nat) : m.opAt? i = m.program.ops[i]? := by
  have h : ¬ ((i : Int) < 0) := by omega
  simp [opAt?, h]

section
variable {i : Nat} {op : Op}

theorem step_of_op (h : m.program.ops[i]? = some op) (hpc : s.pc = i) :
    m.step s = match m.perform s op.action with
      | .ok s => .running s
      | .error e => .failed e := by
  have hlt : i < m.program.size := (Array.getElem?_eq_some_iff.mp h).1
  have hge : ¬ (m.program.size : Int) ≤ s.pc := by omega
  have hop : m.opAt? s.pc = some op := by rw [hpc, opAt?_natCast, h]
  cases hperform : m.perform s op.action <;> simp only [step, hge, if_false, hop, hperform]

theorem step_of_ok (h : m.program.ops[i]? = some op) (hpc : s.pc = i)
    (ho : m.perform s op.action = .ok s') : m.step s = .running s' := by
  rw [step_of_op h hpc, ho]

theorem step_of_error (h : m.program.ops[i]? = some op) (hpc : s.pc = i)
    (ho : m.perform s op.action = .error e) : m.step s = .failed e := by
  rw [step_of_op h hpc, ho]

end

section
variable {scope : Scope} {item : Value} {name : Text}

omit [Traits] in
theorem base_of_agree (h : s.Agree depth s') : m.base s' depth = m.base s depth := by
  rw [base, base, h depth (by omega)]

omit [Traits] in
theorem slot_resolve (hs : Program.Numbered scope.frames) (name : Text) :
    (scope.resolve name).slot = scope.depth := by
  rw [Ref.slot, Scope.resolve, Scope.depth, List.getLast?_eq_getElem?]
  cases h : scope.frames[scope.frames.length - 1]? with
  | none =>
      have hn := List.getElem?_eq_none_iff.mp h
      simp
      omega
  | some f =>
      have hlt := (List.getElem?_eq_some_iff.mp h).1
      simp [hs _ f h]
      omega

theorem resolve_eq (hs : Program.Numbered scope.frames) (hb : m.base s scope.depth = .ok item) :
    m.resolve s (scope.resolve name) = item.lookupPath (splitPath name) := by
  rw [resolve, slot_resolve hs, hb]
  rfl

theorem output_eq (hs : Program.Numbered scope.frames) (hb : m.base s scope.depth = .ok item)
    (name : Text) (escape : EscapeMode) : m.output s (scope.resolve name) escape =
      item.shown m.escapers name escape >>= fun t => .ok (s.put t).advance := by
  rw [output, resolve_eq hs hb, Value.shown]
  cases item.lookupPath (splitPath name) with
  | error e => rfl
  | ok value =>
      show (value.toText >>= _) = (value.toText >>= fun text => _) >>= _
      cases value.toText with
      | error e => rfl
      | ok text =>
          show (m.escapers.apply escape text >>= _) = m.escapers.apply escape text >>= _
          cases m.escapers.apply escape text <;> rfl

theorem passes_eq (hs : Program.Numbered scope.frames) (hb : m.base s scope.depth = .ok item)
    (negated : Bool) : m.passes s negated (scope.resolve name) = item.guards negated name := by
  rw [passes, resolve_eq hs hb, Value.guards]

theorem perform_branch_eq (hs : Program.Numbered scope.frames)
    (hb : m.base s scope.depth = .ok item) (negated : Bool) (name : Text)
    (elseIndex : Option Int) (endIndex : Int) :
    m.perform s (.branch negated (scope.resolve name) elseIndex endIndex) =
      item.guards negated name >>= fun passes =>
        .ok (if passes then s.advance else s.goto (elseIndex.getD endIndex + 1)) := by
  rw [← passes_eq hs hb negated, perform]
  cases m.passes s negated (scope.resolve name) with
  | error e => rfl
  | ok passes => cases passes <;> rfl

theorem startLoop_eq (hs : Program.Numbered scope.frames) (hb : m.base s scope.depth = .ok item)
    (name : Text) (slot endIndex : Int) : m.startLoop s (scope.resolve name) slot endIndex =
      item.sequenceAt name >>= fun items =>
        .ok (if items.length = 0 then s.goto (endIndex + 1)
          else (s.enter slot ⟨items, 0⟩).advance) := by
  rw [startLoop, resolve_eq hs hb, Value.sequenceAt]
  cases item.lookupPath (splitPath name) with
  | error e => rfl
  | ok value =>
      cases hseq : value.sequence? with
      | none =>
          simp only [Traced.ok_bind, hseq]
          rfl
      | some items =>
          simp only [Traced.ok_bind, hseq]
          by_cases h : items.length = 0
          · rw [if_pos h]
            exact congrArg Except.ok (if_pos h).symm
          · rw [if_neg h]
            exact congrArg Except.ok (if_neg h).symm

omit [Traits] in
/-- The end of a loop counts the items, and goes on with the next one if there is one. -/
theorem endLoop_eq {opener i : Nat} {place : Position} {ref : Ref} {slot endIndex : Int}
    {items : Sequence} (ho : m.program.ops[opener]? = some ⟨place, .loop ref slot endIndex⟩)
    (hl : s.loop? slot = some ⟨items, i⟩) : m.endLoop s opener =
      items.size >>= fun n =>
        .ok (if i + 1 < n then (s.enter slot ⟨items, i + 1⟩).goto (opener + 1)
          else (s.leave slot).advance) := by
  simp only [endLoop, opAt?_natCast, ho, hl]
  cases items.size with
  | error e => rfl
  | ok n =>
      by_cases h : i + 1 < n
      · simp only [Traced.ok_bind, h, if_true]
        rfl
      · simp only [Traced.ok_bind, h, if_false]
        rfl

omit [Traits] in
theorem base_of_loop {slot : Int} {items : Sequence} {i : Nat} {v : Value} (hslot : slot ≠ 0)
    (hl : s.loop? slot = some ⟨items, i⟩) (hv : items.values[i]? = some v) :
    m.base s slot = .ok v := by
  rw [base, if_neg hslot, hl]
  simp only [items.get?_eq, hv]

end

end Setup

end Machine

end TagTemplate
