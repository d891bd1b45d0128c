/-
# Moves — what one step can do

A step that goes on is one of ten moves.  Which of them it can be is a matter of
the operation at the position alone:

    text         text      puts out its value                    pc + 1
    output       output    puts out some text                    pc + 1
    branch       pass                                            pc + 1
                 skip                                            past the else or the end
    alternative  turn                                            past the end
    loop         enter     the loop starts at its first item     pc + 1
                 bypass                                          past the end
    finish       close     of an if or unless block              pc + 1
                 next      the loop is at its next item          past the opener
                 leave     the loop is gone                      pc + 1

What is said of the states of runs is said of these moves, one by one
(`Runs.invariant`).  A run of `k` steps is `m.Runs s k s'`.
-/
import TagTemplate.Machine
import TagTemplate.Proofs.Traced

namespace TagTemplate.Machine

/-! ## Positions of changed states -/

namespace State

@[simp] theorem pc_goto (s : State) (pc : Int) : (s.goto pc).pc = pc := rfl

@[simp] theorem pc_advance (s : State) : s.advance.pc = s.pc + 1 := rfl

@[simp] theorem pc_enter (s : State) (slot : Int) (l : LoopState) : (s.enter slot l).pc = s.pc :=
  rfl

@[simp] theorem pc_leave (s : State) (slot : Int) : (s.leave slot).pc = s.pc := rfl

end State

namespace Setup

variable [Traits] {m : Setup} {s s' s'' : State} {k fuel : Nat}

/-! ## Moves -/

/-- The ways in which an operation leads from one state to another. -/
inductive Moves (m : Setup) (s : State) : Action → State → Prop
  | text {value : Text} : m.Moves s (.text value) (s.put value).advance
  | output {ref : Ref} {escape : EscapeMode} {t : Text} :
      m.Moves s (.output ref escape) (s.put t).advance
  | pass {negated : Bool} {ref : Ref} {elseIndex : Option Int} {endIndex : Int} :
      m.Moves s (.branch negated ref elseIndex endIndex) s.advance
  | skip {negated : Bool} {ref : Ref} {elseIndex : Option Int} {endIndex : Int} :
      m.Moves s (.branch negated ref elseIndex endIndex) (s.goto (elseIndex.getD endIndex + 1))
  | turn {endIndex : Int} : m.Moves s (.alternative endIndex) (s.goto (endIndex + 1))
  | enter {ref : Ref} {slot endIndex : Int} {value : Value} {items : Sequence} :
      m.resolve s ref = .ok value → value.sequence? = some items → 0 < items.length →
      m.Moves s (.loop ref slot endIndex) (s.enter slot ⟨items, 0⟩).advance
  | bypass {ref : Ref} {slot endIndex : Int} :
      m.Moves s (.loop ref slot endIndex) (s.goto (endIndex + 1))
  | close {word : Text} {start : Int} :
      word ≠ BlockKind.loopBlock.word → m.Moves s (.finish word start) s.advance
  | next {place : Position} {ref : Ref} {slot endIndex start : Int} {l : LoopState} :
      m.opAt? start = some ⟨place, .loop ref slot endIndex⟩ → s.loop? slot = some l →
      l.index + 1 < l.items.length →
      m.Moves s (.finish BlockKind.loopBlock.word start)
        ((s.enter slot ⟨l.items, l.index + 1⟩).goto (start + 1))
  | leave {place : Position} {ref : Ref} {slot endIndex start : Int} {l : LoopState} :
      m.opAt? start = some ⟨place, .loop ref slot endIndex⟩ → s.loop? slot = some l →
      m.Moves s (.finish BlockKind.loopBlock.word start) (s.leave slot).advance

theorem moves_of_output {ref : Ref} {escape : EscapeMode} (h : m.output s ref escape = .ok s') :
    m.Moves s (.output ref escape) s' := by
  obtain ⟨value, -, h⟩ := Traced.bind_eq_ok.mp h
  obtain ⟨text, -, h⟩ := Traced.bind_eq_ok.mp h
  obtain ⟨t, -, h⟩ := Traced.bind_eq_ok.mp h
  cases h
  exact .output

theorem moves_of_startLoop {ref : Ref} {slot endIndex : Int}
    (h : m.startLoop s ref slot endIndex = .ok s') : m.Moves s (.loop ref slot endIndex) s' := by
  obtain ⟨value, hvalue, h⟩ := Traced.bind_eq_ok.mp h
  split at h
  · next items hitems =>
      split at h
      · cases h
        exact .bypass
      · next hlength =>
          cases h
          exact .enter hvalue hitems (Nat.pos_of_ne_zero hlength)
  · cases h
    exact .bypass

theorem moves_of_endLoop {start : Int} (h : m.endLoop s start = .ok s') :
    m.Moves s (.finish BlockKind.loopBlock.word start) s' := by
  unfold endLoop at h
  split at h
  · cases h
  · next hop =>
      split at h
      · cases h
      · next l hl =>
          obtain ⟨n, hn, h⟩ := Traced.bind_eq_ok.mp h
          unfold Sequence.size at hn
          split at hn <;> cases hn
          split at h
          · next hlt =>
              cases h
              exact .next hop hl hlt
          · cases h
            exact .leave hop hl
  · cases h

theorem moves_of_perform {a : Action} (h : m.perform s a = .ok s') : m.Moves s a s' := by
  cases a with
  | text value => cases h; exact .text
  | output ref escape => exact moves_of_output h
  | branch negated ref elseIndex endIndex =>
      obtain ⟨passes, -, h⟩ := Traced.bind_eq_ok.mp h
      split at h <;> cases h
      · exact .pass
      · exact .skip
  | alternative endIndex => cases h; exact .turn
  | loop ref slot endIndex => exact moves_of_startLoop h
  | finish word start =>
      rw [perform] at h
      split at h
      · next hword => exact hword ▸ moves_of_endLoop h
      · next hword => cases h; exact .close hword
  | inert => cases h

theorem exists_moves_of_step (h : m.step s = .running s') :
    s.pc < m.program.size ∧ ∃ op, m.opAt? s.pc = some op ∧ m.Moves s op.action s' := by
  unfold step at h
  split at h
  · cases h
  · next hpc =>
      refine ⟨Int.not_le.mp hpc, ?_⟩
      split at h
      · cases h
      · next op hop =>
          split at h
          · next hperform =>
              cases h
              exact ⟨op, hop, moves_of_perform hperform⟩
          · cases h

/-! ## Runs -/

/-- A run of `k` steps leads from one state to another. -/
inductive Runs (m : Setup) : State → Nat → State → Prop
  | refl (s : State) : m.Runs s 0 s
  | cons {s s' s'' : State} {k : Nat} :
      m.step s = .running s' → m.Runs s' k s'' → m.Runs s (k + 1) s''

/-- The state comes up in the run from the initial state. -/
def Reachable (m : Setup) (s : State) : Prop := ∃ k, m.Runs .initial k s

/-- What every move keeps is kept by a run. -/
theorem Runs.invariant {P : State → Prop} (h : m.Runs s k s') (hs : P s)
    (hmove : ∀ {s s' : State} {op : Op}, P s → s.pc < m.program.size →
      m.opAt? s.pc = some op → m.Moves s op.action s' → P s') : P s' := by
  induction h with
  | refl s => exact hs
  | cons hstep _ ih =>
      obtain ⟨hpc, op, hop, hm⟩ := exists_moves_of_step hstep
      exact ih (hmove hs hpc hop hm)

/-- An outcome is met at the end of a run, by a last step that does not go on. -/
theorem exists_runs_of_run {outcome : Except Error Text} (h : m.run fuel s = some outcome) :
    ∃ k s', k < fuel ∧ m.Runs s k s' ∧
      ((∃ t, m.step s' = .finished t ∧ outcome = .ok t) ∨
        ∃ e, m.step s' = .failed e ∧ outcome = .error e) := by
  induction fuel generalizing s with
  | zero => cases h
  | succ fuel ih =>
      unfold run at h
      split at h
      · next s₁ hstep =>
          obtain ⟨k, s', hk, hruns, hend⟩ := ih h
          exact ⟨k + 1, s', Nat.succ_lt_succ hk, .cons hstep hruns, hend⟩
      · next t hstep =>
          cases h
          exact ⟨0, s, Nat.succ_pos fuel, .refl s, .inl ⟨t, hstep, rfl⟩⟩
      · next e hstep =>
          cases h
          exact ⟨0, s, Nat.succ_pos fuel, .refl s, .inr ⟨e, hstep, rfl⟩⟩

theorem size_le_of_finished {t : Text} (h : m.step s = .finished t) : m.program.size ≤ s.pc := by
  unfold step at h
  split at h
  · assumption
  · split at h
    · cases h
    · split at h <;> cases h

end Setup

end TagTemplate.Machine
