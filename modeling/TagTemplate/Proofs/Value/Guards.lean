/-
# Guards — for which values the blocks run

The guard of an if block counts a sequence, that of an unless block asks whether a value is
truthy, and every sequence is.

| value                         | if     | unless |
|-------------------------------|--------|--------|
| truthy, not a sequence        | runs   |        |
| not truthy                    |        | runs   |
| sequence with items           | runs   |        |
| sequence without items        |        |        |
| sequence with too many items  | fails  |        |
| signaling decimal             | fails  | fails  |

So one guard is the negation of the other, but for two kinds of sequences.
-/
import TagTemplate.Proofs.Traced
import TagTemplate.Value.Truth

namespace TagTemplate

namespace Value

/-- What the guard of an if block, or of an unless block, makes of a value. -/
def guard (negated : Bool) (v : Value) : Except Error Bool := do
  if negated then return !(← v.isTruthy) else v.passesIf

def IsEmptySequence (v : Value) : Prop := ∃ s, v.sequence? = some s ∧ s.length = 0

def IsUncountable (v : Value) : Prop := ∃ s, v.sequence? = some s ∧ Sequence.maxLength < s.length

/-- A non-number that cannot be compared. -/
def IsSignaling (v : Value) : Prop := ∃ d, v = .decimal d ∧ d.isSignaling = true

variable {v : Value} {s : Sequence} {e : Error}

theorem guard_if (v : Value) : v.guard false = v.passesIf := rfl

theorem guard_unless (v : Value) : v.guard true = v.isTruthy.map not := by
  show (v.isTruthy >>= fun b => pure !b) = v.isTruthy.map not
  cases v.isTruthy <;> rfl

/-! ## Sequences -/

theorem isTruthy_of_sequence (h : v.sequence? = some s) : v.isTruthy = .ok true := by
  cases v with
  | sequence kind items => rfl
  | range start stop step => rfl
  | _ => cases h

theorem guard_unless_of_sequence (h : v.sequence? = some s) : v.guard true = .ok false := by
  rw [guard_unless, isTruthy_of_sequence h]
  rfl

theorem guard_if_of_sequence (h : v.sequence? = some s) :
    v.guard false =
      if s.length ≤ Sequence.maxLength then .ok (decide (0 < s.length))
      else .error .lengthOverflow := by
  simp only [guard_if, passesIf, h, Sequence.size]
  by_cases hmany : s.length ≤ Sequence.maxLength
  · rw [if_pos hmany, if_pos hmany]
    rfl
  · rw [if_neg hmany, if_neg hmany]
    rfl

theorem isEmptySequence_iff (h : v.sequence? = some s) : v.IsEmptySequence ↔ s.length = 0 := by
  simp [IsEmptySequence, h]

theorem isUncountable_iff (h : v.sequence? = some s) :
    v.IsUncountable ↔ Sequence.maxLength < s.length := by
  simp [IsUncountable, h]

/-! ## Other values -/

theorem guard_if_of_none (h : v.sequence? = none) : v.guard false = v.isTruthy := by
  simp [guard_if, passesIf, h]

theorem not_isEmptySequence (h : v.sequence? = none) : ¬ v.IsEmptySequence := by
  simp [IsEmptySequence, h]

theorem not_isUncountable (h : v.sequence? = none) : ¬ v.IsUncountable := by
  simp [IsUncountable, h]

theorem isTruthy_eq_error_iff :
    v.isTruthy = .error e ↔ v.IsSignaling ∧ e = .signalingComparison := by
  cases v with
  | decimal d =>
      by_cases hd : d.isSignaling = true
      · simp only [isTruthy, if_pos hd, Except.error.injEq]
        exact ⟨fun h => ⟨⟨d, rfl, hd⟩, h.symm⟩, fun h => h.2.symm⟩
      · simp only [isTruthy, if_neg hd]
        refine ⟨nofun, ?_⟩
        rintro ⟨⟨_, h, hd'⟩, -⟩
        cases h
        exact absurd hd' hd
  | _ => simp [isTruthy, IsSignaling]

/-! ## The two guards -/

/-- **If and unless are duals**, but for sequences without items and with too many. -/
theorem guard_unless_eq_not (hempty : ¬ v.IsEmptySequence) (hmany : ¬ v.IsUncountable) :
    v.guard true = (v.guard false).map not := by
  cases h : v.sequence? with
  | none => rw [guard_unless, guard_if_of_none h]
  | some s =>
      rw [isEmptySequence_iff h] at hempty
      rw [isUncountable_iff h, Nat.not_lt] at hmany
      rw [guard_unless_of_sequence h, guard_if_of_sequence h, if_pos hmany,
        decide_eq_true (Nat.pos_of_ne_zero hempty)]
      rfl

theorem not_guard_both (v : Value) : ¬ (v.guard false = .ok true ∧ v.guard true = .ok true) := by
  rintro ⟨hif, hunless⟩
  cases h : v.sequence? with
  | none =>
      rw [guard_unless, ← guard_if_of_none h, hif] at hunless
      cases hunless
  | some s =>
      rw [guard_unless_of_sequence h] at hunless
      cases hunless

theorem guard_neither_iff (v : Value) :
    v.guard false = .ok false ∧ v.guard true = .ok false ↔ v.IsEmptySequence := by
  cases h : v.sequence? with
  | none =>
      refine ⟨fun ⟨hif, hunless⟩ => ?_, fun hempty => absurd hempty (not_isEmptySequence h)⟩
      rw [guard_unless, ← guard_if_of_none h, hif] at hunless
      cases hunless
  | some s =>
      rw [isEmptySequence_iff h, guard_unless_of_sequence h, guard_if_of_sequence h]
      have hmax : 0 < Sequence.maxLength := by decide
      split
      · simp
      · simp
        omega

theorem guard_unless_eq_error_iff :
    v.guard true = .error e ↔ v.IsSignaling ∧ e = .signalingComparison := by
  rw [guard_unless, ← isTruthy_eq_error_iff]
  cases v.isTruthy <;> simp [Except.map]

theorem guard_if_eq_error_iff :
    v.guard false = .error e ↔
      v.IsSignaling ∧ e = .signalingComparison ∨ v.IsUncountable ∧ e = .lengthOverflow := by
  cases h : v.sequence? with
  | none =>
      rw [guard_if_of_none h, isTruthy_eq_error_iff]
      simp [not_isUncountable h]
  | some s =>
      have hsignaling : ¬ v.IsSignaling := by
        rintro ⟨d, rfl, -⟩
        cases h
      rw [guard_if_of_sequence h, isUncountable_iff h]
      split <;> simp [hsignaling, eq_comm] <;> omega

end Value

end TagTemplate
