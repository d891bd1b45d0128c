/-
# Halting — every run of a compiled program ends

A loop jumps back, so no position tells how far a run has come, and how often a
loop within a loop goes round depends on the item of the outer one.  The bound is
read off the tree of the program instead: no sequence that the data leads to is longer
than its `reach`, each loop multiplies the steps of its body by that, and so no run is
longer than

    size * (reach + 1) ^ loops

steps (`Body.steps_le`).  It ends at the end of the program or with a failure.

That is a property of compiled programs.  An opener that is not linked refers to
the position -1, and one that is skipped goes on after that, at the first operation
(`runs_of_unlinked`).
-/
import TagTemplate.Proofs.Machine.Safety
import TagTemplate.Proofs.Meaning.Correct

namespace TagTemplate

open Program

namespace Machine.Setup

variable [Traits] {m : Setup} {s s₁ s₂ : State} {n k : Nat}

theorem Runs.le_of_halted (h : m.Runs s n s₁) (hend : ∀ s', m.step s₁ ≠ .running s')
    (h' : m.Runs s k s₂) : k ≤ n := by
  induction h generalizing k with
  | refl s =>
      cases h' with
      | refl => exact Nat.le_refl 0
      | cons hstep _ => exact absurd hstep (hend _)
  | cons hstep _ ih =>
      cases h' with
      | refl => exact Nat.zero_le _
      | cons hstep' hrest =>
          rw [hstep] at hstep'
          cases hstep'
          exact Nat.succ_le_succ (ih hend hrest)

/-- A first operation that is skipped without a link is run again and again. -/
theorem runs_of_unlinked {place : Position} {negated : Bool} {ref : Ref}
    (hop : m.opAt? 0 = some ⟨place, .branch negated ref none unlinked⟩)
    (hguard : m.passes .initial negated ref = .ok false) (hsize : 0 < m.program.size) (k : Nat) :
    m.Runs .initial k .initial := by
  have hstep : m.step .initial = .running .initial := by
    have hpc : ¬ (m.program.size : Int) ≤ State.initial.pc := by
      show ¬ (m.program.size : Int) ≤ 0
      omega
    have hop : m.opAt? State.initial.pc = some ⟨place, .branch negated ref none unlinked⟩ := hop
    simp only [step, hpc, if_false, hop, perform, hguard]
    rfl
  induction k with
  | zero => exact .refl _
  | succ k ih => exact .cons hstep ih

end Machine.Setup

namespace Compilation

open Machine Machine.Setup

section

variable [Traits]

/-- **Every run of a compiled program ends**, at the end of the program or with a failure, and
after no more steps than its size, its loops and the data allow.  Programs that are not compiled
need not: an if without links goes round for ever. -/
theorem halts_of_compile :
    (∀ {c : Compilation} {tokens : List Token} {m : Setup},
      (c.compile tokens).result = .ok m.program →
      ∃ n s, n ≤ m.program.size * Nat.pow (m.data.reach + 1) m.program.loopCount ∧
        m.Runs .initial n s ∧ (s.pc = m.program.size ∨ ∃ e, m.step s = .failed e) ∧
        ∀ k s', m.Runs .initial k s' → k ≤ n) ∧
    ∀ (place : Position) (escapers : EscapeTable) (k : Nat),
      let unlinkedIf : Program :=
        ⟨#[⟨place, .opener .ifBlock (Scope.root.resolve "a") Scope.root.depth⟩], none⟩
      Runs ⟨unlinkedIf, .dict [], escapers⟩ .initial k .initial := by
  refine ⟨fun {c tokens m} h => ?_, fun place escapers k => ?_⟩
  · obtain ⟨body, hb⟩ := exists_body_of_compile h
    have hl := linkedOn_of_code hb
    have hsteps := steps_le_of_code hb m.data.reach
    have hrun := run_eq_meaning hb (Nat.lt_succ_self (body.steps m.data.reach))
    obtain ⟨n, s, hn, hruns, hend⟩ := exists_runs_of_run hrun
    refine ⟨n, s, Nat.le_trans (Nat.le_of_lt_succ hn) hsteps, hruns, ?_, fun k s' hk => ?_⟩
    · refine hend.imp (fun ⟨t, ht, _⟩ => ?_) fun ⟨e, he, _⟩ => ⟨e, he⟩
      obtain ⟨i, hi⟩ := placed_of_reachable (.of_linkedOn hl) ⟨n, hruns⟩
      exact Int.le_antisymm (hi.safe hl).pc_le_size (size_le_of_finished ht)
    · refine hruns.le_of_halted (fun s'' hrunning => ?_) hk
      rcases hend with ⟨t, ht, _⟩ | ⟨e, he, _⟩
      · rw [hrunning] at ht
        cases ht
      · rw [hrunning] at he
        cases he
  · intro unlinkedIf
    let m : Setup := ⟨unlinkedIf, .dict [], escapers⟩
    have hop : m.opAt? 0 = some ⟨place, .branch false ⟨[], ["a"]⟩ none unlinked⟩ := by rfl
    exact runs_of_unlinked hop rfl (Nat.succ_pos 0) k

end

attribute [local instance] Traits.bare

/-- A loop over the rows of a loop, from tags that are not closed. -/
theorem halts_nested_loops :
    let c : Compilation := ⟨false, none, .outermost none, .null⟩
    let tokens : List Token :=
      [⟨.opening .loopBlock "rows", ⟨1, 0⟩, .plain⟩, ⟨.opening .loopBlock "cells", ⟨1, 17⟩, .plain⟩,
        ⟨.output "x", ⟨1, 35⟩, .html⟩]
    let p : Program :=
      ⟨#[⟨⟨1, 0⟩, .loop ⟨[], ["rows"]⟩ 1 4⟩, ⟨⟨1, 17⟩, .loop ⟨[⟨["rows"], 1⟩], ["cells"]⟩ 2 3⟩,
        ⟨⟨1, 35⟩, .output ⟨[⟨["rows"], 1⟩, ⟨["cells"], 2⟩], ["x"]⟩ .html⟩,
        ⟨⟨1, 17⟩, .finish "loop" 1⟩, ⟨⟨1, 0⟩, .finish "loop" 0⟩], none⟩
    let row : Value := .dict [(.text "cells", .list [.null, .null])]
    let m : Setup := ⟨p, .dict [(.text "rows", .list [row, .null, row])], .standard⟩
    (c.compile tokens).result = .ok p ∧
      ∃ n s, n ≤ 5 * Nat.pow (7 + 1) 2 ∧ m.Runs .initial n s ∧
        (s.pc = 5 ∨ ∃ e, m.step s = .failed e) ∧ ∀ k s', m.Runs .initial k s' → k ≤ n := by
  intro c tokens p row m
  have h : (c.compile tokens).result = .ok m.program := by rfl
  exact ⟨h, halts_of_compile.1 h⟩

end Compilation

end TagTemplate
