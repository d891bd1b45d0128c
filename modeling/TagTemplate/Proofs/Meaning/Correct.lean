/-
# Correctness — a program puts out what its template means

The code of a body, from a state at its start and with an item to look names up
from, reaches its end with the meaning of the body for that item:

    reaches_code     m.Reaches (b.steps n) depth s (start + b.size) (b.meaning … item)
    reaches_items    the same for what is left of the items of a loop

Only the loops up to the current depth are kept on the way; those inside leave
what they like behind.  As a run has steps enough, a program that is compiled
from well-bracketed tokens has the outcome of their tree
(`execute_compile_eq_meaning`).  For a sequence too long to be counted that is
not the outcome of its items one after the other (`execute_overlong_loop`).
-/
import TagTemplate.Proofs.Meaning.Compiled
import TagTemplate.Proofs.Meaning.Run

namespace TagTemplate

namespace Machine.Setup

open Program

variable {m : Setup} {s : State} {n depth : Nat}

section
variable [Traits]

variable {items : Sequence} {f : Value → Outcome} {i opener finish cost : Nat} {v : Value}
  {vs : List Value} {ref : Ref} {place place' : Position}
  (ho : m.program.ops[opener]? = some ⟨place, .loop ref (depth + 1 : Nat) finish⟩)
  (hf : m.program.ops[finish]? = some ⟨place', .finish BlockKind.loopBlock.word opener⟩)
  (hbody : ∀ (s : State) (v : Value), s.pc = (opener + 1 : Nat) →
    m.base s (depth + 1 : Nat) = .ok v → v ∈ items.values →
    m.Reaches cost (depth + 1) s finish (f v))

omit [Traits] in
theorem getElem?_of_drop {α : Type} {l : List α} {i : Nat} {a : α} {as : List α}
    (h : l.drop i = a :: as) : l[i]? = some a ∧ l.drop (i + 1) = as := by
  rw [← List.head?_drop, ← List.tail_drop, h]
  exact ⟨rfl, rfl⟩

include ho hf

/-- At the end of a loop the items are counted, and what is left of them follows. -/
theorem reaches_rest
    (hv : items.values.drop (i + 1) = vs) (hi : i < items.values.length) (hpc : s.pc = finish)
    (hl : s.loop? (depth + 1 : Nat) = some ⟨items, i⟩)
    (next : ∀ w ws, vs = w :: ws → ∀ s' : State, s'.pc = (opener + 1 : Nat) →
      s'.loop? (depth + 1 : Nat) = some ⟨items, i + 1⟩ →
      m.Reaches cost depth s' (finish + 1 : Nat)
        ((f w).append (items.size >>= fun _ => Sequence.each f ws))) :
    m.Reaches (cost + 1) depth s (finish + 1 : Nat)
      (items.size >>= fun _ => Sequence.each f vs) := by
  have hend : m.perform s (.finish BlockKind.loopBlock.word opener) = _ := endLoop_eq ho hl
  have hdepth : (depth : Int) < (depth + 1 : Nat) := by omega
  cases hsize : items.size with
  | error e =>
      rw [hsize] at hend
      exact (Reaches.fail (step_of_error hf hpc hend)).mono (by omega)
  | ok k =>
      have hk : k = i + 1 + vs.length := by
        rw [← Sequence.length_of_size hsize, ← items.length_values, ← hv, List.length_drop]
        omega
      rw [hsize] at hend
      -- the count is that of all items, so it tells whether the current one is the last
      cases vs with
      | nil =>
          rw [Traced.ok_bind, if_neg (by simp [hk])] at hend
          have hleave := State.agree_leave (s := s) hdepth
          refine (Reaches.put (step_of_ok hf hpc hend) ?_ ?_ hleave).mono (by omega)
          · simp [State.advance, State.goto, State.leave, hpc]
          · exact (List.append_nil _).symm
      | cons w ws =>
          rw [Traced.ok_bind, if_pos (by simp [hk])] at hend
          refine Reaches.step (step_of_ok hf hpc hend) rfl (State.agree_enter _ hdepth) ?_
          have hnext := next w ws rfl ((s.enter (depth + 1 : Nat) ⟨items, i + 1⟩).goto (opener + 1))
            (by simp [State.goto]) (s.loop?_enter _ _)
          rwa [hsize] at hnext

include hbody

theorem reaches_round {k : Nat}
    (hv : items.values.drop i = v :: vs) (hpc : s.pc = (opener + 1 : Nat))
    (hl : s.loop? (depth + 1 : Nat) = some ⟨items, i⟩)
    (next : ∀ w ws, vs = w :: ws → ∀ s' : State, s'.pc = (opener + 1 : Nat) →
      s'.loop? (depth + 1 : Nat) = some ⟨items, i + 1⟩ →
      m.Reaches k depth s' (finish + 1 : Nat)
        ((f w).append (items.size >>= fun _ => Sequence.each f ws))) :
    m.Reaches (cost + (k + 1)) depth s (finish + 1 : Nat)
      ((f v).append (items.size >>= fun _ => Sequence.each f vs)) := by
  obtain ⟨hvi, hrest⟩ := getElem?_of_drop hv
  have hitem := hbody s v hpc (base_of_loop (by omega) hl hvi) (List.mem_of_getElem? hvi)
  refine hitem.append (Nat.le_succ depth) fun s₁ hpc₁ ha => ?_
  have hl₁ : s₁.loop? (depth + 1 : Nat) = some ⟨items, i⟩ := by rw [ha _ (by omega), hl]
  exact reaches_rest ho hf hrest (List.getElem?_eq_some_iff.mp hvi).1 hpc₁ hl₁ next

theorem reaches_items
    (hv : items.values.drop i = v :: vs) (hpc : s.pc = (opener + 1 : Nat))
    (hl : s.loop? (depth + 1 : Nat) = some ⟨items, i⟩) :
    m.Reaches ((vs.length + 1) * (cost + 1)) depth s (finish + 1 : Nat)
      ((f v).append (items.size >>= fun _ => Sequence.each f vs)) := by
  induction vs generalizing s i v with
  | nil =>
      have h := reaches_round (k := 0) ho hf hbody hv hpc hl fun w ws h => by cases h
      exact h.mono (by simp)
  | cons w ws ih =>
      have h := reaches_round ho hf hbody hv hpc hl fun w' ws' h s' hpc' hl' => by
        cases h
        exact ih (getElem?_of_drop hv).2 hpc' hl'
      refine h.mono ?_
      rw [List.length_cons, Nat.succ_mul (ws.length + 1)]
      omega

end

variable [Traits]

theorem reaches_loop {scope : Scope} {item : Value} {name : Text} {f : Value → Outcome}
    {opener finish cost : Nat} {place place' : Position}
    (ho : m.program.ops[opener]? =
      some ⟨place, .loop (scope.resolve name) (scope.frameFor name).slot finish⟩)
    (hf : m.program.ops[finish]? = some ⟨place', .finish BlockKind.loopBlock.word opener⟩)
    (hs : Numbered scope.frames) (hpc : s.pc = opener) (hb : m.base s scope.depth = .ok item)
    (hn : item.reach ≤ n)
    (hbody : ∀ (s : State) (v : Value), s.pc = (opener + 1 : Nat) →
      m.base s (scope.depth + 1 : Nat) = .ok v → v.reach ≤ n →
      m.Reaches cost (scope.depth + 1) s finish (f v)) :
    m.Reaches (n * (cost + 1) + 1) scope.depth s (finish + 1 : Nat)
      (item.sequenceAt name >>= fun items => items.concatCounted f) := by
  have hslot : (scope.frameFor name).slot = (scope.depth + 1 : Nat) := rfl
  rw [hslot] at ho
  have hstart : m.perform s (.loop (scope.resolve name) (scope.depth + 1 : Nat) finish) = _ :=
    startLoop_eq hs hb name _ _
  cases hseq : item.sequenceAt name with
  | error e =>
      rw [hseq] at hstart
      exact (Reaches.fail (step_of_error ho hpc hstart)).mono (by omega)
  | ok items =>
      obtain ⟨hlen, hreach⟩ := Value.sequenceAt_le hseq
      rw [← items.length_values] at hlen
      rw [hseq, Traced.ok_bind, ← items.length_values] at hstart
      rw [Traced.ok_bind, Sequence.concatCounted]
      cases hvalues : items.values with
      | nil =>
          rw [hvalues, if_pos List.length_nil] at hstart
          have hskip : m.Reaches 1 scope.depth s _ (.ok []) :=
            Reaches.put (step_of_ok ho hpc hstart) rfl (List.append_nil _).symm (.refl _ _)
          exact hskip.mono (by omega)
      | cons v vs =>
          rw [hvalues, List.length_cons] at hlen
          rw [hvalues, if_neg (by simp)] at hstart
          have henter : s.Agree scope.depth (s.enter (scope.depth + 1 : Nat) ⟨items, 0⟩) :=
            State.agree_enter _ (by omega)
          refine Reaches.step (step_of_ok ho hpc hstart) rfl henter ?_
          have hrounds := reaches_items ho hf
            (fun s v hpc hb hv => hbody s v hpc hb (Nat.le_trans (hreach v hv) hn))
            (i := 0) hvalues (s := (s.enter (scope.depth + 1 : Nat) ⟨items, 0⟩).advance)
            (by simp [State.advance, State.goto, State.enter, State.leave, hpc]) (s.loop?_enter _ _)
          exact hrounds.mono (Nat.mul_le_mul_right _ (Nat.le_trans hlen hn))

theorem reaches_guarded {scope : Scope} {item : Value} {name : Text} {negated : Bool} {opener : Nat}
    {elseIndex : Option Int} {endIndex pc : Int} {place : Position} {yes no : Outcome}
    (ho : m.program.ops[opener]? =
      some ⟨place, .branch negated (scope.resolve name) elseIndex endIndex⟩)
    (hs : Numbered scope.frames) (hpc : s.pc = opener) (hb : m.base s scope.depth = .ok item)
    (hyes : ∀ s' : State, s'.pc = (opener + 1 : Nat) → s.Agree scope.depth s' →
      m.Reaches n scope.depth s' pc yes)
    (hno : ∀ s' : State, s'.pc = elseIndex.getD endIndex + 1 → s.Agree scope.depth s' →
      m.Reaches n scope.depth s' pc no) :
    m.Reaches (n + 1) scope.depth s pc
      (item.guards negated name >>= fun passes => if passes then yes else no) := by
  have hperform := perform_branch_eq hs hb negated name elseIndex endIndex
  cases hg : item.guards negated name with
  | error e =>
      rw [hg] at hperform
      exact (Reaches.fail (step_of_error ho hpc hperform)).mono (by omega)
  | ok passes =>
      rw [hg] at hperform
      cases passes with
      | true =>
          refine Reaches.step (step_of_ok ho hpc hperform) rfl (.refl _ _) (hyes _ ?_ (.refl _ _))
          simp [State.advance, State.goto, hpc]
      | false =>
          exact Reaches.step (step_of_ok ho hpc hperform) rfl (.refl _ _) (hno _ rfl (.refl _ _))

theorem reaches_finish {negated : Bool} {finish opener : Nat} {place : Position}
    (hf : m.program.ops[finish]? = some ⟨place, .finish (BlockKind.guarded negated).word opener⟩)
    (hpc : s.pc = finish) : m.Reaches 1 depth s (finish + 1 : Nat) (.ok []) := by
  have hperform :
      m.perform s (.finish (BlockKind.guarded negated).word opener) = .ok s.advance := by
    cases negated <;> rfl
  refine Reaches.put (step_of_ok hf hpc hperform) ?_ (List.append_nil _).symm (.refl _ _)
  simp [State.advance, State.goto, hpc]

/-- The code of a body does what the body means. -/
theorem reaches_code (b : Body) {start : Nat} {scope : Scope} {item : Value}
    (hp : m.program.HasCode start (b.code start scope)) (hs : Numbered scope.frames)
    (hpc : s.pc = start) (hb : m.base s scope.depth = .ok item) (hn : item.reach ≤ n) :
    m.Reaches (b.steps n) scope.depth s (start + b.size : Nat) (b.meaning m.escapers item) := by
  -- the bodies in a loop stand in another scope and are run for other items
  induction b generalizing start scope s item with
  | empty => exact Reaches.refl hpc
  | text before place value ih =>
      obtain ⟨h₁, h₂⟩ := Body.code_text hp
      refine (ih h₁ hs hpc hb hn).append (Nat.le_refl _) fun s₁ hpc₁ ha => ?_
      refine Reaches.put (step_of_ok h₂ hpc₁ rfl) ?_ (State.written_put s₁ value) (.refl _ _)
      simp [State.advance, State.goto, State.put, hpc₁, Body.size, Int.add_assoc]
  | output before place name escape ih =>
      obtain ⟨h₁, h₂⟩ := Body.code_output hp
      refine (ih h₁ hs hpc hb hn).append (Nat.le_refl _) fun s₁ hpc₁ ha => ?_
      have hout := output_eq hs ((base_of_agree ha).trans hb) name escape
      cases hshown : item.shown m.escapers name escape with
      | error e =>
          rw [hshown] at hout
          exact Reaches.fail (step_of_error h₂ hpc₁ hout)
      | ok t =>
          rw [hshown] at hout
          refine Reaches.put (step_of_ok h₂ hpc₁ hout) ?_ (State.written_put s₁ t) (.refl _ _)
          simp [State.advance, State.goto, State.put, hpc₁, Body.size, Int.add_assoc]
  | branch before place negated name body close ih₁ ih₂ =>
      obtain ⟨h₁, h₂, h₃, h₄⟩ := Body.code_branch hp
      rw [Body.size, show start + (before.size + body.size + 2) =
        start + before.size + 1 + body.size + 1 by omega]
      refine (ih₁ h₁ hs hpc hb hn).append (Nat.le_refl _) fun s₁ hpc₁ ha => ?_
      have hb₁ := (base_of_agree ha).trans hb
      refine reaches_guarded h₂ hs hpc₁ hb₁ (fun s₂ hpc₂ ha₂ => ?_) (fun s₂ hpc₂ ha₂ => ?_)
      · have hb₂ := (base_of_agree ha₂).trans hb₁
        rw [← Outcome.append_nil (body.meaningBy ..)]
        exact (ih₂ h₃ hs hpc₂ hb₂ hn).append (Nat.le_refl _) fun s₃ hpc₃ _ => reaches_finish h₄ hpc₃
      · exact (Reaches.refl hpc₂).mono (Nat.zero_le _)
  | choice before place negated name body turn other close ih₁ ih₂ ih₃ =>
      obtain ⟨h₁, h₂, h₃, h₄, h₅, h₆⟩ := Body.code_choice hp
      rw [Body.size, show start + (before.size + body.size + other.size + 3) =
        start + before.size + 1 + body.size + 1 + other.size + 1 by omega]
      refine (ih₁ h₁ hs hpc hb hn).append (Nat.le_refl _) fun s₁ hpc₁ ha => ?_
      have hb₁ := (base_of_agree ha).trans hb
      refine reaches_guarded h₂ hs hpc₁ hb₁ (fun s₂ hpc₂ ha₂ => ?_) (fun s₂ hpc₂ ha₂ => ?_)
      · have hb₂ := (base_of_agree ha₂).trans hb₁
        rw [← Outcome.append_nil (body.meaningBy ..)]
        have h := (ih₂ h₃ hs hpc₂ hb₂ hn).append (Nat.le_refl _) fun s₃ hpc₃ _ =>
          Reaches.put (t := []) (step_of_ok h₄ hpc₃ rfl) rfl (List.append_nil _).symm (.refl _ _)
        exact h.mono (by omega)
      · have hb₂ := (base_of_agree ha₂).trans hb₁
        rw [← Outcome.append_nil (other.meaningBy ..)]
        have h := (ih₃ h₅ hs hpc₂ hb₂ hn).append (Nat.le_refl _) fun s₃ hpc₃ _ =>
          reaches_finish h₆ hpc₃
        exact h.mono (by omega)
  | loop before place name body close ih₁ ih₂ =>
      obtain ⟨h₁, h₂, h₃, h₄⟩ := Body.code_loop hp
      rw [Body.size, show start + (before.size + body.size + 2) =
        start + before.size + 1 + body.size + 1 by omega]
      refine (ih₁ h₁ hs hpc hb hn).append (Nat.le_refl _) fun s₁ hpc₁ ha => ?_
      have hb₁ := (base_of_agree ha).trans hb
      have hpush : (scope.push name).depth = scope.depth + 1 := by simp [Scope.push, Scope.depth]
      refine reaches_loop h₂ h₄ hs hpc₁ hb₁ hn fun s₂ v hpc₂ hb₂ hv => ?_
      rw [← hpush] at hb₂ ⊢
      exact ih₂ h₃ (Body.numbered_push hs) hpc₂ hb₂ hv

end Machine.Setup

/-! ## Sequences that can be counted -/

namespace Body

variable [Traits]

/-- If no sequence is too long to be counted, the loops of a body go through them. -/
theorem meaning_eq_of_countable (b : Body) (escapers : EscapeTable) {item : Value}
    (h : item.reach ≤ Sequence.maxLength) :
    b.meaningBy Sequence.concatCounted escapers item =
      b.meaningBy Sequence.concat escapers item := by
  induction b generalizing item with
  | empty => rfl
  | text before place value ih => rw [meaningBy, meaningBy, ih h]
  | output before place name escape ih => rw [meaningBy, meaningBy, ih h]
  | branch before place negated name body close ih₁ ih₂ =>
      rw [meaningBy, meaningBy, ih₁ h, ih₂ h]
  | choice before place negated name body turn other close ih₁ ih₂ ih₃ =>
      rw [meaningBy, meaningBy, ih₁ h, ih₂ h, ih₃ h]
  | loop before place name body close ih₁ ih₂ =>
      rw [meaningBy, meaningBy, ih₁ h]
      cases hseq : item.sequenceAt name with
      | error e => rfl
      | ok items =>
          obtain ⟨hlen, hreach⟩ := Value.sequenceAt_le hseq
          refine congrArg (Outcome.append _) ?_
          show items.concatCounted _ = items.concat _
          rw [Sequence.concatCounted_eq_concat (Nat.le_trans hlen h)]
          exact Sequence.each_congr fun v hv => ih₂ (Nat.le_trans (hreach v hv) h)

end Body

/-! ## Whole runs -/

namespace Program

open Machine Machine.Setup

theorem size_eq {p : Program} {b : Body} (hp : p.ops.toList = b.code 0 .root) :
    p.size = b.size := by
  rw [← b.length_code 0 .root, ← hp, Array.length_toList, size]

theorem steps_le_of_code {p : Program} {b : Body} (hp : p.ops.toList = b.code 0 .root) (n : Nat) :
    b.steps n ≤ p.size * Nat.pow (n + 1) p.loopCount := by
  have hloops : p.loopCount = b.loops := by
    rw [← b.countP_code 0 .root, ← hp, Array.countP_toList, loopCount]
  rw [size_eq hp, hloops]
  exact b.steps_le n (Nat.le_refl b.loops)

variable [Traits]

/-- A run has steps enough for a body, and one more to see its end. -/
theorem steps_lt_stepBound {p : Program} {b : Body} (hp : p.ops.toList = b.code 0 .root)
    (data : Value) (escapers : EscapeTable) :
    b.steps data.reach < stepBound ⟨p, data, escapers⟩ := by
  have hsteps := steps_le_of_code hp data.reach
  have hmore : p.size * Nat.pow (data.reach + 1) p.loopCount ≤
      (2 * p.size + 1) * Nat.pow (data.reach + 1) p.loopCount :=
    Nat.mul_le_mul_right _ (by omega)
  rw [stepBound]
  exact Nat.lt_succ_of_le (Nat.le_trans hsteps hmore)

theorem run_eq_meaning {m : Setup} {b : Body} {fuel : Nat}
    (hp : m.program.ops.toList = b.code 0 .root) (hfuel : b.steps m.data.reach < fuel) :
    m.run fuel .initial = some (b.meaning m.escapers m.data) := by
  have hsize : m.program.size = b.size := size_eq hp
  have hrun : m.Reaches (b.steps m.data.reach) Scope.root.depth .initial (0 + b.size : Nat)
      (b.meaning m.escapers m.data) :=
    reaches_code b (.whole hp) (fun n f hf => by cases hf) rfl rfl (Nat.le_refl _)
  cases hmeaning : b.meaning m.escapers m.data with
  | error e =>
      rw [hmeaning] at hrun
      obtain ⟨k, hk, herr⟩ := hrun
      obtain ⟨rest, rfl⟩ : ∃ rest, fuel = rest + k := ⟨fuel - k, by omega⟩
      exact herr rest
  | ok t =>
      rw [hmeaning] at hrun
      obtain ⟨k, s, hk, hsteps, hpc, hwritten, -⟩ := hrun
      -- the last step sees that there is no operation left
      obtain ⟨rest, rfl⟩ : ∃ rest, fuel = rest + 1 + k := ⟨fuel - 1 - k, by omega⟩
      have hend : m.step s = .finished s.written := by
        rw [step, if_pos (by omega)]
        rfl
      rw [hsteps.run_eq, run, hend]
      exact congrArg (some ∘ Except.ok) hwritten

/-- The layout of a body puts out what the body means. -/
theorem execute_eq_meaning {p : Program} {b : Body} (hp : p.ops.toList = b.code 0 .root)
    (data : Value) (escapers : EscapeTable) :
    p.execute data escapers = b.meaning escapers data := by
  have hrun := run_eq_meaning (m := ⟨p, data, escapers⟩) hp (steps_lt_stepBound hp data escapers)
  exact congrArg (Option.getD · (.error .endless)) hrun

end Program

namespace Compilation

section

variable [Traits] {c : Compilation}

/-- **A program puts out what its template means.**  Well-bracketed tokens compile, and for all
data and escapers the program has the outcome of their tree, where a loop counts its items after
the first one; for data whose sequences can be counted that makes no difference. -/
theorem execute_compile_eq_meaning {body : Body} {tokens : List Token} (hs : body.Spells tokens) :
    ∃ p, (c.compile tokens).result = .ok p ∧ ∀ (data : Value) (escapers : EscapeTable),
      p.execute data escapers = body.meaningBy Sequence.concatCounted escapers data ∧
      (data.reach ≤ Sequence.maxLength →
        p.execute data escapers = body.meaningBy Sequence.concat escapers data) := by
  obtain ⟨p, hp, hcode⟩ := exists_compile_of_spells (c := c) hs
  refine ⟨p, hp, fun data escapers => ?_⟩
  have hmeaning :
      p.execute data escapers = body.meaningBy Sequence.concatCounted escapers data := by
    rw [Program.execute_eq_meaning hcode, Body.meaning, Body.meaningBy_join]
    exact Outcome.nil_append _
  exact ⟨hmeaning, fun hreach => hmeaning.trans (body.meaning_eq_of_countable escapers hreach)⟩

end

attribute [local instance] Traits.bare

/-- A loop over rows with a branch on each. -/
theorem execute_compile_rows :
    let c : Compilation := ⟨false, none, .outermost none, .null⟩
    let tokens : List Token :=
      [⟨.opening .loopBlock "rows", ⟨1, 0⟩, .plain⟩, ⟨.opening .ifBlock "a", ⟨1, 17⟩, .plain⟩,
        ⟨.output "a.b", ⟨1, 33⟩, .html⟩, ⟨.otherwise, ⟨1, 47⟩, .plain⟩,
        ⟨.text "-", ⟨1, 57⟩, .plain⟩, ⟨.closing "if", ⟨1, 58⟩, .plain⟩,
        ⟨.text ";", ⟨1, 68⟩, .plain⟩, ⟨.closing "loop", ⟨1, 69⟩, .plain⟩]
    let branch : Body :=
      .choice .empty ⟨1, 17⟩ false "a" (.output .empty ⟨1, 33⟩ "a.b" .html) ⟨1, 47⟩
        (.text .empty ⟨1, 57⟩ "-") ⟨1, 58⟩
    let body : Body := .loop .empty ⟨1, 0⟩ "rows" (.text branch ⟨1, 68⟩ ";") ⟨1, 69⟩
    let row : Value := .dict [(.text "a", .dict [(.text "b", .text "<")])]
    let data : Value := .dict [(.text "rows", .list [row, .null, row])]
    body.Spells tokens ∧
    body.meaningBy Sequence.concat .standard data = .ok "&lt;;-;&lt;;" ∧
    ∃ p, (c.compile tokens).result = .ok p ∧ p.execute data .standard = .ok "&lt;;-;&lt;;" := by
  intro c tokens branch body row data
  have hbranch : branch.Spells ((tokens.drop 1).take 5) :=
    .choice .empty (o := tokens[1]) rfl (.output .empty (t := tokens[2]) rfl)
      (e := tokens[3]) rfl (.text .empty (t := tokens[4]) rfl) (c := tokens[5]) rfl
  have hbody : body.Spells tokens :=
    .loop .empty (o := tokens[0]) rfl (hbranch.text (t := tokens[6]) rfl) (c := tokens[7]) rfl
  have hmeaning : body.meaningBy Sequence.concat .standard data = .ok "&lt;;-;&lt;;" := by rfl
  obtain ⟨p, hp, h⟩ := execute_compile_eq_meaning (c := c) hbody
  exact ⟨hbody, hmeaning, p, hp, ((h data .standard).2 (by decide)).trans hmeaning⟩

/-- A sequence too long to be counted ends its loop after the first item. -/
theorem execute_overlong_loop :
    let c : Compilation := ⟨false, none, .outermost none, .null⟩
    let tokens : List Token :=
      [⟨.opening .loopBlock "r", ⟨1, 0⟩, .plain⟩, ⟨.closing "loop", ⟨1, 17⟩, .plain⟩]
    let body : Body := .loop .empty ⟨1, 0⟩ "r" .empty ⟨1, 17⟩
    let data : Value := .dict [(.text "r", .range 0 9223372036854775808 1)]
    body.Spells tokens ∧
    body.meaningBy Sequence.concat .standard data = .ok [] ∧
    ∃ p, (c.compile tokens).result = .ok p ∧ p.execute data .standard = .error .lengthOverflow := by
  intro c tokens body data
  have hbody : body.Spells tokens :=
    .loop .empty (o := tokens[0]) rfl .empty (c := tokens[1]) rfl
  have hloop : ∀ visit, body.meaningBy visit .standard data =
      Outcome.append (.ok []) (visit (.range 0 9223372036854775808 1) fun _ => .ok []) :=
    fun visit => rfl
  obtain ⟨p, hp, hcode⟩ := exists_compile_of_spells (c := c) hbody
  refine ⟨hbody, ?_, p, hp, ?_⟩
  · rw [hloop, Outcome.nil_append]
    exact Sequence.each_nil (fun v => rfl) _
  · rw [Program.execute_eq_meaning hcode, Body.meaning, Body.meaningBy_join, hloop,
      Outcome.nil_append, Body.meaningBy, Outcome.nil_append]
    exact Sequence.concatCounted_of_overlong (by decide) fun v => ⟨[], rfl⟩

end Compilation

end TagTemplate
