/-
# Loops — the loops being run are those around the position

The evaluator keeps its loops in a table, by number.  In a program that is well
linked the table holds, at every state of a run, just the loops that the position
is in (`p.framesEntered`): `m.InLoops frames s` says that

    the frames are numbered 1, 2, …, n, and the loops being run have these numbers;
    each is at one of its items;
    its items are what its path leads to from the current item of the loop around it.

So the table says again, loop by loop, what the compiler wrote into the frames of
references.  It is kept by the four ways of changing the table or leaving it alone

    nothing changed           `InLoops.of_loops`
    a loop started            `InLoops.enter`       one frame more
    the next item of a loop   `InLoops.next`
    a loop left               `InLoops.leave`       one frame less

and which of these goes with which change of the position is said where the two are
put together (`placed_of_moves`).
-/
import TagTemplate.Proofs.Layout.Enclosing
import TagTemplate.Proofs.Machine.Moves
import TagTemplate.Proofs.Meaning.Run

namespace TagTemplate

open Program

/-! ## Items along frames -/

section

variable [Traits]

/-- The item at an index of the sequence that a path leads to. -/
def Value.itemAlong? (v : Value) (path : List Text) (index : Nat) : Option Value := do
  let found ← (v.lookupPath path).toOption
  let items ← found.sequence?
  items.get? index

/-- The item that frames lead to from a value, each at the index of its loop: the value of
`data.rows[i1].cells[i2]`. -/
def Value.along? (data : Value) (index? : Int → Option Nat) (frames : List Frame) : Option Value :=
  frames.foldlM (fun v f => do v.itemAlong? f.path (← index? f.slot)) data

theorem Value.along?_congr {data : Value} {index? index?' : Int → Option Nat} {frames : List Frame}
    (h : ∀ f ∈ frames, index? f.slot = index?' f.slot) :
    data.along? index? frames = data.along? index?' frames := by
  induction frames generalizing data with
  | nil => rfl
  | cons f frames ih =>
      have hf := h f List.mem_cons_self
      simp only [along?, List.foldlM_cons, hf]
      refine congrArg _ (funext fun v => ?_)
      exact ih fun g hg => h g (List.mem_cons_of_mem f hg)

theorem Value.along?_snoc {data item found : Value} {index? : Int → Option Nat}
    {frames : List Frame} {f : Frame} {items : Sequence} {index : Nat}
    (h : data.along? index? frames = some item)
    (hfound : item.lookupPath f.path = .ok found) (hitems : found.sequence? = some items)
    (hindex : index? f.slot = some index) :
    data.along? index? (frames ++ [f]) = items.get? index := by
  rw [along?] at h
  rw [along?, List.foldlM_append, h]
  simp [itemAlong?, hfound, hitems, hindex, Except.toOption]

end

/-! ## Numbers of loops -/

namespace Program

theorem Numbered.nil : Numbered [] := fun n f hf => by cases hf

theorem Numbered.snoc {frames : List Frame} {f : Frame} (h : Numbered frames)
    (hf : f.slot = frames.length + 1) : Numbered (frames ++ [f]) := by
  intro n g hg
  rw [List.getElem?_append] at hg
  split at hg
  · exact h n g hg
  · next hn =>
      rw [List.getElem?_singleton] at hg
      split at hg <;> cases hg
      omega

theorem Numbered.outer {frames : List Frame} {f : Frame} (h : Numbered (frames ++ [f])) :
    Numbered frames := by
  intro n g hg
  have hlt := (List.getElem?_eq_some_iff.mp hg).1
  exact h n g (by rw [List.getElem?_append_left hlt, hg])

theorem Numbered.slot_last {frames : List Frame} {f : Frame} (h : Numbered (frames ++ [f])) :
    f.slot = frames.length + 1 :=
  h frames.length f (by simp)

theorem Numbered.slot_le {frames : List Frame} {f : Frame} (h : Numbered frames)
    (hf : f ∈ frames) : 1 ≤ f.slot ∧ f.slot ≤ frames.length := by
  obtain ⟨n, hn⟩ := List.mem_iff_getElem?.mp hf
  have hslot := h n f hn
  have hlt := (List.getElem?_eq_some_iff.mp hn).1
  omega

end Program

theorem Sequence.exists_get? {s : Sequence} {i : Nat} (h : i < s.length) :
    ∃ v, s.get? i = some v := by
  rw [s.get?_eq]
  exact ⟨_, List.getElem?_eq_getElem (by rwa [s.length_values])⟩

namespace Machine

namespace State

/-- The index of the current item of the loop with a number. -/
def index? (s : State) (slot : Int) : Option Nat := (s.loop? slot).map (·.index)

theorem loop?_leave (s : State) (slot : Int) : (s.leave slot).loop? slot = none := by
  obtain ⟨pc, output, loops⟩ := s
  simp only [loop?, leave]
  induction loops with
  | nil => rfl
  | cons l loops ih =>
      obtain ⟨k, l⟩ := l
      by_cases hk : k = slot
      · rw [List.filter_cons_of_neg (by simp [hk])]
        exact ih
      · have hne : (slot == k) = false := beq_false_of_ne (Ne.symm hk)
        rw [List.filter_cons_of_pos (by simpa using hk), List.lookup_cons, hne]
        exact ih

theorem loops_eq_nil {s : State} (h : ∀ slot, s.loop? slot = none) : s.loops = [] := by
  obtain ⟨pc, output, loops⟩ := s
  cases loops with
  | nil => rfl
  | cons l loops =>
      have hl := h l.1
      simp [loop?] at hl

end State

namespace Setup

variable [Traits] {m : Setup} {s s' : State} {frames : List Frame} {i : Nat}

/-! ## Loops of frames -/

/-- Each loop is at one of its items, which are what its path leads to from the current item of
the loop around it. -/
def Holds (m : Setup) (frames : List Frame) (s : State) : Prop :=
  ∀ (outer : List Frame) (f : Frame) (inner : List Frame), frames = outer ++ f :: inner →
    ∃ (l : LoopState) (item found : Value), s.loop? f.slot = some l ∧ l.index < l.items.length ∧
      m.data.along? s.index? outer = some item ∧ item.lookupPath f.path = .ok found ∧
      found.sequence? = some l.items

/-- The loops being run are those of the frames, which are given outermost first. -/
structure InLoops (m : Setup) (frames : List Frame) (s : State) : Prop where
  numbered : Numbered frames
  live : ∀ slot : Int, (∃ l, s.loop? slot = some l) ↔ 1 ≤ slot ∧ slot ≤ frames.length
  holds : m.Holds frames s

theorem Holds.outer {f : Frame} (h : m.Holds (frames ++ [f]) s) : m.Holds frames s := by
  intro outer g inner hg
  exact h outer g (inner ++ [f]) (by rw [hg, List.append_assoc, List.cons_append])

theorem Holds.snoc {f : Frame} {l : LoopState} {item found : Value} (h : m.Holds frames s)
    (hl : s.loop? f.slot = some l) (hindex : l.index < l.items.length)
    (hitem : m.data.along? s.index? frames = some item)
    (hfound : item.lookupPath f.path = .ok found) (hitems : found.sequence? = some l.items) :
    m.Holds (frames ++ [f]) s := by
  intro outer g inner hg
  rcases inner.eq_nil_or_concat' with rfl | ⟨inner, f', rfl⟩
  · obtain ⟨rfl, h'⟩ := List.append_inj' hg rfl
    cases h'
    exact ⟨l, item, found, hl, hindex, hitem, hfound, hitems⟩
  · rw [← List.cons_append, ← List.append_assoc] at hg
    obtain ⟨hframes, -⟩ := List.append_inj' hg rfl
    exact h outer g inner hframes

theorem along?_of_agree (hn : Numbered frames) (ha : s.Agree frames.length s') :
    m.data.along? s'.index? frames = m.data.along? s.index? frames := by
  refine Value.along?_congr fun f hf => ?_
  rw [State.index?, State.index?, ha f.slot (hn.slot_le hf).2]

theorem Holds.of_agree (h : m.Holds frames s) (hn : Numbered frames)
    (ha : s.Agree frames.length s') : m.Holds frames s' := by
  intro outer f inner hf
  obtain ⟨l, item, found, hl, hindex, hitem, hrest⟩ := h outer f inner hf
  have hmem : ∀ g ∈ outer ++ [f], g ∈ frames := by
    intro g hg
    rw [hf]
    simp only [List.mem_append, List.mem_cons, List.not_mem_nil, or_false] at hg ⊢
    exact hg.imp_right .inl
  have hindices : m.data.along? s'.index? outer = m.data.along? s.index? outer := by
    refine Value.along?_congr fun g hg => ?_
    rw [State.index?, State.index?,
      ha g.slot (hn.slot_le (hmem g (List.mem_append_left _ hg))).2]
  refine ⟨l, item, found, ?_, hindex, hindices.trans hitem, hrest⟩
  rw [ha f.slot (hn.slot_le (hmem f (by simp))).2, hl]

theorem InLoops.exists_loop {f : Frame} (h : m.InLoops frames s) (hf : f ∈ frames) :
    ∃ l, s.loop? f.slot = some l :=
  (h.live f.slot).mpr (h.numbered.slot_le hf)

theorem InLoops.index_lt {slot : Int} {l : LoopState} (h : m.InLoops frames s)
    (hl : s.loop? slot = some l) : l.index < l.items.length := by
  have hslot := (h.live slot).mp ⟨l, hl⟩
  obtain ⟨n, hn⟩ : ∃ n : Nat, slot = n + 1 := ⟨(slot - 1).toNat, by omega⟩
  have hlt : n < frames.length := by omega
  have hsplit : frames = frames.take n ++ frames[n] :: frames.drop (n + 1) := by simp
  obtain ⟨l', item, found, hl', hindex, -⟩ := h.holds _ _ _ hsplit
  rw [h.numbered n _ (List.getElem?_eq_getElem hlt), ← hn, hl] at hl'
  cases hl'
  exact hindex

/-- The frames lead to the value that names are looked up from. -/
theorem InLoops.exists_item (h : m.InLoops frames s) :
    ∃ item, m.data.along? s.index? frames = some item ∧ m.base s frames.length = .ok item := by
  rcases frames.eq_nil_or_concat' with rfl | ⟨outer, f, rfl⟩
  · exact ⟨m.data, rfl, rfl⟩
  · obtain ⟨l, item, found, hl, hindex, hitem, hfound, hitems⟩ := h.holds _ _ [] rfl
    obtain ⟨v, hv⟩ := Sequence.exists_get? hindex
    have hslot : ((outer ++ [f]).length : Int) = f.slot := by
      rw [h.numbered.slot_last, List.length_append]
      rfl
    refine ⟨v, ?_, ?_⟩
    · have hindex : s.index? f.slot = some l.index := by rw [State.index?, hl, Option.map_some]
      rw [Value.along?_snoc hitem hfound hitems hindex, hv]
    · have hne : f.slot ≠ 0 := by
        have hlast := h.numbered.slot_last
        omega
      rw [hslot, base, if_neg hne, hl]
      simp only [hv]

/-! ## What becomes of the loops -/

theorem inLoops_initial : m.InLoops [] .initial where
  numbered := .nil
  live slot := by
    constructor
    · rintro ⟨l, hl⟩
      cases hl
    · rintro ⟨h₁, h₂⟩
      simp only [List.length_nil] at h₂
      omega
  holds outer f inner h := by simp at h

theorem InLoops.of_loops (h : m.InLoops frames s) (hs : s'.loops = s.loops) :
    m.InLoops frames s' := by
  have ha : ∀ slot, s'.loop? slot = s.loop? slot := fun slot => by rw [State.loop?, hs, State.loop?]
  exact ⟨h.numbered, fun slot => by rw [ha, h.live],
    h.holds.of_agree h.numbered fun slot _ => ha slot⟩

theorem InLoops.enter {f : Frame} {items : Sequence} {item found : Value} (h : m.InLoops frames s)
    (hslot : f.slot = frames.length + 1) (hitem : m.data.along? s.index? frames = some item)
    (hfound : item.lookupPath f.path = .ok found) (hitems : found.sequence? = some items)
    (hlength : 0 < items.length) : m.InLoops (frames ++ [f]) (s.enter f.slot ⟨items, 0⟩) := by
  have ha : s.Agree frames.length (s.enter f.slot ⟨items, 0⟩) := State.agree_enter _ (by omega)
  refine ⟨h.numbered.snoc hslot, fun slot => ?_, ?_⟩
  · rw [List.length_append, List.length_singleton]
    by_cases hs : slot = f.slot
    · subst hs
      exact ⟨fun _ => by omega, fun _ => ⟨_, s.loop?_enter _ _⟩⟩
    · rw [s.loop?_enter_ne _ hs, h.live]
      omega
  · exact (h.holds.of_agree h.numbered ha).snoc (s.loop?_enter _ _) hlength
      ((along?_of_agree h.numbered ha).trans hitem) hfound hitems

theorem InLoops.next {f : Frame} {l : LoopState} (h : m.InLoops (frames ++ [f]) s)
    (hl : s.loop? f.slot = some l) (hindex : l.index + 1 < l.items.length) :
    m.InLoops (frames ++ [f]) (s.enter f.slot ⟨l.items, l.index + 1⟩) := by
  have hslot := h.numbered.slot_last
  have ha : s.Agree frames.length (s.enter f.slot ⟨l.items, l.index + 1⟩) :=
    State.agree_enter _ (by omega)
  obtain ⟨l', item, found, hl', -, hitem, hfound, hitems⟩ := h.holds _ _ [] rfl
  rw [hl] at hl'
  cases hl'
  refine ⟨h.numbered, fun slot => ?_, ?_⟩
  · by_cases hs : slot = f.slot
    · subst hs
      rw [← h.live]
      exact ⟨fun _ => ⟨l, hl⟩, fun _ => ⟨_, s.loop?_enter _ _⟩⟩
    · rw [s.loop?_enter_ne _ hs, h.live]
  · exact (h.holds.outer.of_agree h.numbered.outer ha).snoc (s.loop?_enter _ _) hindex
      ((along?_of_agree h.numbered.outer ha).trans hitem) hfound hitems

theorem InLoops.leave {f : Frame} (h : m.InLoops (frames ++ [f]) s) :
    m.InLoops frames (s.leave f.slot) := by
  have hslot := h.numbered.slot_last
  have ha : s.Agree frames.length (s.leave f.slot) := State.agree_leave (by omega)
  refine ⟨h.numbered.outer, fun slot => ?_, h.holds.outer.of_agree h.numbered.outer ha⟩
  by_cases hs : slot = f.slot
  · subst hs
    rw [s.loop?_leave]
    constructor
    · rintro ⟨l, hl⟩
      cases hl
    · intro hle
      omega
  · rw [s.loop?_leave_ne hs, h.live, List.length_append, List.length_singleton]
    omega

end Setup

end Machine

end TagTemplate
