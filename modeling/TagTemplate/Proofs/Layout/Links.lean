/-
# Links — every program that is compiled is well linked

What a well linked program is, said on its operations alone, without the tree it
came from (`Program.WellLinked`):

    opener i        its end j is after it, and refers back to it
    end j           its start is an opener of its kind that ends there
    i < i' < j      a block that opens within a block ends within it
    else index e    an else between the two, and no block around it is further in
    else            one opener alone has it
    indices         none is left unlinked
    loop            its number is one more than there are loops around it
    ref             its frames are those of the loops around it, numbered from one

A body's code fills a range of indices.  What is said of one operation in a range
(`LinkedAt`) is kept when the range is put into a larger one, which makes the
proof an induction over the body: ranges side by side, and a range between an
opener and an end.
-/
import TagTemplate.Proofs.Layout.Outline

namespace TagTemplate

/-! ## What it says -/

namespace Action

/-- The kind of block that the operation opens. -/
def opens? : Action → Option BlockKind
  | branch negated .. => some (.guarded negated)
  | loop .. => some .loopBlock
  | _ => none

def endIndex? : Action → Option Int
  | branch _ _ _ endIndex | alternative endIndex | loop _ _ endIndex => some endIndex
  | _ => none

def elseIndex? : Action → Option Int
  | branch _ _ elseIndex _ => elseIndex
  | _ => none

/-- What the operation refers to. -/
def ref? : Action → Option Ref
  | output ref _ | branch _ ref _ _ | loop ref _ _ => some ref
  | _ => none

def indices : Action → List Int
  | branch _ _ elseIndex endIndex => elseIndex.toList ++ [endIndex]
  | alternative endIndex | loop _ _ endIndex => [endIndex]
  | finish _ startIndex => [startIndex]
  | _ => []

end Action

namespace Program

/-- What the operation at an index does. -/
def actionAt? (p : Program) (i : Nat) : Option Action := p.ops[i]?.map (·.action)

/-- The operation at `i` opens a block that ends at `j`. -/
def Block (p : Program) (kind : BlockKind) (i j : Nat) : Prop :=
  ∃ a, p.actionAt? i = some a ∧ a.opens? = some kind ∧ a.endIndex? = some (j : Int)

/-- The operation at `i` opens a block with an else at `e`. -/
def HasElse (p : Program) (i e : Nat) : Prop :=
  ∃ a, p.actionAt? i = some a ∧ a.elseIndex? = some (e : Int)

/-- The frame of the operation at `l`, if it is a loop that ends after `i`. -/
def frameAround? (p : Program) (i l : Nat) : Option Frame :=
  match p.actionAt? l with
  | some (.loop ref slot endIndex) => if i < endIndex then some ⟨ref.path, slot⟩ else none
  | _ => none

/-- The frames of the loops that start before `i` and end after it. -/
def framesAround (p : Program) (i : Nat) : List Frame :=
  (List.range i).filterMap (p.frameAround? i)

/-- The frames have the numbers 1, 2, …, n. -/
def Numbered (frames : List Frame) : Prop :=
  ∀ (n : Nat) (f : Frame), frames[n]? = some f → f.slot = n + 1

/-- Openers, elses, ends, loops and references fit each other. -/
structure WellLinked (p : Program) : Prop where
  opener : ∀ {i : Nat} {a : Action} {kind : BlockKind},
    p.actionAt? i = some a → a.opens? = some kind →
    ∃ j : Nat, a.endIndex? = some (j : Int) ∧ i < j ∧ p.actionAt? j = some (.finish kind.word i)
  finish : ∀ {j : Nat} {word : Text} {start : Int}, p.actionAt? j = some (.finish word start) →
    ∃ (kind : BlockKind) (i : Nat), word = kind.word ∧ start = i ∧ p.Block kind i j
  nested : ∀ {i j i' j' : Nat} {kind kind' : BlockKind}, p.Block kind i j → p.Block kind' i' j' →
    i < i' → i' < j → j' < j
  elseIndex : ∀ {i : Nat} {a : Action} {index : Int},
    p.actionAt? i = some a → a.elseIndex? = some index →
    ∃ (kind : BlockKind) (e j : Nat), index = e ∧ p.Block kind i j ∧ i < e ∧ e < j ∧
      p.actionAt? e = some (.alternative j) ∧
      ∀ {kind' : BlockKind} {i' j' : Nat}, p.Block kind' i' j' → i' < e → e < j' → i' ≤ i
  alternative : ∀ {e : Nat} {endIndex : Int}, p.actionAt? e = some (.alternative endIndex) →
    ∃ i, p.HasElse i e ∧ ∀ i', p.HasElse i' e → i' = i
  linked : ∀ {i : Nat} {a : Action}, p.actionAt? i = some a → unlinked ∉ a.indices
  slot : ∀ {i : Nat} {ref : Ref} {slot endIndex : Int},
    p.actionAt? i = some (.loop ref slot endIndex) → slot = (p.framesAround i).length + 1
  frames : ∀ {i : Nat} {a : Action} {ref : Ref}, p.actionAt? i = some a → a.ref? = some ref →
    ref.frames = p.framesAround i ∧ Numbered ref.frames

/-! ## One operation in a range -/

variable {p : Program} {lo mid hi i j : Nat} {frames : List Frame} {kind : BlockKind}

/-- The frames of the loops that start from `lo` on and before `i` and end after it. -/
def framesFrom (p : Program) (lo i : Nat) : List Frame :=
  (List.range' lo (i - lo)).filterMap (p.frameAround? i)

/-- The opener at `i` has its end before `hi`, and so have the blocks within its block. -/
def Closes (p : Program) (kind : BlockKind) (i : Nat) (endIndex : Int) (hi : Nat) : Prop :=
  ∃ j : Nat, endIndex = j ∧ i < j ∧ j < hi ∧ p.actionAt? j = some (.finish kind.word i) ∧
    ∀ {kind' : BlockKind} {i' j' : Nat}, i < i' → i' < j → p.Block kind' i' j' → j' < j

/-- The block at `i` has its else, if any, as its own. -/
def Splits (p : Program) (i : Nat) (elseIndex : Option Int) (endIndex : Int) : Prop :=
  ∀ index, elseIndex = some index → ∃ e j : Nat, index = e ∧ endIndex = j ∧ i < e ∧ e < j ∧
    p.actionAt? e = some (.alternative j) ∧
    ∀ {kind' : BlockKind} {i' j' : Nat}, p.Block kind' i' j' → i' < e → e < j' → i' ≤ i

/-- The reference at `i` has the given frames, then those that open from `lo` on. -/
def Framed (p : Program) (lo : Nat) (frames : List Frame) (i : Nat) (ref : Ref) : Prop :=
  ref.frames = frames ++ p.framesFrom lo i ∧ Numbered ref.frames

/-- What holds of the operation at `i` in a range that stands in loops of the given frames. -/
def LinkedAt (p : Program) (lo hi : Nat) (frames : List Frame) (i : Nat) : Prop :=
  match p.actionAt? i with
  | some (.text _) => True
  | some (.output ref _) => p.Framed lo frames i ref
  | some (.branch negated ref elseIndex endIndex) =>
    p.Closes (.guarded negated) i endIndex hi ∧ p.Splits i elseIndex endIndex ∧
      p.Framed lo frames i ref
  | some (.alternative endIndex) =>
    0 ≤ endIndex ∧ ∃ opener, p.HasElse opener i
  | some (.loop ref slot endIndex) =>
    p.Closes .loopBlock i endIndex hi ∧ slot = ref.frames.length + 1 ∧ p.Framed lo frames i ref
  | some (.finish word start) =>
    ∃ (kind : BlockKind) (opener : Nat), word = kind.word ∧ start = opener ∧ p.Block kind opener i
  | some .inert | none => False

/-- Every operation of the range is linked. -/
def LinkedOn (p : Program) (lo hi : Nat) (frames : List Frame) : Prop :=
  ∀ i, lo ≤ i → i < hi → p.LinkedAt lo hi frames i

theorem LinkedAt.widen {lo' hi' : Nat} {frames' : List Frame} (h : p.LinkedAt lo hi frames i)
    (hhi : hi ≤ hi') (hf : frames ++ p.framesFrom lo i = frames' ++ p.framesFrom lo' i) :
    p.LinkedAt lo' hi' frames' i := by
  have closes : ∀ {kind endIndex}, p.Closes kind i endIndex hi → p.Closes kind i endIndex hi' := by
    rintro kind endIndex ⟨j, he, hij, hj, hc, hn⟩
    exact ⟨j, he, hij, Nat.lt_of_lt_of_le hj hhi, hc, hn⟩
  unfold LinkedAt Framed at *
  rw [← hf]
  split at h
  · trivial
  · exact h
  · exact ⟨closes h.1, h.2⟩
  · exact h
  · exact ⟨closes h.1, h.2⟩
  · exact h
  · exact h
  · exact h

theorem LinkedAt.closes (h : p.LinkedAt lo hi frames i) (hb : p.Block kind i j) :
    p.Closes kind i j hi := by
  obtain ⟨a, ha, ho, he⟩ := hb
  unfold LinkedAt at h
  rw [ha] at h
  cases a with
  | branch negated ref elseIndex endIndex => cases ho; cases he; exact h.1
  | loop ref slot endIndex => cases ho; cases he; exact h.1
  | _ => cases ho

theorem LinkedOn.closed (h : p.LinkedOn lo hi frames) (hlo : lo ≤ i) (hhi : i < hi)
    (hb : p.Block kind i j) : j < hi := by
  obtain ⟨j', hj, -, hlt, -⟩ := (h i hlo hhi).closes hb
  omega

/-! ## The frames of loops in ranges -/

theorem framesFrom_self (p : Program) (i : Nat) : p.framesFrom i i = [] := by
  simp [framesFrom]

/-- The loops before an index in a range, and those from it on. -/
theorem framesFrom_split (hlo : lo ≤ mid) (hmid : mid ≤ i) :
    p.framesFrom lo i =
      (List.range' lo (mid - lo)).filterMap (p.frameAround? i) ++ p.framesFrom mid i := by
  have hr : List.range' lo (i - lo) = List.range' lo (mid - lo) ++ List.range' mid (i - mid) := by
    rw [show i - lo = (mid - lo) + (i - mid) by omega, ← List.range'_append_1]
    congr 2
    omega
  rw [framesFrom, hr, List.filterMap_append, framesFrom]

theorem framesFrom_succ (h : lo < i) :
    p.framesFrom lo i = (p.frameAround? i lo).toList ++ p.framesFrom (lo + 1) i := by
  rw [framesFrom_split (Nat.le_succ lo) h]
  congr 1
  rw [show lo.succ - lo = 1 by omega]
  simp only [List.range', List.filterMap_cons, List.filterMap_nil]
  cases p.frameAround? i lo <;> rfl

/-- The loops of a linked range are not around what is after it. -/
theorem LinkedOn.framesFrom_eq (h : p.LinkedOn lo mid frames) (hlo : lo ≤ mid) (hmid : mid ≤ i) :
    p.framesFrom lo i = p.framesFrom mid i := by
  rw [framesFrom_split hlo hmid]
  -- a loop of the range ends in it, and so before `i`
  have hn : ∀ l ∈ List.range' lo (mid - lo), p.frameAround? i l = none := by
    intro l hl
    obtain ⟨hl₁, hl₂⟩ := List.mem_range'_1.mp hl
    have hl₃ : l < mid := by omega
    unfold frameAround?
    split
    · next ref slot endIndex ha =>
        have hl := h l hl₁ hl₃
        unfold LinkedAt at hl
        rw [ha] at hl
        obtain ⟨⟨j, rfl, -, hj, -⟩, -⟩ := hl
        rw [if_neg (by omega)]
    · rfl
  rw [List.filterMap_eq_nil_iff.mpr hn, List.nil_append]

/-! ## Ranges put together -/

theorem LinkedOn.nil (p : Program) (lo : Nat) (frames : List Frame) : p.LinkedOn lo lo frames := by
  intro i hlo hhi
  omega

theorem LinkedOn.append (h₁ : p.LinkedOn lo mid frames) (h₂ : p.LinkedOn mid hi frames)
    (hlo : lo ≤ mid) (hhi : mid ≤ hi) : p.LinkedOn lo hi frames := by
  intro i hi₁ hi₂
  by_cases hm : i < mid
  · exact (h₁ i hi₁ hm).widen hhi rfl
  · have hm : mid ≤ i := Nat.le_of_not_lt hm
    exact (h₂ i hm hi₂).widen (Nat.le_refl hi) (by rw [h₁.framesFrom_eq hlo hm])

theorem LinkedOn.single (h : p.LinkedAt i (i + 1) frames i) : p.LinkedOn i (i + 1) frames := by
  intro k hk₁ hk₂
  obtain rfl : k = i := by omega
  exact h

theorem LinkedOn.closes (h : p.LinkedOn (i + 1) j frames) (hij : i < j)
    (hf : p.actionAt? j = some (.finish kind.word i)) : p.Closes kind i j (j + 1) :=
  ⟨j, rfl, hij, Nat.lt_succ_self j, hf, fun h₁ h₂ hb => h.closed h₁ h₂ hb⟩

theorem LinkedOn.splits {e : Nat} (h : p.LinkedOn (i + 1) e frames) (hie : i < e) (hej : e < j)
    (he : p.actionAt? e = some (.alternative j)) : p.Splits i (some (e : Int)) j := by
  intro index hindex
  refine ⟨e, j, (Option.some.inj hindex).symm, rfl, hie, hej, he, ?_⟩
  intro kind' i' j' hb hi' hj'
  by_cases hlt : i < i'
  · exact absurd (h.closed hlt hi' hb) (Nat.lt_asymm hj')
  · exact Nat.le_of_not_lt hlt

theorem LinkedOn.block {o f : Nat} {extra : List Frame} (ho : p.LinkedAt o (f + 1) frames o)
    (hb : p.Block kind o f) (hf : p.actionAt? f = some (.finish kind.word o))
    (hx : ∀ i, i < f → (p.frameAround? i o).toList = extra)
    (h : p.LinkedOn (o + 1) f (frames ++ extra)) : p.LinkedOn o (f + 1) frames := by
  intro i hi₁ hi₂
  by_cases hio : i = o
  · exact hio ▸ ho
  by_cases hif : i = f
  · subst hif
    unfold LinkedAt
    rw [hf]
    exact ⟨kind, o, rfl, rfl, hb⟩
  · have hlo : o < i := by omega
    have hhi : i < f := by omega
    refine (h i hlo hhi).widen (Nat.le_succ f) ?_
    rw [framesFrom_succ hlo, hx i hhi, List.append_assoc]

theorem LinkedOn.alternative {opener : Nat} (frames : List Frame)
    (h : p.actionAt? i = some (.alternative j)) (ho : p.HasElse opener i) :
    p.LinkedOn i (i + 1) frames := by
  refine .single ?_
  unfold LinkedAt
  rw [h]
  exact ⟨Int.natCast_nonneg j, opener, ho⟩

theorem LinkedOn.guarded {negated : Bool} {ref : Ref} {elseIndex : Option Int}
    (ho : p.actionAt? i = some (.branch negated ref elseIndex j))
    (hf : p.actionAt? j = some (.finish (BlockKind.guarded negated).word i)) (hij : i < j)
    (hs : p.Splits i elseIndex j) (hr : p.Framed i frames i ref)
    (h : p.LinkedOn (i + 1) j frames) : p.LinkedOn i (j + 1) frames := by
  have hx : ∀ k, k < j → (p.frameAround? k i).toList = [] := by
    intro k _
    rw [frameAround?, ho]
    rfl
  refine LinkedOn.block ?_ ⟨_, ho, rfl, rfl⟩ hf hx (by rwa [List.append_nil])
  unfold LinkedAt
  rw [ho]
  exact ⟨h.closes hij hf, hs, hr⟩

theorem LinkedOn.loop {ref : Ref} {slot : Int} (ho : p.actionAt? i = some (.loop ref slot j))
    (hf : p.actionAt? j = some (.finish BlockKind.loopBlock.word i)) (hij : i < j)
    (hs : slot = ref.frames.length + 1) (hr : p.Framed i frames i ref)
    (h : p.LinkedOn (i + 1) j (frames ++ [⟨ref.path, slot⟩])) : p.LinkedOn i (j + 1) frames := by
  have hx : ∀ k, k < j → (p.frameAround? k i).toList = [⟨ref.path, slot⟩] := by
    intro k hk
    simp only [frameAround?, ho]
    rw [if_pos (by omega)]
    rfl
  refine LinkedOn.block ?_ ⟨_, ho, rfl, rfl⟩ hf hx h
  unfold LinkedAt
  rw [ho]
  exact ⟨h.closes hij hf, hs, hr⟩

end Program

namespace Body

open Program

variable {p : Program} {start : Nat} {scope : Scope}

theorem actionAt?_eq {i : Nat} {op : Op} (h : p.ops[i]? = some op) :
    p.actionAt? i = some op.action := by
  rw [Program.actionAt?, h, Option.map_some]

theorem numbered_push {name : Text} (h : Numbered scope.frames) :
    Numbered (scope.push name).frames := by
  intro n f hf
  simp only [Scope.push, List.getElem?_append] at hf
  split at hf
  · exact h n f hf
  · next hn =>
      rw [List.getElem?_singleton] at hf
      split at hf <;> cases hf
      simp [Scope.frameFor, Scope.depth]
      omega

theorem framed_resolve (h : Numbered scope.frames) (i : Nat) (name : Text) :
    p.Framed i scope.frames i (scope.resolve name) := by
  rw [Framed, framesFrom_self, List.append_nil]
  exact ⟨rfl, h⟩

/-- The code of a body is linked wherever it stands. -/
theorem linkedOn (b : Body) (h : p.HasCode start (b.code start scope))
    (hs : Numbered scope.frames) : p.LinkedOn start (start + b.size) scope.frames := by
  induction b generalizing start scope with
  | empty => exact LinkedOn.nil p start _
  | text before place value ih =>
      obtain ⟨h₁, h₂⟩ := code_text h
      refine (ih h₁ hs).append (.single ?_) (Nat.le_add_right ..) (Nat.le_succ _)
      unfold LinkedAt
      rw [actionAt?_eq h₂]
      trivial
  | output before place name escape ih =>
      obtain ⟨h₁, h₂⟩ := code_output h
      refine (ih h₁ hs).append (.single ?_) (Nat.le_add_right ..) (Nat.le_succ _)
      unfold LinkedAt
      rw [actionAt?_eq h₂]
      exact framed_resolve hs ..
  | branch before place negated name body close ih₁ ih₂ =>
      obtain ⟨h₁, h₂, h₃, h₄⟩ := code_branch h
      have hblock := (ih₂ h₃ hs).guarded (actionAt?_eq h₂) (actionAt?_eq h₄) (by omega)
        (by intro _ h; cases h) (framed_resolve hs ..)
      have hall := (ih₁ h₁ hs).append hblock (by omega) (by omega)
      rwa [size, show start + (before.size + body.size + 2) =
        start + before.size + 1 + body.size + 1 by omega]
  | choice before place negated name body turn other close ih₁ ih₂ ih₃ =>
      obtain ⟨h₁, h₂, h₃, h₄, h₅, h₆⟩ := code_choice h
      have hbody := ih₂ h₃ hs
      have hturn := LinkedOn.alternative scope.frames (actionAt?_eq h₄) ⟨_, actionAt?_eq h₂, rfl⟩
      have hother := hturn.append (ih₃ h₅ hs) (by omega) (by omega)
      have hblock := (hbody.append hother (by omega) (by omega)).guarded (actionAt?_eq h₂)
        (actionAt?_eq h₆) (by omega) (hbody.splits (by omega) (by omega) (actionAt?_eq h₄))
        (framed_resolve hs ..)
      have hall := (ih₁ h₁ hs).append hblock (by omega) (by omega)
      rwa [size, show start + (before.size + body.size + other.size + 3) =
        start + before.size + 1 + body.size + 1 + other.size + 1 by omega]
  | loop before place name body close ih₁ ih₂ =>
      obtain ⟨h₁, h₂, h₃, h₄⟩ := code_loop h
      have hblock := (ih₂ h₃ (numbered_push hs)).loop (actionAt?_eq h₂) (actionAt?_eq h₄)
        (by omega) rfl (framed_resolve hs ..)
      have hall := (ih₁ h₁ hs).append hblock (by omega) (by omega)
      rwa [size, show start + (before.size + body.size + 2) =
        start + before.size + 1 + body.size + 1 by omega]

end Body

namespace Program

variable {p : Program} {i : Nat} {a : Action}

theorem linkedOn_of_code {b : Body} (h : p.ops.toList = b.code 0 .root) :
    p.LinkedOn 0 p.size [] := by
  have hlinked := b.linkedOn (.whole h) (p := p) (fun n f hf => by cases hf)
  have hsize : p.size = 0 + b.size := by
    rw [Nat.zero_add, ← b.length_code 0 .root, ← h, Array.length_toList, Program.size]
  exact hsize ▸ hlinked

theorem LinkedOn.exists_action {lo hi : Nat} {frames : List Frame} (h : p.LinkedOn lo hi frames)
    (hlo : lo ≤ i) (hhi : i < hi) : ∃ a, p.actionAt? i = some a ∧ a ≠ .inert := by
  have hi := h i hlo hhi
  unfold LinkedAt at hi
  cases ha : p.actionAt? i with
  | none =>
      rw [ha] at hi
      exact hi.elim
  | some a =>
      refine ⟨a, rfl, ?_⟩
      rintro rfl
      rw [ha] at hi
      exact hi

theorem lt_size_of_actionAt? (h : p.actionAt? i = some a) : i < p.size := by
  obtain ⟨op, hop, -⟩ := Option.map_eq_some_iff.mp h
  exact (Array.getElem?_eq_some_iff.mp hop).1

theorem framesFrom_zero (p : Program) (i : Nat) : p.framesFrom 0 i = p.framesAround i := by
  rw [framesFrom, Nat.sub_zero, ← List.range_eq_range', framesAround]

theorem LinkedAt.elseIndex {lo hi : Nat} {frames : List Frame} {index : Int}
    (h : p.LinkedAt lo hi frames i) (ha : p.actionAt? i = some a)
    (he : a.elseIndex? = some index) :
    ∃ (kind : BlockKind) (e j : Nat), index = e ∧ p.Block kind i j ∧ i < e ∧ e < j ∧
      p.actionAt? e = some (.alternative j) ∧
      ∀ {kind' : BlockKind} {i' j' : Nat}, p.Block kind' i' j' → i' < e → e < j' → i' ≤ i := by
  unfold LinkedAt at h
  rw [ha] at h
  cases a with
  | branch negated ref elseIndex endIndex =>
      obtain ⟨e, j, rfl, rfl, hrest⟩ := h.2.1 index he
      exact ⟨.guarded negated, e, j, rfl, ⟨_, ha, rfl, rfl⟩, hrest⟩
  | _ => cases he

theorem LinkedAt.indices_nonneg {lo hi : Nat} {frames : List Frame}
    (h : p.LinkedAt lo hi frames i) (ha : p.actionAt? i = some a) : ∀ x ∈ a.indices, 0 ≤ x := by
  unfold LinkedAt at h
  rw [ha] at h
  intro x hx
  cases a with
  | branch negated ref elseIndex endIndex =>
      obtain ⟨⟨j, rfl, -⟩, hs, -⟩ := h
      rcases List.mem_append.mp hx with hx | hx
      · obtain ⟨e, -, rfl, -⟩ := hs x (Option.mem_toList.mp hx)
        exact Int.natCast_nonneg e
      · cases List.mem_singleton.mp hx
        exact Int.natCast_nonneg j
  | alternative endIndex =>
      cases List.mem_singleton.mp hx
      exact h.1
  | loop ref slot endIndex =>
      obtain ⟨⟨j, rfl, -⟩, -⟩ := h
      cases List.mem_singleton.mp hx
      exact Int.natCast_nonneg j
  | finish word start =>
      obtain ⟨-, opener, -, rfl, -⟩ := h
      cases List.mem_singleton.mp hx
      exact Int.natCast_nonneg opener
  | _ => cases hx

/-- A program whose operations are linked as one range is well linked. -/
theorem WellLinked.of_linkedOn (h : p.LinkedOn 0 p.size []) : p.WellLinked := by
  have linked : ∀ {i a}, p.actionAt? i = some a → p.LinkedAt 0 p.size [] i :=
    fun ha => h _ (Nat.zero_le _) (lt_size_of_actionAt? ha)
  have framed : ∀ {i ref}, p.Framed 0 [] i ref →
      ref.frames = p.framesAround i ∧ Numbered ref.frames :=
    fun {i _} hr => ⟨by rw [← framesFrom_zero p i]; exact hr.1, hr.2⟩
  constructor
  case opener =>
    intro i a kind ha ho
    have hi := linked ha
    unfold LinkedAt at hi
    rw [ha] at hi
    cases a with
    | branch negated ref elseIndex endIndex =>
        obtain ⟨⟨j, rfl, hij, -, hf, -⟩, -⟩ := hi
        cases ho
        exact ⟨j, rfl, hij, hf⟩
    | loop ref slot endIndex =>
        obtain ⟨⟨j, rfl, hij, -, hf, -⟩, -⟩ := hi
        cases ho
        exact ⟨j, rfl, hij, hf⟩
    | _ => cases ho
  case finish =>
    intro j word start ha
    have hj := linked ha
    unfold LinkedAt at hj
    rw [ha] at hj
    exact hj
  case nested =>
    intro i j i' j' kind kind' hb hb' hi hj
    have ⟨a, ha, _⟩ := hb
    obtain ⟨j₀, hj₀, -, -, -, hn⟩ := (linked ha).closes hb
    obtain rfl : j = j₀ := by omega
    exact hn hi hj hb'
  case elseIndex =>
    intro i a index ha he
    exact (linked ha).elseIndex ha he
  case alternative =>
    intro e endIndex ha
    have hi := linked ha
    unfold LinkedAt at hi
    rw [ha] at hi
    obtain ⟨-, i, hi⟩ := hi
    refine ⟨i, hi, fun i' hi' => ?_⟩
    -- two blocks with this else are both around it, so neither is further in
    obtain ⟨a, ha, he⟩ := hi
    obtain ⟨a', ha', he'⟩ := hi'
    obtain ⟨kind, e₁, j, h₁, hb, h₂, h₃, -, hn⟩ := (linked ha).elseIndex ha he
    obtain ⟨kind', e₂, j', h₁', hb', h₂', h₃', -, hn'⟩ := (linked ha').elseIndex ha' he'
    obtain rfl : e = e₁ := by omega
    obtain rfl : e = e₂ := by omega
    exact Nat.le_antisymm (hn hb' h₂' h₃') (hn' hb h₂ h₃)
  case linked =>
    intro i a ha hm
    exact absurd ((linked ha).indices_nonneg ha _ hm) (by decide)
  case slot =>
    intro i ref slot endIndex ha
    have hi := linked ha
    unfold LinkedAt at hi
    rw [ha] at hi
    rw [hi.2.1, (framed hi.2.2).1]
  case frames =>
    intro i a ref ha hr
    have hi := linked ha
    unfold LinkedAt at hi
    rw [ha] at hi
    cases a with
    | output ref' escape => cases hr; exact framed hi
    | branch negated ref' elseIndex endIndex => cases hr; exact framed hi.2.2
    | loop ref' slot endIndex => cases hr; exact framed hi.2.2
    | _ => cases hr

end Program

namespace Compilation

/-- **Every program that is compiled is well linked**: from any tokens, strict or tolerant, and
whatever the includes give. -/
theorem wellLinked_of_compile {c : Compilation} {tokens : List Token} {p : Program}
    (h : (c.compile tokens).result = .ok p) : p.WellLinked := by
  obtain ⟨body, hb⟩ := exists_body_of_compile h
  have hlinked := body.linkedOn (.whole hb) (p := p) (fun n f hf => by cases hf)
  have hsize : p.size = 0 + body.size := by
    rw [Nat.zero_add, ← body.length_code 0 .root, ← hb, Array.length_toList, Program.size]
  exact .of_linkedOn (hsize ▸ hlinked)

/-- A loop that the tag of another block closes, in an if that is not closed and has an else
twice. -/
theorem wellLinked_of_unbalanced :
    let c : Compilation := ⟨false, none, .outermost none, .null⟩
    let tokens : List Token :=
      [⟨.opening .ifBlock "a", ⟨1, 0⟩, .plain⟩, ⟨.opening .loopBlock "b.c", ⟨1, 16⟩, .plain⟩,
        ⟨.output "x", ⟨1, 36⟩, .html⟩, ⟨.closing "if", ⟨1, 48⟩, .plain⟩,
        ⟨.otherwise, ⟨1, 58⟩, .plain⟩, ⟨.otherwise, ⟨1, 68⟩, .plain⟩]
    let row : Frame := ⟨["b", "c"], 1⟩
    let p : Program :=
      ⟨#[⟨⟨1, 0⟩, .branch false ⟨[], ["a"]⟩ (some 4) 5⟩, ⟨⟨1, 16⟩, .loop ⟨[], ["b", "c"]⟩ 1 3⟩,
        ⟨⟨1, 36⟩, .output ⟨[row], ["x"]⟩ .html⟩, ⟨⟨1, 48⟩, .finish "loop" 1⟩,
        ⟨⟨1, 58⟩, .alternative 5⟩, ⟨⟨1, 0⟩, .finish "if" 0⟩], none⟩
    (c.compile tokens).result = .ok p ∧ p.WellLinked := by
  intro c tokens row p
  have h : (c.compile tokens).result = .ok p := by rfl
  exact ⟨h, wellLinked_of_compile h⟩

end Compilation

end TagTemplate
