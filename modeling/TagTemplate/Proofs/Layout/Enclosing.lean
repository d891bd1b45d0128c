/-
# Enclosing loops — which loops a position is in

A run is in a loop from the operation after its opener up to and including its
end: `p.framesEntered i` are the frames of the loops that position `i` is in,
outermost first.  In a well-linked program it changes at loops only,

    the opener of a loop at i       framesEntered (i + 1) = framesEntered i ++ [frame]
    any other operation but an end  framesEntered (i + 1) = framesEntered i

and no jump leads into a loop or out of one but at its end:

    a block from i to j             framesEntered (j + 1) = framesEntered i
                                    framesEntered j       = framesEntered (i + 1)
    its else at e                   framesEntered (e + 1) = framesEntered i

All five are instances of `framesEntered_eq`.  A reference of an operation has the
frames that its position is in (`frames_eq_framesEntered`).
-/
import Mathlib.Data.List.Basic
import TagTemplate.Proofs.Layout.Links

namespace TagTemplate.Program

/-- The frame of the operation at `l`, if it is a loop whose end is not before `i`. -/
def frameEntered? (p : Program) (i l : Nat) : Option Frame :=
  match p.actionAt? l with
  | some (.loop ref slot endIndex) => if i ≤ endIndex then some ⟨ref.path, slot⟩ else none
  | _ => none

/-- The frames of the loops that position `i` is in: those that open before it and do not end
before it. -/
def framesEntered (p : Program) (i : Nat) : List Frame :=
  (List.range i).filterMap (p.frameEntered? i)

variable {p : Program} {i j e l a b : Nat} {kind : BlockKind}

/-! ## One loop -/

/-- Whether a position is in a loop depends only on where the loop ends. -/
theorem frameEntered?_congr (hw : p.WellLinked)
    (h : ∀ {e : Nat}, p.Block .loopBlock l e → (a ≤ e ↔ b ≤ e)) :
    p.frameEntered? a l = p.frameEntered? b l := by
  unfold frameEntered?
  split
  · next ref slot endIndex hl =>
      obtain ⟨e, he, -⟩ := hw.opener hl rfl
      cases he
      have hab := h ⟨_, hl, rfl, rfl⟩
      simp only [Int.ofNat_le, hab]
  · rfl

theorem frameEntered?_eq_none (hw : p.WellLinked)
    (h : ∀ {e : Nat}, p.Block .loopBlock l e → e < a) : p.frameEntered? a l = none := by
  unfold frameEntered?
  split
  · next ref slot endIndex hl =>
      obtain ⟨e, he, -⟩ := hw.opener hl rfl
      cases he
      have hlt := h ⟨_, hl, rfl, rfl⟩
      rw [if_neg (by omega)]
  · rfl

/-! ## From one position to another -/

/-- Two positions are in the same loops if no loop around the first ends between them and every
loop that opens between them ends there. -/
theorem framesEntered_eq (hw : p.WellLinked) (hab : a ≤ b)
    (hout : ∀ {l e : Nat}, p.Block .loopBlock l e → l < a → a ≤ e → b ≤ e)
    (hin : ∀ {l e : Nat}, p.Block .loopBlock l e → a ≤ l → l < b → e < b) :
    p.framesEntered b = p.framesEntered a := by
  obtain ⟨n, rfl⟩ := Nat.exists_eq_add_of_le hab
  have hbefore : ∀ l ∈ List.range a, p.frameEntered? (a + n) l = p.frameEntered? a l := by
    intro l hl
    have hl := List.mem_range.mp hl
    exact frameEntered?_congr hw fun hb => ⟨fun h => by omega, hout hb hl⟩
  have hbetween : ∀ l ∈ (List.range n).map (a + ·), p.frameEntered? (a + n) l = none := by
    intro l hl
    obtain ⟨k, hk, rfl⟩ := List.mem_map.mp hl
    have hk := List.mem_range.mp hk
    exact frameEntered?_eq_none hw fun hb => hin hb (by omega) (by omega)
  rw [framesEntered, List.range_add, List.filterMap_append, List.filterMap_congr hbefore,
    List.filterMap_eq_nil_iff.mpr hbetween, List.append_nil, framesEntered]

/-! ## Blocks -/

theorem Block.ends (hw : p.WellLinked) (hb : p.Block kind i j) :
    i < j ∧ p.actionAt? j = some (.finish kind.word i) := by
  obtain ⟨a, ha, ho, he⟩ := hb
  obtain ⟨j', hj, hlt, hf⟩ := hw.opener ha ho
  rw [he] at hj
  cases hj
  exact ⟨hlt, hf⟩

theorem Block.end_ne {a : Action} (hw : p.WellLinked) (hb : p.Block kind i j)
    (ha : p.actionAt? l = some a) (hn : ∀ word start, a ≠ .finish word start) : j ≠ l := by
  rintro rfl
  rw [(hb.ends hw).2] at ha
  cases ha
  exact hn _ _ rfl

theorem Block.end_ne_opener {kind' : BlockKind} (hw : p.WellLinked) (hb : p.Block kind i j)
    (hb' : p.Block kind' l e) : j ≠ l := by
  obtain ⟨a, ha, ho, -⟩ := hb'
  exact hb.end_ne hw ha fun word start h => by rw [h] at ho; cases ho

theorem Block.unique {kind' : BlockKind} {j' : Nat} (hb : p.Block kind i j)
    (hb' : p.Block kind' i j') : kind = kind' ∧ j = j' := by
  obtain ⟨a, ha, ho, he⟩ := hb
  obtain ⟨a', ha', ho', he'⟩ := hb'
  rw [ha] at ha'
  cases ha'
  rw [ho] at ho'
  rw [he] at he'
  cases ho'
  cases he'
  exact ⟨rfl, rfl⟩

theorem WellLinked.exists_loop_of_finish {start : Int} (hw : p.WellLinked)
    (ha : p.actionAt? j = some (.finish BlockKind.loopBlock.word start)) :
    ∃ (o : Nat) (ref : Ref) (slot : Int), start = o ∧ p.Block .loopBlock o j ∧
      p.actionAt? o = some (.loop ref slot j) := by
  obtain ⟨kind, o, hword, rfl, hb⟩ := hw.finish ha
  obtain ⟨a, ho, hopens, hend⟩ := id hb
  cases a with
  | branch negated ref elseIndex endIndex =>
      cases hopens
      cases negated <;> exact absurd hword (by decide)
  | loop ref slot endIndex =>
      cases hopens
      cases hend
      exact ⟨o, ref, slot, rfl, hb, ho⟩
  | _ => cases hopens

theorem Block.around (hw : p.WellLinked) (hb : p.Block kind i j) (hl : p.Block .loopBlock l e)
    (hli : l < i) (hie : i ≤ e) : j < e := by
  have hne := hl.end_ne_opener hw hb
  exact hw.nested hl hb hli (by omega)

theorem Block.ne_of_action {a : Action} (hb : p.Block .loopBlock l e) (ha : p.actionAt? i = some a)
    (hn : ∀ ref slot endIndex, a ≠ .loop ref slot endIndex) : l ≠ i := by
  rintro rfl
  obtain ⟨a', ha', ho, -⟩ := hb
  rw [ha] at ha'
  cases ha'
  cases a with
  | branch negated ref elseIndex endIndex =>
      exact BlockKind.guarded_ne_loopBlock negated (Option.some.inj ho)
  | loop ref slot endIndex => exact hn ref slot endIndex rfl
  | _ => cases ho

/-! ## Steps and jumps -/

/-- An operation that neither opens a loop nor ends a block leaves the loops as they are. -/
theorem framesEntered_succ {a : Action} (hw : p.WellLinked) (ha : p.actionAt? i = some a)
    (hl : ∀ ref slot endIndex, a ≠ .loop ref slot endIndex)
    (hn : ∀ word start, a ≠ .finish word start) : p.framesEntered (i + 1) = p.framesEntered i := by
  refine framesEntered_eq hw (Nat.le_succ i) (fun {l e} hb hli hie => ?_)
    fun {l e} hb hil hli => ?_
  · have hne := hb.end_ne hw ha hn
    omega
  · exact absurd (by omega) (hb.ne_of_action ha hl)

theorem framesEntered_loop {ref : Ref} {slot endIndex : Int} (hw : p.WellLinked)
    (ha : p.actionAt? i = some (.loop ref slot endIndex)) :
    p.framesEntered (i + 1) = p.framesEntered i ++ [⟨ref.path, slot⟩] := by
  have hbefore : ∀ l ∈ List.range i, p.frameEntered? (i + 1) l = p.frameEntered? i l := by
    intro l hl
    refine frameEntered?_congr hw fun {e} hb => ?_
    have hne := hb.end_ne hw ha fun _ _ h => by cases h
    omega
  have hself : p.frameEntered? (i + 1) i = some ⟨ref.path, slot⟩ := by
    obtain ⟨j, hj, hij, -⟩ := hw.opener ha rfl
    cases hj
    simp only [frameEntered?, ha]
    exact if_pos (by omega)
  rw [framesEntered, List.range_succ, List.filterMap_append, List.filterMap_congr hbefore,
    framesEntered, List.filterMap_cons_some hself, List.filterMap_nil]

theorem framesEntered_past (hw : p.WellLinked) (hb : p.Block kind i j) :
    p.framesEntered (j + 1) = p.framesEntered i := by
  have hij := (hb.ends hw).1
  refine framesEntered_eq hw (by omega) (fun {l e} hl hli hie => hb.around hw hl hli hie)
    fun {l e} hl hil hlj => ?_
  by_cases h : l = i
  · subst h
    have hsame := (hb.unique hl).2
    omega
  · have hne := hb.end_ne_opener hw hl
    have hnested := hw.nested hb hl (by omega) (by omega)
    omega

theorem framesEntered_end (hw : p.WellLinked) (hb : p.Block kind i j) :
    p.framesEntered j = p.framesEntered (i + 1) := by
  have hij := (hb.ends hw).1
  refine framesEntered_eq hw hij (fun {l e} hl hli hie => ?_)
    fun {l e} hl hil hlj => hw.nested hb hl (by omega) hlj
  by_cases h : l = i
  · subst h
    exact Nat.le_of_eq (hb.unique hl).2
  · exact Nat.le_of_lt (hb.around hw hl (by omega) (by omega))

theorem framesEntered_loop_end {ref : Ref} {slot endIndex : Int} (hw : p.WellLinked)
    (hb : p.Block .loopBlock i j) (ha : p.actionAt? i = some (.loop ref slot endIndex)) :
    p.framesEntered j = p.framesEntered i ++ [⟨ref.path, slot⟩] := by
  rw [framesEntered_end hw hb, framesEntered_loop hw ha]

theorem framesEntered_else (hw : p.WellLinked) (he : p.HasElse i e) :
    p.framesEntered (e + 1) = p.framesEntered i := by
  obtain ⟨a, ha, he⟩ := he
  obtain ⟨kind, e', j, hee, hb, hie, hej, hturn, hn⟩ := hw.elseIndex ha he
  cases hee
  refine framesEntered_eq hw (by omega) (fun {l e'} hl hli hie => ?_) fun {l e'} hl hil hle => ?_
  · have haround := hb.around hw hl hli hie
    omega
  · have hnot : l ≠ i := hl.ne_of_action ha fun ref slot endIndex h => by rw [h] at he; cases he
    have hturn_ne : l ≠ e := hl.ne_of_action hturn fun _ _ _ h => by cases h
    have hend_ne : e' ≠ e := hl.end_ne hw hturn fun _ _ h => by cases h
    -- the block of the else is the innermost around it, so a loop within the block ends before it
    by_cases hlt : e < e'
    · have hinner := hn hl (by omega) hlt
      omega
    · omega

/-! ## References -/

/-- At an operation that is no end, the loops that a position is in are those around it. -/
theorem framesEntered_eq_framesAround {a : Action} (hw : p.WellLinked)
    (ha : p.actionAt? i = some a) (hn : ∀ word start, a ≠ .finish word start) :
    p.framesEntered i = p.framesAround i := by
  refine List.filterMap_congr fun l _ => ?_
  unfold frameEntered? frameAround?
  cases hl : p.actionAt? l with
  | none => rfl
  | some b =>
      cases b with
      | loop ref slot endIndex =>
          obtain ⟨e, he, -⟩ := hw.opener hl rfl
          cases he
          have hne : e ≠ i := Block.end_ne hw (i := l) ⟨_, hl, rfl, rfl⟩ ha hn
          have hiff : (i : Int) ≤ e ↔ (i : Int) < e := by omega
          simp only [hiff]
      | _ => rfl

/-- The frames of a reference are those of the loops that its position is in. -/
theorem frames_eq_framesEntered {a : Action} {ref : Ref} (hw : p.WellLinked)
    (ha : p.actionAt? i = some a) (hr : a.ref? = some ref) :
    ref.frames = p.framesEntered i := by
  have hn : ∀ word start, a ≠ .finish word start := by
    rintro word start rfl
    cases hr
  rw [framesEntered_eq_framesAround hw ha hn]
  exact (hw.frames ha hr).1

theorem slot_eq_framesEntered {ref : Ref} {slot endIndex : Int} (hw : p.WellLinked)
    (ha : p.actionAt? i = some (.loop ref slot endIndex)) :
    slot = (p.framesEntered i).length + 1 := by
  rw [framesEntered_eq_framesAround hw ha fun _ _ h => by cases h]
  exact hw.slot ha

theorem framesEntered_size (hw : p.WellLinked) : p.framesEntered p.size = [] := by
  refine List.filterMap_eq_nil_iff.mpr fun l _ => frameEntered?_eq_none hw fun hb => ?_
  exact lt_size_of_actionAt? (hb.ends hw).2

end TagTemplate.Program
