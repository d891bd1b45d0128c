/-
# Settled operations — what is compiled once and stays

An operation of a draft can change for two reasons: a text grows by the text after it, and the
opener or the else of an open block is linked when the block is closed.  Any other operation is
settled (`Draft.Settled`), and it is at the same index in the program, whatever comes after it
(`Settled.of_rest`).
-/
import TagTemplate.Proofs.Block.Repair

namespace TagTemplate

/-- The block has neither its opener nor its else at an index. -/
def OpenBlock.Spares (block : OpenBlock) (i : Nat) : Prop :=
  block.start ≠ i ∧ block.elseIndex ≠ some i

namespace Draft

/-- The operation at an index is no text and not to be linked. -/
structure Settled (d : Draft) (i : Nat) (op : Op) : Prop where
  at_index : d.ops[i]? = some op
  not_text : ∀ value, op.action ≠ .text value
  spared : ∀ block ∈ d.blocks, block.Spares i

theorem linkAt_getElem?_of_ne {index i : Nat} (h : index ≠ i) (elseIndex : Option Nat)
    (endIndex : Nat) (ops : Array Op) : (linkAt index elseIndex endIndex ops)[i]? = ops[i]? := by
  rw [linkAt, Array.getElem?_modify, if_neg h]

/-- What linking leaves as it is in an action is so in all operations. -/
theorem map_linkAt {β : Type} {g : Action → β}
    (hg : ∀ elseIndex endIndex a, g (Action.link elseIndex endIndex a) = g a) (index : Nat)
    (elseIndex : Option Nat) (endIndex : Nat) (ops : Array Op) :
    (linkAt index elseIndex endIndex ops).toList.map (fun op => g op.action) =
      ops.toList.map fun op => g op.action := by
  rw [linkAt, Array.toList_modify]
  generalize ops.toList = ops
  induction ops generalizing index with
  | nil => cases index <;> rfl
  | cons op ops ih =>
      cases index with
      | zero => exact congrArg (· :: ops.map fun op => g op.action) (hg _ _ op.action)
      | succ index => exact congrArg (g op.action :: ·) (ih index)

namespace Settled

variable {d d' : Draft} {i : Nat} {op : Op} {c : Compilation} {t : Token} {ts : List Token}

theorem lt_size (h : d.Settled i op) : i < d.ops.size :=
  (Array.getElem?_eq_some_iff.mp h.at_index).1

theorem push (h : d.Settled i op) (new : Op) : (d.ops.push new)[i]? = some op := by
  rw [Array.getElem?_push_lt h.lt_size, ← h.at_index, Array.getElem?_eq_getElem h.lt_size]

theorem emit (h : d.Settled i op) (position : Position) (action : Action) :
    (d.emit position action).Settled i op :=
  ⟨h.push _, h.not_text, h.spared⟩

theorem appendText (h : d.Settled i op) (position : Position) (value : Text) :
    (d.appendText position value).Settled i op := by
  unfold Draft.appendText
  split
  · exact h
  · split
    · next start before hback =>
        have hlast : i ≠ d.ops.size - 1 := by
          rintro rfl
          rw [Array.back?_eq_getElem?, h.at_index] at hback
          exact h.not_text before (congrArg Op.action (Option.some.inj hback))
        have hlt : i < d.ops.pop.size := by
          have := h.lt_size
          rw [Array.size_pop]
          omega
        refine ⟨?_, h.not_text, h.spared⟩
        rw [Array.getElem?_push_lt hlt, Array.getElem_pop, ← h.at_index,
          Array.getElem?_eq_getElem h.lt_size]
    · exact h.emit _ _

theorem openBlock (h : d.Settled i op) (position : Position) (kind : BlockKind) (name : Text) :
    (d.openBlock position kind name).Settled i op := by
  refine ⟨h.push _, h.not_text, ?_⟩
  rintro block (_ | ⟨_, hblock⟩)
  · exact ⟨Nat.ne_of_gt h.lt_size, nofun⟩
  · exact h.spared block hblock

theorem openElse (h : d.Settled i op) (position : Position) :
    (d.openElse position).Settled i op := by
  unfold Draft.openElse
  cases hblocks : d.blocks with
  | nil => exact h
  | cons block blocks =>
      refine ⟨h.push _, h.not_text, ?_⟩
      rintro _ (_ | ⟨_, hother⟩)
      · refine ⟨(h.spared block (hblocks ▸ List.mem_cons_self)).1, fun heq => ?_⟩
        exact Nat.ne_of_gt h.lt_size (Option.some.inj heq)
      · exact h.spared _ (hblocks ▸ List.mem_cons_of_mem _ hother)

theorem closeBlock (h : d.Settled i op) (position : Position) :
    (d.closeBlock position).Settled i op := by
  cases hblocks : d.blocks with
  | nil => rwa [Draft.closeBlock, hblocks]
  | cons block blocks =>
      obtain ⟨hstart, hturn⟩ := h.spared block (hblocks ▸ List.mem_cons_self)
      refine ⟨?_, h.not_text, fun other hother => h.spared other ?_⟩
      · simp only [Draft.closeBlock, hblocks]
        cases he : block.elseIndex with
        | none => simp only [linkAt_getElem?_of_ne hstart, h.push]
        | some e =>
            have hturn : e ≠ i := fun heq => hturn (he.trans (congrArg some heq))
            simp only [linkAt_getElem?_of_ne hturn, linkAt_getElem?_of_ne hstart, h.push]
      · rw [blocks_closeBlock, hblocks] at hother
        exact hblocks ▸ List.mem_cons_of_mem _ hother

theorem of_apply (h : d.Settled i op) (ha : (c.apply d t).result = .ok d') :
    d'.Settled i op := by
  unfold Compilation.apply at ha
  cases ht : t.content with
  | text value => rw [ht] at ha; cases ha; exact h.appendText _ _
  | output name => rw [ht] at ha; cases ha; exact h.emit _ _
  | opening kind name => rw [ht] at ha; cases ha; exact h.openBlock _ _ _
  | otherwise =>
      rw [ht] at ha
      cases ha
      cases d.elseIssue?.isSome
      · exact h.openElse _
      · exact h
  | closing word => rw [ht] at ha; cases ha; exact h.closeBlock _
  | inclusion name =>
      rw [ht] at ha
      obtain ⟨text, -, ha⟩ := Traced.result_bind_eq_ok.mp ha
      cases ha
      exact h.appendText _ _

theorem of_closeAll {blocks : List OpenBlock} (h : d.Settled i op)
    (hs : (c.closeAll d blocks).result = .ok d') : d'.Settled i op := by
  induction blocks generalizing d with
  | nil => cases hs; exact h
  | cons block blocks ih =>
      obtain ⟨-, -, hs⟩ := Traced.result_bind_eq_ok.mp hs
      exact ih (h.closeBlock _) hs

/-- **A settled operation stays**, whatever is left of the tokens. -/
theorem of_rest (h : d.Settled i op) (hs : (c.rest d ts).result = .ok d') : d'.Settled i op := by
  induction ts generalizing d with
  | nil => exact h.of_closeAll hs
  | cons t ts ih =>
      rw [Compilation.rest_cons] at hs
      obtain ⟨d₁, h₁, hs⟩ := Traced.result_bind_eq_ok.mp hs
      exact ih (h.of_apply (Compilation.result_apply_of_step h₁)) hs

end Settled

end Draft

end TagTemplate
