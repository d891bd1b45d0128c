/-
# Congruences — relations of bodies that compiling keeps

A relation of bodies may depend on the blocks they stand in.  It is a congruence if related
bodies stay so when the same is done to both:

    append, output    text or a variable comes after them
    first             they stand in blocks that are closed, after related bodies
    second            the same for blocks with an else

Two outlines are related if they have the same open blocks and related bodies in them.  A token
leaves related outlines related, whether it fits or not (`Related.exists_step`), and so does the
end; what is left are two related bodies (`Related.exists_rest`).  No lengths are compared: the
two programs can have different numbers of operations, and different links.
-/
import TagTemplate.Proofs.Block.Repair
import TagTemplate.Proofs.Layout.Outline

namespace TagTemplate

namespace Outline

/-- Bodies that are related in the blocks they stand in stay so as more is read. -/
structure Congruence (R : List Pending → Body → Body → Prop) : Prop where
  refl (ps : List Pending) (b : Body) : R ps b b
  append {ps : List Pending} {b b' : Body} (place : Position) (value : Text) :
    R ps b b' → R ps (b.append place value) (b'.append place value)
  output {ps : List Pending} {b b' : Body} (place : Position) (name : Text)
    (escape : EscapeMode) :
    R ps b b' → R ps (.output b place name escape) (.output b' place name escape)
  first {ps : List Pending} {before before' b b' : Body} {place : Position} {kind : BlockKind}
    {name : Text} (close : Position) :
    R ps before before' → R (.first before place kind name :: ps) b b' →
    R ps ((Pending.first before place kind name).close b close)
      ((Pending.first before' place kind name).close b' close)
  second {ps : List Pending} {before before' body body' b b' : Body} {place turn : Position}
    {negated : Bool} {name : Text} (close : Position) :
    R ps before before' → R (.first before place (.guarded negated) name :: ps) body body' →
    R (.second before place negated name body turn :: ps) b b' →
    R ps (.choice before place negated name body turn b close)
      (.choice before' place negated name body' turn b' close)

section
variable (R : List Pending → Body → Body → Prop)

/-- The open blocks differ at most in bodies that are related. -/
inductive BlocksRelated : List Pending → List Pending → Prop
  | nil : BlocksRelated [] []
  | first {ps ps' : List Pending} {before before' : Body} {place : Position} {kind : BlockKind}
      {name : Text} : BlocksRelated ps ps' → R ps before before' →
      BlocksRelated (.first before place kind name :: ps) (.first before' place kind name :: ps')
  | second {ps ps' : List Pending} {before before' body body' : Body} {place turn : Position}
      {negated : Bool} {name : Text} : BlocksRelated ps ps' → R ps before before' →
      R (.first before place (.guarded negated) name :: ps) body body' →
      BlocksRelated (.second before place negated name body turn :: ps)
        (.second before' place negated name body' turn :: ps')

/-- The outlines differ at most in bodies that are related. -/
structure Related (o o' : Outline) : Prop where
  pending : BlocksRelated R o.pending o'.pending
  current : R o.pending o.current o'.current

end

variable {R : List Pending → Body → Body → Prop} {ps ps' : List Pending}

theorem BlocksRelated.opened (h : BlocksRelated R ps ps') :
    ps.map Pending.opened = ps'.map Pending.opened := by
  induction h with
  | nil => rfl
  | first _ _ ih | second _ _ _ ih => exact congrArg (_ :: ·) ih

theorem BlocksRelated.refl (hR : Congruence R) (ps : List Pending) : BlocksRelated R ps ps := by
  induction ps with
  | nil => exact .nil
  | cons p ps ih =>
      cases p with
      | first before place kind name => exact .first ih (hR.refl _ _)
      | second before place negated name body turn =>
          exact .second ih (hR.refl _ _) (hR.refl _ _)

namespace Related

variable {o o' : Outline} {c : Compilation} {t : Token} {ts : List Token} {d : Draft}

theorem opened (h : Related R o o') : o.draft.opened = o'.draft.opened := by
  rw [opened_draft, opened_draft, h.pending.opened]

variable (hR : Congruence R)
include hR

theorem of_current {b b' : Body} (h : R ps b b') : Related R ⟨ps, b⟩ ⟨ps, b'⟩ :=
  ⟨.refl hR ps, h⟩

theorem append (h : Related R o o') (place : Position) (value : Text) :
    Related R (o.append place value) (o'.append place value) :=
  ⟨h.pending, hR.append place value h.current⟩

theorem output (h : Related R o o') (place : Position) (name : Text) (escape : EscapeMode) :
    Related R (o.output place name escape) (o'.output place name escape) :=
  ⟨h.pending, hR.output place name escape h.current⟩

theorem openBlock (h : Related R o o') (place : Position) (kind : BlockKind) (name : Text) :
    Related R (o.openBlock place kind name) (o'.openBlock place kind name) :=
  ⟨.first h.pending h.current, hR.refl _ _⟩

theorem exists_openElse (h : Related R o o') (hi : o.draft.elseIssue? = none) (turn : Position) :
    ∃ o₁ o₁', o.draft.openElse turn = o₁.draft ∧ o'.draft.openElse turn = o₁'.draft ∧
      Related R o₁ o₁' := by
  obtain ⟨before, place, negated, name, ps, hp⟩ := exists_first_of_elseIssue? hi
  obtain ⟨ps₀, b⟩ := o
  obtain ⟨ps', b'⟩ := o'
  obtain ⟨hpending, hcurrent⟩ := h
  cases hp
  cases hpending with
  | first hblocks hbefore =>
      refine ⟨_, _, draft_openElse.symm, draft_openElse.symm, ?_⟩
      exact ⟨.second hblocks hbefore hcurrent, hR.refl _ _⟩

theorem exists_closeBlock (h : Related R o o') (close : Position) :
    ∃ o₁ o₁', o.draft.closeBlock close = o₁.draft ∧ o'.draft.closeBlock close = o₁'.draft ∧
      Related R o₁ o₁' := by
  obtain ⟨ps, b⟩ := o
  obtain ⟨ps', b'⟩ := o'
  obtain ⟨hpending, hcurrent⟩ := h
  cases hpending with
  | nil => exact ⟨_, _, closeBlock_of_nil .., closeBlock_of_nil .., .nil, hcurrent⟩
  | first hblocks hbefore =>
      exact ⟨_, _, draft_closeBlock .., draft_closeBlock .., hblocks,
        hR.first close hbefore hcurrent⟩
  | second hblocks hbefore hbody =>
      exact ⟨_, _, draft_closeBlock .., draft_closeBlock .., hblocks,
        hR.second close hbefore hbody hcurrent⟩

theorem exists_apply (h : Related R o o') (ha : (c.apply o.draft t).result = .ok d) :
    ∃ o₁ o₁', d = o₁.draft ∧ (c.apply o'.draft t).result = .ok o₁'.draft ∧ Related R o₁ o₁' := by
  unfold Compilation.apply at ha ⊢
  cases ht : t.content with
  | text value =>
      rw [ht] at ha
      cases ha
      exact ⟨_, _, (draft_append ..).symm, by rw [draft_append]; rfl, h.append hR _ _⟩
  | output name =>
      rw [ht] at ha
      cases ha
      exact ⟨_, _, (draft_output ..).symm, by rw [draft_output]; rfl,
        h.output hR _ _ _⟩
  | opening kind name =>
      rw [ht] at ha
      cases ha
      exact ⟨_, _, (draft_openBlock ..).symm, by rw [draft_openBlock]; rfl,
        h.openBlock hR _ _ _⟩
  | otherwise =>
      rw [ht] at ha
      cases ha
      rw [o'.draft.elseIssue?_eq, ← h.opened, ← o.draft.elseIssue?_eq]
      cases hi : o.draft.elseIssue? with
      | some issue => exact ⟨o, o', rfl, rfl, h⟩
      | none =>
          obtain ⟨o₁, o₁', hd, hd', h₁⟩ := h.exists_openElse hR hi t.position
          exact ⟨o₁, o₁', hd, congrArg Except.ok hd', h₁⟩
  | closing word =>
      rw [ht] at ha
      cases ha
      obtain ⟨o₁, o₁', hd, hd', h₁⟩ := h.exists_closeBlock hR t.position
      exact ⟨o₁, o₁', hd, congrArg Except.ok hd', h₁⟩
  | inclusion name =>
      rw [ht] at ha
      obtain ⟨text, htext, ha⟩ := Traced.result_bind_eq_ok.mp ha
      cases ha
      refine ⟨_, _, (draft_append ..).symm, ?_, h.append hR _ _⟩
      exact Traced.result_bind_eq_ok.mpr ⟨text, htext, by rw [draft_append]; rfl⟩

/-- A token leaves related outlines related: what is reported of it depends on the open blocks
only. -/
theorem exists_step (h : Related R o o') (hs : (c.step o.draft t).result = .ok d) :
    ∃ o₁ o₁', d = o₁.draft ∧ (c.step o'.draft t).result = .ok o₁'.draft ∧ Related R o₁ o₁' := by
  rw [Compilation.step_eq] at hs
  obtain ⟨⟨⟩, hr, ha⟩ := Traced.result_bind_eq_ok.mp hs
  obtain ⟨o₁, o₁', hd, ha', h₁⟩ := h.exists_apply hR ha
  refine ⟨o₁, o₁', hd, ?_, h₁⟩
  rw [Compilation.step_eq, ← h.opened]
  exact Traced.result_bind_eq_ok.mpr ⟨(), hr, ha'⟩

/-- Closing what is open at the end.  The induction is on the blocks of the one draft; those of the
other have the same kinds and places, so the same is reported of them. -/
theorem exists_closeAll (h : Related R o o')
    (hs : (c.closeAll o.draft o.draft.blocks).result = .ok d) :
    ∃ b b', d = draft ⟨[], b⟩ ∧
      (c.closeAll o'.draft o'.draft.blocks).result = .ok (draft ⟨[], b'⟩) ∧ R [] b b' := by
  have hopened := h.opened
  generalize hblocks : o.draft.blocks = blocks at hs
  induction blocks generalizing o o' with
  | nil =>
      obtain ⟨ps, b⟩ := o
      obtain ⟨ps', b'⟩ := o'
      obtain ⟨hpending, hcurrent⟩ := h
      cases hpending with
      | nil =>
          cases hs
          exact ⟨b, b', rfl, rfl, hcurrent⟩
      | first _ _ | second _ _ _ => cases hblocks
  | cons block blocks ih =>
      rw [Draft.opened, hblocks, List.map_cons] at hopened
      obtain ⟨block', blocks', hblocks', hblock, -⟩ := List.map_eq_cons_iff.mp hopened.symm
      obtain ⟨hkind, hplace, -⟩ := Opened.mk.inj hblock
      obtain ⟨⟨⟩, hr, hs⟩ := Traced.result_bind_eq_ok.mp hs
      obtain ⟨o₁, o₁', hd, hd', h₁⟩ := h.exists_closeBlock hR block.position
      have hrest : o₁.draft.blocks = blocks := by
        rw [← hd, Draft.blocks_closeBlock, hblocks, List.tail_cons]
      have hrest' : o₁'.draft.blocks = blocks' := by
        rw [← hd', Draft.blocks_closeBlock, hblocks', List.tail_cons]
      obtain ⟨b, b', rfl, hs', hlast⟩ := ih h₁ h₁.opened hrest (hd ▸ hs)
      refine ⟨b, b', rfl, ?_, hlast⟩
      rw [hblocks', Compilation.closeAll, hkind, hplace]
      exact Traced.result_bind_eq_ok.mpr ⟨(), hr, by rw [hd', ← hrest', hs']⟩

/-- What is left of a compilation comes to related bodies. -/
theorem exists_rest (h : Related R o o') (hs : (c.rest o.draft ts).result = .ok d) :
    ∃ b b', d = draft ⟨[], b⟩ ∧ (c.rest o'.draft ts).result = .ok (draft ⟨[], b'⟩) ∧
      R [] b b' := by
  induction ts generalizing o o' with
  | nil => exact h.exists_closeAll hR hs
  | cons t ts ih =>
      rw [Compilation.rest_cons] at hs ⊢
      obtain ⟨d₁, h₁, hs⟩ := Traced.result_bind_eq_ok.mp hs
      obtain ⟨o₁, o₁', rfl, h₁', hrelated⟩ := h.exists_step hR h₁
      obtain ⟨b, b', hd, hs', hlast⟩ := ih hrelated hs
      exact ⟨b, b', hd, Traced.result_bind_eq_ok.mpr ⟨_, h₁', hs'⟩, hlast⟩

end Related

end Outline

end TagTemplate
