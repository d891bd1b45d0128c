/-
# Alike — what may stand in for a body while its template is compiled

Two bodies that mean the same for the data may differ for another item.  So one can
stand in for the other where no loop is open around it, and in a loop only if they
mean the same for every item:

    open around a body      the items it may be run for
    no loop                 the data
    a loop                  any value

`Same` says this of two bodies, and it is a congruence (`congruence_same`): outlines with
bodies that are the same stay alike to the end, and what is left are two bodies that mean
the same for the data (`Alike.exists_rest`).
-/
import TagTemplate.Proofs.Layout.Congruence
import TagTemplate.Proofs.Meaning.Compiled

namespace TagTemplate

namespace Outline

section
variable (escapers : EscapeTable) (data : Value)

/-- The item may be what names are looked up from within open blocks. -/
def Sees (ps : List Pending) (item : Value) : Prop :=
  item = data ∨ ∃ p ∈ ps, p.opened.kind = .loopBlock

variable [Traits]

/-- Within open blocks, the bodies mean the same for whatever they may be run for. -/
def Same (ps : List Pending) (b b' : Body) : Prop :=
  ∀ item, Sees data ps item → b.meaning escapers item = b'.meaning escapers item

/-- The outlines differ at most in bodies that are the same. -/
abbrev Alike (o o' : Outline) : Prop := Related (Same escapers data) o o'

end

variable {escapers : EscapeTable} {data : Value} {ps : List Pending}
  {b b' before before' body body' : Body} {place turn close : Position} {negated : Bool}
  {name : Text}

/-! ## Bodies that are the same -/

namespace Same

variable [Traits]

theorem append (h : Same escapers data ps b b') (place : Position) (value : Text) :
    Same escapers data ps (b.append place value) (b'.append place value) := by
  intro item hitem
  have hb := h item hitem
  unfold Body.meaning at hb ⊢
  rw [Body.meaningBy_append, Body.meaningBy_append, hb]

theorem output (h : Same escapers data ps b b') (place : Position) (name : Text)
    (escape : EscapeMode) :
    Same escapers data ps (.output b place name escape) (.output b' place name escape) := by
  intro item hitem
  exact congrArg (Outcome.append · _) (h item hitem)

theorem outer {p : Pending} (h : Same escapers data (p :: ps) b b') :
    Same escapers data ps b b' := by
  rintro item (hitem | ⟨q, hq, hloop⟩)
  · exact h item (.inl hitem)
  · exact h item (.inr ⟨q, List.mem_cons_of_mem _ hq, hloop⟩)

theorem of_loop (h : Same escapers data (.first before place .loopBlock name :: ps) b b') :
    b.meaning escapers = b'.meaning escapers :=
  funext fun item => h item (.inr ⟨_, List.mem_cons_self, rfl⟩)

theorem branch (h : Same escapers data ps before before') (hb : Same escapers data ps b b') :
    Same escapers data ps (.branch before place negated name b close)
      (.branch before' place negated name b' close) := by
  intro item hitem
  have h₁ := h item hitem
  have h₂ := hb item hitem
  unfold Body.meaning at h₁ h₂ ⊢
  simp only [Body.meaningBy, h₁, h₂]

theorem choice (h : Same escapers data ps before before') (hbody : Same escapers data ps body body')
    (hb : Same escapers data ps b b') :
    Same escapers data ps (.choice before place negated name body turn b close)
      (.choice before' place negated name body' turn b' close) := by
  intro item hitem
  have h₁ := h item hitem
  have h₂ := hbody item hitem
  have h₃ := hb item hitem
  unfold Body.meaning at h₁ h₂ h₃ ⊢
  simp only [Body.meaningBy, h₁, h₂, h₃]

theorem loop (h : Same escapers data ps before before')
    (hb : b.meaning escapers = b'.meaning escapers) :
    Same escapers data ps (.loop before place name b close)
      (.loop before' place name b' close) := by
  intro item hitem
  have h₁ := h item hitem
  have h₂ := congrFun hb
  unfold Body.meaning at h₁ h₂ ⊢
  simp only [Body.meaningBy, h₁, h₂]

end Same

variable [Traits]

theorem congruence_same (escapers : EscapeTable) (data : Value) :
    Congruence (Same escapers data) where
  refl _ _ _ _ := rfl
  append place value h := h.append place value
  output place name escape h := h.output place name escape
  first {_ _ _ _ _ _ kind _} _ hbefore hb := by
    cases kind with
    | ifBlock | unlessBlock => exact hbefore.branch hb.outer
    | loopBlock => exact hbefore.loop hb.of_loop
  second _ hbefore hbody hb := hbefore.choice hbody.outer hb.outer

/-! ## Outlines that are alike -/

namespace Alike

/-- Outside of loops a text can stand in for a body that comes to it for the data. -/
theorem of_text {text : Text} (hloops : ∀ p ∈ ps, p.opened.kind ≠ .loopBlock)
    (hb : b.meaning escapers data = .ok text) (before : Body) (place : Position) :
    Alike escapers data (Outline.append ⟨ps, before⟩ place text) ⟨ps, before.join b⟩ := by
  refine Related.of_current (congruence_same escapers data) ?_
  rintro item (rfl | ⟨p, hp, hloop⟩)
  · show (before.append place text).meaningBy _ _ _ = (before.join b).meaningBy _ _ _
    rw [Body.meaningBy_append, Body.meaningBy_join, ← hb]
    rfl
  · exact absurd hloop (hloops p hp)

/-- What is left of a compilation comes to bodies that mean the same for the data. -/
theorem exists_rest {o o' : Outline} {c : Compilation} {ts : List Token} {d : Draft}
    (h : Alike escapers data o o') (hs : (c.rest o.draft ts).result = .ok d) :
    ∃ b b', d = draft ⟨[], b⟩ ∧ (c.rest o'.draft ts).result = .ok (draft ⟨[], b'⟩) ∧
      b.meaning escapers data = b'.meaning escapers data := by
  obtain ⟨b, b', hd, hs', hsame⟩ := Related.exists_rest (congruence_same escapers data) h hs
  exact ⟨b, b', hd, hs', hsame data (.inl rfl)⟩

end Alike

end Outline

end TagTemplate
