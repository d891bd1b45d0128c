/-
# Compiled bodies — well-bracketed tokens give the program of their body

The program of tokens that spell a body is the layout of that body, except that
texts side by side have become one and empty ones are gone.  `a.join b` is `b`
put after `a` in this way:

    tokens spell b,  the draft is that of an outline whose current body is a
    ⟹  the draft after them is that of the outline with a.join b

Joining bodies joins what they put out.
-/
import TagTemplate.Proofs.Layout.Outline
import TagTemplate.Proofs.Meaning.Basic

namespace TagTemplate

namespace Body

/-- The body with another one after it; text after text is one text. -/
def join : Body → Body → Body
  | a, empty => a
  | a, text before place value => (a.join before).append place value
  | a, output before place name escape => output (a.join before) place name escape
  | a, branch before place negated name body close =>
    branch (a.join before) place negated name (empty.join body) close
  | a, choice before place negated name body turn other close =>
    choice (a.join before) place negated name (empty.join body) turn (empty.join other) close
  | a, loop before place name body close => loop (a.join before) place name (empty.join body) close

section
variable [Traits] (visit : Sequence → (Value → Outcome) → Outcome) (escapers : EscapeTable)

theorem meaningBy_append (b : Body) (place : Position) (value : Text) (item : Value) :
    (b.append place value).meaningBy visit escapers item =
      (b.meaningBy visit escapers item).append (.ok value) := by
  unfold append
  split
  · next hv => rw [List.isEmpty_iff.mp hv, Outcome.append_nil]
  · split
    · simp only [meaningBy]
      rw [Outcome.append_assoc, Outcome.ok_append_ok]
    · rfl

theorem meaningBy_join (a b : Body) (item : Value) :
    (a.join b).meaningBy visit escapers item =
      (a.meaningBy visit escapers item).append (b.meaningBy visit escapers item) := by
  induction b generalizing a item with
  | empty => simp [join, meaningBy]
  | text before place value ih => simp [join, meaningBy_append, meaningBy, ih, Outcome.append_assoc]
  | output before place name escape ih => simp [join, meaningBy, ih, Outcome.append_assoc]
  | branch before place negated name body close ih₁ ih₂ =>
      simp [join, meaningBy, ih₁, ih₂, Outcome.append_assoc]
  | choice before place negated name body turn other close ih₁ ih₂ ih₃ =>
      simp [join, meaningBy, ih₁, ih₂, ih₃, Outcome.append_assoc]
  | loop before place name body close ih₁ ih₂ =>
      simp [join, meaningBy, ih₁, ih₂, Outcome.append_assoc]

end

end Body

namespace Compilation

open Outline

variable {c : Compilation} {d d' : Draft} {t : Token} {ts us : List Token}

theorem result_steps_append (h : (c.steps d ts).result = .ok d') :
    (c.steps d (ts ++ us)).result = (c.steps d' us).result := by
  rw [steps_append, Traced.result_bind, h]
  rfl

theorem result_steps_cons (h : (c.step d t).result = .ok d') :
    (c.steps d (t :: ts)).result = (c.steps d' ts).result := by
  show (c.step d t >>= fun d => c.steps d ts).result = _
  rw [Traced.result_bind, h]
  rfl

/-! Tokens of each kind, where they fit. -/

section
variable {ps : List Pending} {b : Body} {name : Text}

theorem step_text {value : Text} (ht : t.content = .text value) :
    (c.step (draft ⟨ps, b⟩) t).result = .ok (draft ⟨ps, b.append t.position value⟩) := by
  simp only [step, ht, ← draft_append]
  rfl

theorem step_output (ht : t.content = .output name) :
    (c.step (draft ⟨ps, b⟩) t).result = .ok (draft ⟨ps, .output b t.position name t.escape⟩) := by
  simp only [step, ht, ← draft_output]
  rfl

theorem step_opening {kind : BlockKind} (ht : t.content = .opening kind name) :
    (c.step (draft ⟨ps, b⟩) t).result =
      .ok (draft ⟨.first b t.position kind name :: ps, .empty⟩) := by
  simp only [step, ht, ← draft_openBlock]
  rfl

theorem step_otherwise {before : Body} {place : Position} {negated : Bool}
    (ht : t.content = .otherwise) :
    (c.step (draft ⟨.first before place (.guarded negated) name :: ps, b⟩) t).result =
      .ok (draft ⟨.second before place negated name b t.position :: ps, .empty⟩) := by
  rw [draft_openElse]
  cases negated <;> simp only [step, ht] <;> rfl

theorem step_closing {p : Pending} (ht : t.content = .closing (p.block 0).kind.word) :
    (c.step (draft ⟨p :: ps, b⟩) t).result = .ok (draft ⟨ps, p.close b t.position⟩) := by
  have hi : t.issue? (draft ⟨p :: ps, b⟩).opened = none := by
    cases p <;> exact Token.issue?_closing ht
  rw [step_of_fits hi, ← draft_closeBlock]
  simp only [apply, ht]
  rfl

end

/-- The tokens put a body at the end of the current one, whatever that is. -/
def Puts (c : Compilation) (ts : List Token) (b : Body) : Prop :=
  ∀ (ps : List Pending) (a : Body), (c.steps (draft ⟨ps, a⟩) ts).result = .ok (draft ⟨ps, a.join b⟩)

theorem steps_choice {us vs : List Token} {body other : Body} {opener turn close : Token}
    {negated : Bool} {name : Text} (ho : opener.content = .opening (.guarded negated) name)
    (hu : c.Puts us body) (he : turn.content = .otherwise) (hv : c.Puts vs other)
    (hc : close.content = .closing (BlockKind.guarded negated).word)
    (ps : List Pending) (a : Body) :
    (c.steps (draft ⟨ps, a⟩) (opener :: (us ++ turn :: (vs ++ [close])))).result =
      .ok (draft ⟨ps, .choice a opener.position negated name (.join .empty body) turn.position
        (.join .empty other) close.position⟩) := by
  let p : Pending := .second a opener.position negated name (.join .empty body) turn.position
  rw [result_steps_cons (step_opening ho), result_steps_append (hu _ _),
    result_steps_cons (step_otherwise he), result_steps_append (hv _ _),
    result_steps_cons (step_closing (p := p) hc)]
  rfl

/-- Tokens of a body put it at the end of the current one. -/
theorem steps_of_spells {b : Body} (hs : b.Spells ts) : c.Puts ts b := by
  intro ps a
  induction hs generalizing ps a with
  | empty => rfl
  | text hb ht ih =>
      rw [result_steps_append (ih ps a), result_steps_cons (step_text ht)]
      rfl
  | output hb ht ih =>
      rw [result_steps_append (ih ps a), result_steps_cons (step_output ht)]
      rfl
  | @branch before body ts us opener close negated name hb ho hu hc ih₁ ih₂ =>
      let p : Pending := .first (a.join before) opener.position (.guarded negated) name
      rw [result_steps_append (ih₁ ps a), result_steps_cons (step_opening ho),
        result_steps_append (ih₂ _ _), result_steps_cons (step_closing (p := p) hc)]
      cases negated <;> rfl
  | choice hb ho hu he hv hc ih₁ ih₂ ih₃ =>
      rw [result_steps_append (ih₁ ps a), steps_choice ho ih₂ he ih₃ hc]
      rfl
  | @loop before body ts us opener close name hb ho hu hc ih₁ ih₂ =>
      let p : Pending := .first (a.join before) opener.position .loopBlock name
      rw [result_steps_append (ih₁ ps a), result_steps_cons (step_opening ho),
        result_steps_append (ih₂ _ _), result_steps_cons (step_closing (p := p) hc)]
      rfl

theorem result_compile_of_steps {b : Body} (h : (c.steps .empty ts).result = .ok (draft ⟨[], b⟩)) :
    (c.compile ts).result = .ok ⟨(draft ⟨[], b⟩).ops, c.context.name⟩ := by
  simp [result_compile, h, closeAll_of_closed (d := draft ⟨[], b⟩) rfl]

/-- Tokens that spell a body compile to its layout. -/
theorem exists_compile_of_spells {b : Body} (hs : b.Spells ts) :
    ∃ p, (c.compile ts).result = .ok p ∧ p.ops.toList = (Body.empty.join b).code 0 .root :=
  ⟨_, result_compile_of_steps (steps_of_spells hs [] .empty), rfl⟩

end Compilation

end TagTemplate
