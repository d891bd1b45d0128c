/-
# Entities — what is escaped for markup can be read back

Markup has an entity for each of five characters, and is read from left to right: an
entity is its character, and whatever is no entity is itself.

    escaping    c, one of the five   becomes   its entity       &  ↦  &amp;
                any other            stays     as it is         a  ↦  a
    reading     an entity            becomes   its character    &amp;lt;  ↦  &lt;
                any other            stays     as it is

Reading undoes escaping (`htmlRead_htmlEscaped`), also for texts that look like entities.
The reason is that an entity has its ampersand in front and nowhere else, so the entities
that a reader meets are those that were put there, one for each of the five characters.
-/
import TagTemplate.Proofs.Machine.Markup

namespace TagTemplate

/-- The entities, each with the character it stands for. -/
def entities : List (Text × CodePoint) :=
  [("&amp;", .ofChar '&'), ("&lt;", .ofChar '<'), ("&gt;", .ofChar '>'),
   ("&quot;", .ofChar '\x22'), ("&#39;", .ofChar '\x27')]

def ampersand : CodePoint := .ofChar '&'

namespace Text

/-- The entity that a text begins with. -/
def entityAtStart? (t : Text) : Option (Text × CodePoint) :=
  entities.find? fun entity => entity.1.isPrefixOf t

/-- A text as markup is read, after its first `skip` code points. -/
def htmlReadFrom : (skip : Nat) → Text → Text
  | _, [] => []
  | skip + 1, _ :: r => htmlReadFrom skip r
  | 0, c :: r =>
    match entityAtStart? (c :: r) with
    | some (entity, d) => d :: htmlReadFrom (entity.length - 1) r
    | none => c :: htmlReadFrom 0 r

/-- A text as markup is read: its entities, from left to right, are their characters. -/
def htmlRead (t : Text) : Text := htmlReadFrom 0 t

variable {t u entity rest : Text} {c : CodePoint}

/-! ## Reading -/

theorem htmlReadFrom_append (skipped rest : Text) :
    htmlReadFrom skipped.length (skipped ++ rest) = htmlRead rest := by
  induction skipped with
  | nil => rfl
  | cons c skipped ih => exact ih

theorem htmlRead_entity (h : (entity, c) ∈ entities) :
    htmlRead (entity ++ rest) = c :: htmlRead rest := by
  have hstart : entityAtStart? (entity ++ rest) = some (entity, c) := by
    simp only [entities, List.mem_cons, Prod.mk.injEq, List.not_mem_nil, or_false] at h
    rcases h with ⟨rfl, rfl⟩ | ⟨rfl, rfl⟩ | ⟨rfl, rfl⟩ | ⟨rfl, rfl⟩ | ⟨rfl, rfl⟩ <;> rfl
  have hne : ∀ e ∈ entities, e.1 ≠ [] := by decide
  obtain ⟨d, r, rfl⟩ := List.exists_cons_of_ne_nil (hne _ h)
  rw [List.cons_append] at hstart ⊢
  rw [htmlRead, htmlReadFrom, hstart]
  exact congrArg (c :: ·) (htmlReadFrom_append r rest)

theorem htmlRead_cons (h : c ≠ ampersand) : htmlRead (c :: t) = c :: htmlRead t := by
  have hfronts : ∀ e ∈ entities, e.1.head? = some ampersand := by decide
  have hstart : entityAtStart? (c :: t) = none := by
    refine List.find?_eq_none.mpr fun e he hprefix => ?_
    obtain ⟨r, hr⟩ := List.head?_eq_some_iff.mp (hfronts e he)
    rw [hr, List.isPrefixOf_cons_cons, Bool.and_eq_true, beq_iff_eq] at hprefix
    exact h hprefix.1.symm
  rw [htmlRead, htmlReadFrom, hstart]
  rfl

/-! ## Escaping -/

/-- A character is escaped by its entity, or stays as it is and then is none of the five. -/
theorem htmlEscaped_cases (c : CodePoint) :
    (∃ entity, (entity, c) ∈ entities ∧ c.htmlEscaped = entity) ∨
      c ≠ ampersand ∧ c.htmlEscaped = [c] := by
  rw [CodePoint.htmlEscaped]
  cases hlookup : htmlEntities.lookup c with
  | some entity =>
      obtain ⟨front, back, heq, -⟩ := List.lookup_eq_some_iff.mp hlookup
      have hentities : ∀ e ∈ htmlEntities, (e.2, e.1) ∈ entities := by decide
      exact .inl ⟨entity, hentities (c, entity) (heq ▸ List.mem_append_right _ List.mem_cons_self),
        rfl⟩
  | none =>
      refine .inr ⟨?_, rfl⟩
      rintro rfl
      cases hlookup

theorem htmlEscaped_cons (c : CodePoint) (t : Text) :
    Text.htmlEscaped (c :: t) = c.htmlEscaped ++ t.htmlEscaped := List.flatMap_cons

theorem htmlEscaped_append (t u : Text) :
    Text.htmlEscaped (t ++ u) = t.htmlEscaped ++ u.htmlEscaped := List.flatMap_append

theorem htmlRead_htmlEscaped (t : Text) : t.htmlEscaped.htmlRead = t := by
  induction t with
  | nil => rfl
  | cons c t ih =>
      rw [htmlEscaped_cons]
      rcases htmlEscaped_cases c with ⟨entity, hentity, heq⟩ | ⟨hne, heq⟩
      · rw [heq, htmlRead_entity hentity, ih]
      · rw [heq, List.singleton_append, htmlRead_cons hne, ih]

/-- An ampersand within what a character is escaped by is the first of an entity. -/
theorem eq_nil_of_htmlEscaped {before after : Text}
    (h : c.htmlEscaped = before ++ ampersand :: after) :
    before = [] ∧ ∃ e ∈ entities, e.1 = ampersand :: after := by
  have hfronts : ∀ e ∈ entities, ampersand ∉ e.1.tail := by decide
  rcases htmlEscaped_cases c with ⟨entity, hentity, heq⟩ | ⟨hne, heq⟩
  · obtain rfl := heq.symm.trans h
    cases before with
    | nil => exact ⟨rfl, _, hentity, rfl⟩
    | cons d before => exact absurd (by simp) (hfronts _ hentity)
  · obtain ⟨rfl, hd⟩ :=
      (List.append_eq_singleton_iff.mp (h.symm.trans heq)).resolve_right (by simp)
    cases hd
    exact absurd rfl hne

theorem exists_entity_of_ampersand {before after : Text}
    (h : t.htmlEscaped = before ++ ampersand :: after) :
    ∃ e ∈ entities, e.1 <+: ampersand :: after := by
  induction t generalizing before with
  | nil => cases before <;> cases h
  | cons c t ih =>
      rw [htmlEscaped_cons] at h
      -- the ampersand is in what the first character is escaped by, or behind it
      obtain ⟨between, rfl, hrest⟩ | ⟨between, hfirst, hrest⟩ := List.append_eq_append_iff.mp h
      · exact ih hrest
      · cases between with
        | nil => exact @ih [] hrest.symm
        | cons d between =>
            obtain ⟨rfl, rfl⟩ := List.cons.inj hrest
            obtain ⟨-, e, he, heq⟩ := eq_nil_of_htmlEscaped hfirst
            exact ⟨e, he, heq ▸ List.prefix_append (ampersand :: between) _⟩

/-- **Escaping for markup is reversible.**  What is escaped is read back as it was, so different
texts stay different; texts are escaped piece by piece; and what comes of it has no bracket and no
quotation mark, and no ampersand but in front of an entity. -/
theorem htmlEscaped_reversible (t u : Text) :
    t.htmlEscaped.htmlRead = t ∧ Function.Injective Text.htmlEscaped ∧
    Text.htmlEscaped (t ++ u) = t.htmlEscaped ++ u.htmlEscaped ∧
    (∀ c ∈ t.htmlEscaped, c.isMarkup = false) ∧
    ∀ before after, t.htmlEscaped = before ++ ampersand :: after →
      ∃ e ∈ entities, e.1 <+: ampersand :: after := by
  refine ⟨htmlRead_htmlEscaped t, Function.LeftInverse.injective htmlRead_htmlEscaped,
    htmlEscaped_append t u, fun d hd => ?_, fun _ _ => exists_entity_of_ampersand⟩
  obtain ⟨c, -, hd⟩ := List.mem_flatMap.mp hd
  exact isMarkup_of_mem_htmlEscaped hd

/-- Escaping once, escaping twice, and reading once what was escaped twice. -/
example : Text.htmlEscaped "<" = "&lt;" ∧ Text.htmlEscaped "&lt;" = "&amp;lt;" ∧
    htmlRead "&amp;lt;" = "&lt;" ∧ htmlRead "a & b &lt &am&amp;p;" = "a & b &lt &am&p;" := by
  decide

end Text

end TagTemplate
