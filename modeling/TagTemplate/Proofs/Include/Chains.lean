/-
# Chains of includes

A template includes others by name, and a table says which text has which name.  So the
sources of a table are the vertices of a graph, and the edges are what the tokens of a
source include, in document order.

    Leads source names last    from `source`, including `names` one after the other leads
                               to `last`
    chains n source            the names along all ways of `n` steps; those through the
                               first include come first, and so on at each step

A circle makes chains of every length (`exists_leads_of_circle`).
-/
import TagTemplate.Proofs.Include.Fetch
import TagTemplate.Proofs.Token.Tiling

namespace TagTemplate.Environment

/-- The names of the templates that a source includes, in document order. -/
def inclusions (env : Environment) (source : Text) : List Text :=
  match Token.ofSource env.readsNewlines source with
  | .ok tokens => tokens.filterMap Token.inclusion?
  | .error _ => []

theorem inclusions_eq {env : Environment} {source : Text} {tokens : List Token}
    (h : Token.ofSource env.readsNewlines source = .ok tokens) :
    env.inclusions source = tokens.filterMap Token.inclusion? := by
  rw [inclusions, h]

theorem mem_inclusions {env : Environment} {source name : Text} :
    name ∈ env.inclusions source ↔ ∃ tokens, Token.ofSource env.readsNewlines source = .ok tokens ∧
      ∃ t ∈ tokens, t.content = .inclusion name := by
  unfold inclusions
  cases Token.ofSource env.readsNewlines source <;> simp [Token.inclusion?_eq_some]

/-! ## Names are made of name parts -/

theorem isNamePart_of_carries {tag : Tag} {lexeme name : Text} (h : tag.WrittenAs lexeme)
    (hcarries : Token.Content.Carries (.inclusion name) tag) :
    name ≠ [] ∧ ∀ c ∈ name, Tag.isNamePart c = true := by
  generalize hcontent : Token.Content.inclusion name = content at hcarries
  cases hcarries with
  | @named word _ name' opener _ hmem _ =>
      cases h with
      | named _ _ _ _ _ _ hne hparts _ _ _ _ _ =>
          simp only [Tag.openers, List.mem_cons, Prod.mk.injEq, List.not_mem_nil,
            or_false] at hmem
          rcases hmem with ⟨-, rfl⟩ | ⟨-, rfl⟩ | ⟨-, rfl⟩ | ⟨-, rfl⟩ | ⟨-, rfl⟩ <;> cases hcontent
          exact ⟨hne, hparts⟩
  | closing => cases hcontent
  | closingOdd => cases hcontent
  | otherwise => cases hcontent
  | nameless => cases hcontent

theorem isNamePart_of_inclusion {keepNewlines : Bool} {source name : Text} {tokens : List Token}
    {t : Token} (h : Token.ofSource keepNewlines source = .ok tokens) (ht : t ∈ tokens)
    (hname : t.content = .inclusion name) : name ≠ [] ∧ ∀ c ∈ name, Tag.isNamePart c = true := by
  rcases Token.exists_tag_of_mem h ht with ⟨value, hvalue⟩ | ⟨tag, _, hwritten, hcarries⟩
  · cases hname.symm.trans hvalue
  · exact isNamePart_of_carries hwritten (hname ▸ hcarries)

theorem isNamePart_of_mem_inclusions {env : Environment} {source name : Text}
    (h : name ∈ env.inclusions source) : name ≠ [] ∧ ∀ c ∈ name, Tag.isNamePart c = true := by
  obtain ⟨tokens, htokens, t, ht, hname⟩ := mem_inclusions.mp h
  exact isNamePart_of_inclusion htokens ht hname

/-! ## Chains -/

variable (env : Environment) (templates : List (Text × Text))

/-- From a source, including one after the other leads to the last. -/
inductive Leads : (source : Text) → (names : List Text) → (last : Text) → Prop
  | refl {source : Text} : Leads source [] source
  | step {source text last name : Text} {names : List Text} : name ∈ env.inclusions source →
      templates.lookup name = some text → Leads text names last → Leads source (name :: names) last

/-- The chains of so many includes from a source, in the order in which they are met. -/
def chains : (length : Nat) → (source : Text) → List (List Text)
  | 0, _ => [[]]
  | length + 1, source => (env.inclusions source).flatMap fun name =>
    match templates.lookup name with
    | some text => (chains length text).map (name :: ·)
    | none => []

variable {env templates} {source text last : Text} {names : List Text}

/-- The chains are the ways of that length. -/
theorem mem_chains {length : Nat} : names ∈ env.chains templates length source ↔
    names.length = length ∧ ∃ last, env.Leads templates source names last := by
  induction length generalizing source names with
  | zero =>
      rw [chains, List.mem_singleton, List.length_eq_zero_iff]
      constructor
      · rintro rfl
        exact ⟨rfl, source, .refl⟩
      · exact And.left
  | succ length ih =>
      rw [chains, List.mem_flatMap]
      constructor
      · rintro ⟨name, hname, hnames⟩
        split at hnames
        · next text hlookup =>
            obtain ⟨rest, hrest, rfl⟩ := List.mem_map.mp hnames
            obtain ⟨rfl, last, hleads⟩ := ih.mp hrest
            exact ⟨rfl, last, .step hname hlookup hleads⟩
        · cases hnames
      · rintro ⟨hlength, last, hleads⟩
        cases hleads with
        | refl => cases hlength
        | @step _ text _ name names hname hlookup hleads =>
            refine ⟨name, hname, ?_⟩
            rw [hlookup]
            exact List.mem_map_of_mem (ih.mpr ⟨Nat.succ.inj hlength, last, hleads⟩)

theorem Leads.trans {middle : Text} {names' : List Text}
    (h : env.Leads templates source names middle) (h' : env.Leads templates middle names' last) :
    env.Leads templates source (names ++ names') last := by
  induction h with
  | refl => exact h'
  | step hname hlookup _ ih => exact .step hname hlookup (ih h')

theorem Leads.exists_of_append {names' : List Text}
    (h : env.Leads templates source (names ++ names') last) :
    ∃ middle, env.Leads templates source names middle := by
  induction names generalizing source with
  | nil => exact ⟨source, .refl⟩
  | cons name names ih =>
      cases h with
      | step hname hlookup hleads =>
          obtain ⟨middle, hleads⟩ := ih hleads
          exact ⟨middle, .step hname hlookup hleads⟩

/-- From where a circle can be reached there are chains of every length. -/
theorem exists_leads_of_circle {circle : List Text} (h : env.Leads templates source names text)
    (hcircle : env.Leads templates text circle text) (hne : circle ≠ []) (length : Nat) :
    ∃ names' last, names'.length = length ∧ env.Leads templates source names' last := by
  have hlong : ∀ n, ∃ names', n ≤ names'.length ∧ env.Leads templates source names' text := by
    intro n
    induction n with
    | zero => exact ⟨names, Nat.zero_le _, h⟩
    | succ n ih =>
        obtain ⟨names', hn, hleads⟩ := ih
        refine ⟨names' ++ circle, ?_, hleads.trans hcircle⟩
        have := List.length_pos_iff.mpr hne
        rw [List.length_append]
        omega
  obtain ⟨names', hn, hleads⟩ := hlong length
  rw [← List.take_append_drop length names'] at hleads
  obtain ⟨last, hleads⟩ := hleads.exists_of_append
  exact ⟨names'.take length, last, List.length_take_of_le hn, hleads⟩

end TagTemplate.Environment
