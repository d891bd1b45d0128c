/-
# A tree of loaders is its leaves

Choices may lie in choices.  Such a tree behaves as the one choice among its leaves, the
loaders in it that are no choices, from left to right:

    fetching    the first leaf that says anything else than that it has no such template
                has the last word, and the leaves after it are not asked (`consult`)
    listing     every name once, in ascending order, that a leaf with a list has in it

Fetching and listing go through the tree each in its own way, and agree where every leaf
is a table: what is listed is what can be fetched.
-/
import TagTemplate.Loader.Basic
import Mathlib.Data.List.Nodup

namespace TagTemplate

/-! ## Names in order -/

namespace CodePoint

instance : Std.Irrefl fun a b : CodePoint => a < b := ⟨fun a => Nat.lt_irrefl a.val⟩

instance : Trans (fun a b : CodePoint => a < b) (fun a b => a < b) (fun a b => a < b) :=
  ⟨fun {a b c} (hab : a.val < b.val) (hbc : b.val < c.val) => Nat.lt_trans hab hbc⟩

instance : Std.Asymm fun a b : CodePoint => a < b := ⟨fun a _ => Nat.lt_asymm (a := a.val)⟩

instance : Std.Trichotomous fun a b : CodePoint => a < b where
  trichotomous := by
    rintro ⟨a, ha⟩ ⟨b, hb⟩ hab hba
    obtain rfl : a = b := Nat.le_antisymm (Nat.not_lt.mp hba) (Nat.not_lt.mp hab)
    rfl

end CodePoint

namespace Text

variable {a b c : Text}

theorem le_iff_not_lt : le a b ↔ ¬ b < a := by
  rw [le, Bool.not_eq_true', decide_eq_false_iff_not]

theorem eq_of_not_lt (hab : ¬ a < b) (hba : ¬ b < a) : a = b :=
  Std.Trichotomous.trichotomous (r := (· < ·)) a b hab hba

theorem le_trans (hab : le a b) (hbc : le b c) : le a c := by
  rw [le_iff_not_lt] at *
  intro hca
  by_cases hlt : a < b
  · exact hbc (List.lt_trans hca hlt)
  · obtain rfl := eq_of_not_lt hlt hab
    exact hbc hca

theorem le_total (a b : Text) : (le a b || le b a) = true := by
  rw [Bool.or_eq_true, le_iff_not_lt, le_iff_not_lt, ← not_and_or]
  exact fun h => List.lt_asymm h.1 h.2

end Text

namespace Loader

theorem nodup_eraseDups (names : List Text) : names.eraseDups.Nodup := by
  induction hlength : names.length using Nat.strongRecOn generalizing names with
  | ind length ih =>
      cases names with
      | nil => exact List.nodup_nil
      | cons name names =>
          rw [List.eraseDups_cons, List.nodup_cons, List.mem_eraseDups]
          have hshorter : (names.filter (! · == name)).length < length := by
            rw [← hlength]
            exact Nat.lt_succ_of_le (List.length_filter_le _ _)
          exact ⟨fun hmem => by simpa using List.of_mem_filter hmem, ih _ hshorter _ rfl⟩

theorem pairwise_sortNames (names : List Text) : (sortNames names).Pairwise (· < ·) := by
  have hle : (sortNames names).Pairwise fun a b => Text.le a b :=
    @List.pairwise_mergeSort _ Text.le (fun _ _ _ => Text.le_trans) Text.le_total _
  have hne : (sortNames names).Nodup := List.nodup_mergeSort.mpr (nodup_eraseDups names)
  refine (List.pairwise_and_iff.mpr ⟨hle, hne⟩).imp ?_
  rintro a b ⟨hle, hne⟩
  exact Decidable.byContradiction fun hlt =>
    hne (Text.eq_of_not_lt hlt (Text.le_iff_not_lt.mp hle))

theorem mem_sortNames {name : Text} {names : List Text} : name ∈ sortNames names ↔ name ∈ names :=
  List.mem_mergeSort.trans List.mem_eraseDups

/-! ## Leaves -/

mutual

/-- The loaders of a tree that are no choices, from left to right. -/
def leaves : Loader → List Loader
  | choice loaders => leavesAll loaders
  | leaf => [leaf]

def leavesAll : List Loader → List Loader
  | [] => []
  | loader :: loaders => leaves loader ++ leavesAll loaders

end

/-- The loader says that it has no template of the name. -/
def lacks (loader : Loader) (name : Text) : Bool :=
  match loader.fetch name with
  | .error e => e.isNotFound
  | .ok _ => false

/-- The loaders asked for a name, up to the first that does not lack it, and its answer. -/
def search (name : Text) : List Loader → List Loader × Option (Except Error Value)
  | [] => ([], none)
  | loader :: loaders =>
    if loader.lacks name then (loader :: (search name loaders).1, (search name loaders).2)
    else ([loader], some (loader.fetch name))

mutual

/-- Fetching, with the leaves that are asked recorded. -/
def consult : Loader → Text → StateM (List Loader) (Except Error Value)
  | choice loaders, name => do
    match ← consultFirst loaders name with
    | some answer => return answer
    | none =>
      return .error (.notFound (.inChoices name loaders.length) (some .templateNotFound))
  | leaf, name => do
    modify (· ++ [leaf])
    return leaf.fetch name

def consultFirst : List Loader → Text → StateM (List Loader) (Option (Except Error Value))
  | [], _ => return none
  | loader :: loaders, name => do
    match ← consult loader name with
    | .error e => if e.isNotFound then consultFirst loaders name else return some (.error e)
    | .ok answer => return some (.ok answer)

end

variable {name : Text} {loader leaf : Loader} {loaders before after : List Loader}

/-! ## Fetching -/

theorem fetchFirst_cons (loader : Loader) (loaders : List Loader) (name : Text) :
    fetchFirst (loader :: loaders) name =
      if loader.lacks name then fetchFirst loaders name else some (loader.fetch name) := by
  rw [fetchFirst, lacks]
  cases loader.fetch name <;> rfl

theorem not_isNotFound_of_fetchFirst {e : Error} (h : fetchFirst loaders name = some (.error e)) :
    e.isNotFound = false := by
  induction loaders with
  | nil => cases h
  | cons loader loaders ih =>
      rw [fetchFirst_cons] at h
      split at h
      · exact ih h
      · next hlacks =>
          rw [lacks, Option.some.inj h] at hlacks
          exact Bool.eq_false_iff.mpr hlacks

theorem lacks_choice (loaders : List Loader) (name : Text) :
    (choice loaders).lacks name = (fetchFirst loaders name).isNone := by
  rw [lacks, fetch]
  cases h : fetchFirst loaders name with
  | none => rfl
  | some answer =>
      cases answer with
      | ok answer => rfl
      | error e => exact not_isNotFound_of_fetchFirst h

theorem search_append_snd (name : Text) (before after : List Loader) :
    (search name (before ++ after)).2 = (search name before).2.or (search name after).2 := by
  induction before with
  | nil => rfl
  | cons loader before ih =>
      rw [List.cons_append, search, search]
      split
      · exact ih
      · rfl

theorem search_append_fst (name : Text) (before after : List Loader) :
    (search name (before ++ after)).1 = (search name before).1 ++
      if (search name before).2.isNone then (search name after).1 else [] := by
  induction before with
  | nil => rfl
  | cons loader before ih =>
      rw [List.cons_append, search, search]
      split
      · exact congrArg (loader :: ·) ih
      · rfl

theorem search_singleton (name : Text) (loader : Loader) :
    search name [loader] =
      ([loader], if loader.lacks name then none else some (loader.fetch name)) := by
  rw [search]
  split <;> rfl

mutual

/-- A tree has the answer that is found among its leaves. -/
theorem search_leaves_snd (name : Text) : ∀ loader : Loader, (search name loader.leaves).2 =
    if loader.lacks name then none else some (loader.fetch name)
  | choice loaders => by
      rw [leaves, search_leavesAll_snd name loaders, lacks_choice, fetch]
      cases fetchFirst loaders name <;> rfl
  | mapping _ | files _ | function _ | unlisted _ | custom .. =>
      congrArg Prod.snd (search_singleton name _)

theorem search_leavesAll_snd (name : Text) : ∀ loaders : List Loader,
    (search name (leavesAll loaders)).2 = fetchFirst loaders name
  | [] => rfl
  | loader :: loaders => by
      rw [leavesAll, search_append_snd, search_leaves_snd name loader,
        search_leavesAll_snd name loaders, fetchFirst_cons]
      split <;> rfl

end

theorem run_bind {α β : Type} (x : StateM (List Loader) α) (f : α → StateM (List Loader) β)
    (asked : List Loader) : (x >>= f) asked = f (x asked).1 (x asked).2 := rfl

mutual

/-- The leaves asked are those up to the first that does not lack the template. -/
theorem consult_eq (name : Text) : ∀ (loader : Loader) (asked : List Loader),
    consult loader name asked = (loader.fetch name, asked ++ (search name loader.leaves).1)
  | choice loaders, asked => by
      rw [consult, leaves, fetch, run_bind, consultFirst_eq name loaders asked]
      cases fetchFirst loaders name <;> rfl
  | mapping _, asked | files _, asked | function _, asked | unlisted _, asked
  | custom .., asked => by
      rw [leaves, search_singleton]
      · rfl
      · exact nofun

theorem consultFirst_eq (name : Text) : ∀ (loaders asked : List Loader),
    consultFirst loaders name asked =
      (fetchFirst loaders name, asked ++ (search name (leavesAll loaders)).1)
  | [], asked => by
      rw [leavesAll, search, List.append_nil]
      rfl
  | loader :: loaders, asked => by
      rw [consultFirst, run_bind, consult_eq name loader, leavesAll, search_append_fst,
        search_leaves_snd, fetchFirst_cons, lacks, ← List.append_assoc]
      cases loader.fetch name with
      | ok answer => exact congrArg (_, ·) (List.append_nil _).symm
      | error e =>
          show (if e.isNotFound then consultFirst loaders name else pure (some (.error e))) _ = _
          split
          · exact consultFirst_eq name loaders _
          · exact congrArg (_, ·) (List.append_nil _).symm

end

theorem search_of_forall_lacks (h : ∀ l ∈ loaders, l.lacks name) :
    search name loaders = (loaders, none) := by
  induction loaders with
  | nil => rfl
  | cons loader loaders ih =>
      obtain ⟨hloader, hloaders⟩ := List.forall_mem_cons.mp h
      rw [search, if_pos hloader, ih hloaders]

theorem search_append_cons (hbefore : ∀ l ∈ before, l.lacks name) (hleaf : ¬ leaf.lacks name)
    (after : List Loader) :
    search name (before ++ leaf :: after) = (before ++ [leaf], some (leaf.fetch name)) := by
  have hafter : search name (leaf :: after) = ([leaf], some (leaf.fetch name)) := if_neg hleaf
  refine Prod.ext ?_ ?_
  · rw [search_append_fst, search_of_forall_lacks hbefore, hafter]
    rfl
  · rw [search_append_snd, search_of_forall_lacks hbefore, hafter]
    rfl

/-- The first leaf that does not lack the template answers for the tree, and is asked last. -/
theorem fetch_of_leaves_eq (hleaves : loader.leaves = before ++ leaf :: after)
    (hbefore : ∀ l ∈ before, l.lacks name) (hleaf : ¬ leaf.lacks name) (asked : List Loader) :
    loader.fetch name = leaf.fetch name ∧
      loader.consult name asked = (leaf.fetch name, asked ++ (before ++ [leaf])) := by
  have hsearch := search_append_cons hbefore hleaf after
  have hfetch := search_leaves_snd name loader
  rw [hleaves, hsearch] at hfetch
  split at hfetch
  · cases hfetch
  · rw [consult_eq, hleaves, hsearch, ← Option.some.inj hfetch]
    exact ⟨rfl, rfl⟩

theorem lacks_of_forall_leaves (h : ∀ l ∈ loader.leaves, l.lacks name) (asked : List Loader) :
    loader.lacks name ∧
      loader.consult name asked = (loader.fetch name, asked ++ loader.leaves) := by
  have hsearch := search_of_forall_lacks h
  have hfetch := search_leaves_snd name loader
  rw [hsearch] at hfetch
  split at hfetch
  · next hlacks => exact ⟨hlacks, by rw [consult_eq, hsearch]⟩
  · cases hfetch

theorem fetch_choice_of_lacks (h : (choice loaders).lacks name) :
    (choice loaders).fetch name =
      .error (.notFound (.inChoices name loaders.length) (some .templateNotFound)) := by
  rw [lacks_choice, Option.isNone_iff_eq_none] at h
  rw [fetch, h]

theorem forall_lacks_or_exists (name : Text) (leaves : List Loader) :
    (∀ l ∈ leaves, l.lacks name) ∨ ∃ before leaf after, leaves = before ++ leaf :: after ∧
      (∀ l ∈ before, l.lacks name) ∧ ¬ leaf.lacks name := by
  induction leaves with
  | nil => exact .inl nofun
  | cons leaf leaves ih =>
      by_cases hleaf : leaf.lacks name
      · rcases ih with hall | ⟨before, leaf', after, rfl, hbefore, hleaf'⟩
        · exact .inl (List.forall_mem_cons.mpr ⟨hleaf, hall⟩)
        · exact .inr ⟨leaf :: before, leaf', after, rfl,
            List.forall_mem_cons.mpr ⟨hleaf, hbefore⟩, hleaf'⟩
      · exact .inr ⟨[], leaf, leaves, rfl, nofun, hleaf⟩

/-! ## Listing -/

/-- The answer is what the loaders list together: every name in the list of one of them, or the
failure of the first that cannot give its list. -/
def ListedBy (loaders : List Loader) : Except Error (List Text) → Prop
  | .ok names => (∀ l ∈ loaders, ∀ e, l.list? ≠ some (.error e)) ∧
      ∀ name, name ∈ names ↔ ∃ l ∈ loaders, ∃ own, l.list? = some (.ok own) ∧ name ∈ own
  | .error e => ∃ before l after, loaders = before ++ l :: after ∧
      l.list? = some (.error e) ∧ ∀ l' ∈ before, ∀ e', l'.list? ≠ some (.error e')

theorem listedBy_nil : ListedBy [] (.ok []) :=
  ⟨nofun, fun _ => ⟨nofun, nofun⟩⟩

theorem listedBy_singleton (leaf : Loader) : ListedBy [leaf] (leaf.list?.getD (.ok [])) := by
  cases h : leaf.list? with
  | none => exact ⟨by simp [h], by simp [h]⟩
  | some own =>
      cases own with
      | ok names => exact ⟨by simp [h], by simp [h]⟩
      | error e => exact ⟨[], leaf, [], rfl, h, nofun⟩

theorem ListedBy.sorted {own : Except Error (List Text)} (h : ListedBy loaders own) :
    ListedBy loaders (own.map sortNames) := by
  cases own with
  | error e => exact h
  | ok names => exact ⟨h.1, fun name => mem_sortNames.trans (h.2 name)⟩

theorem ListedBy.append {left right : Except Error (List Text)} (hleft : ListedBy before left)
    (hright : ListedBy after right) : ListedBy (before ++ after) (do
      let here ← left
      return here ++ (← right)) := by
  cases left with
  | error e =>
      obtain ⟨before', l, after', rfl, hl, hbefore⟩ := hleft
      exact ⟨before', l, after' ++ after, by simp, hl, hbefore⟩
  | ok here =>
      cases right with
      | error e =>
          obtain ⟨before', l, after', rfl, hl, hbefore⟩ := hright
          refine ⟨before ++ before', l, after', by simp, hl, ?_⟩
          exact List.forall_mem_append.mpr ⟨hleft.1, hbefore⟩
      | ok there =>
          refine ⟨List.forall_mem_append.mpr ⟨hleft.1, hright.1⟩, fun name => ?_⟩
          rw [List.mem_append, hleft.2, hright.2]
          simp only [List.mem_append, or_and_right, exists_or]

mutual

/-- A tree lists what its leaves list together. -/
theorem listedBy_leaves : ∀ loader : Loader,
    ListedBy loader.leaves (loader.list?.getD (.ok []))
  | choice loaders => by
      rw [leaves, list?]
      exact (listedBy_leavesAll loaders).sorted
  | mapping _ | files _ | function _ | unlisted _ | custom .. => listedBy_singleton _

theorem listedBy_leavesAll : ∀ loaders : List Loader,
    ListedBy (leavesAll loaders) (listAll loaders)
  | [] => listedBy_nil
  | loader :: loaders => by
      rw [leavesAll, listAll]
      exact (listedBy_leaves loader).append (listedBy_leavesAll loaders)

end

theorem pairwise_of_list?_choice {names : List Text}
    (h : (choice loaders).list? = some (.ok names)) : names.Pairwise (· < ·) := by
  rw [list?] at h
  cases hall : listAll loaders with
  | error e => rw [hall] at h; cases h
  | ok all =>
      rw [hall] at h
      cases h
      exact pairwise_sortNames all

/-! ## Tables -/

theorem lacks_mapping (templates : List (Text × Text)) (name : Text) :
    (mapping templates).lacks name = (templates.lookup name).isNone := by
  rw [lacks, fetch]
  cases templates.lookup name <;> rfl

theorem isNone_lookup_iff (templates : List (Text × Text)) (name : Text) :
    (templates.lookup name).isNone ↔ name ∉ templates.map (·.1) := by
  simp only [Option.isNone_iff_eq_none, List.lookup_eq_none_iff, bne_iff_ne, List.mem_map,
    not_exists, not_and]
  exact forall₂_congr fun _ _ => ne_comm

theorem mem_sortNames_iff_not_lacks {templates : List (Text × Text)} :
    name ∈ sortNames (templates.map (·.1)) ↔ ¬ (mapping templates).lacks name := by
  rw [mem_sortNames, lacks_mapping, isNone_lookup_iff, not_not]

def AllTables (leaves : List Loader) : Prop := ∀ l ∈ leaves, ∃ templates, l = mapping templates

theorem exists_list?_of_allTables (h : AllTables loader.leaves) :
    ∃ names, loader.list? = some (.ok names) ∧ names.Pairwise (· < ·) := by
  have hlisted := listedBy_leaves loader
  cases loader with
  | mapping templates => exact ⟨_, rfl, pairwise_sortNames _⟩
  | choice loaders =>
      cases hall : listAll loaders with
      | error e =>
          rw [list?, hall] at hlisted
          obtain ⟨before, l, after, hleaves, hl, -⟩ := hlisted
          obtain ⟨templates, rfl⟩ := h l (hleaves ▸ by simp)
          cases hl
      | ok names =>
          have hlist : (choice loaders).list? = some (.ok (sortNames names)) := by
            rw [list?, hall]
            rfl
          exact ⟨_, hlist, pairwise_of_list?_choice hlist⟩
  | files store => obtain ⟨templates, heq⟩ := h _ List.mem_cons_self; cases heq
  | function answer => obtain ⟨templates, heq⟩ := h _ List.mem_cons_self; cases heq
  | unlisted inner => obtain ⟨templates, heq⟩ := h _ List.mem_cons_self; cases heq
  | custom title answer own => obtain ⟨templates, heq⟩ := h _ List.mem_cons_self; cases heq

/-- A tree of tables answers with the text of the first table that has the name. -/
theorem fetch_eq_ok_iff_of_allTables (h : AllTables loader.leaves) (answer : Value) :
    loader.fetch name = .ok answer ↔ ∃ before templates after text,
      loader.leaves = before ++ mapping templates :: after ∧ (∀ l ∈ before, l.lacks name) ∧
        templates.lookup name = some text ∧ answer = .tuple [.text text, .null] := by
  constructor
  · intro hfetch
    rcases forall_lacks_or_exists name loader.leaves with
      hall | ⟨before, leaf, after, hleaves, hbefore, hleaf⟩
    · have hlacks := (lacks_of_forall_leaves hall []).1
      rw [lacks, hfetch] at hlacks
      cases hlacks
    · obtain ⟨templates, rfl⟩ := h leaf (hleaves ▸ by simp)
      rw [(fetch_of_leaves_eq hleaves hbefore hleaf []).1, fetch] at hfetch
      cases hlookup : templates.lookup name with
      | none => rw [hlookup] at hfetch; cases hfetch
      | some text =>
          rw [hlookup] at hfetch
          cases hfetch
          exact ⟨before, templates, after, text, hleaves, hbefore, hlookup, rfl⟩
  · rintro ⟨before, templates, after, text, hleaves, hbefore, hlookup, rfl⟩
    have hleaf : ¬ (mapping templates).lacks name := by
      rw [lacks_mapping, hlookup]
      exact nofun
    rw [(fetch_of_leaves_eq hleaves hbefore hleaf []).1, fetch, hlookup]

theorem mem_list?_iff_of_allTables {names : List Text} (h : AllTables loader.leaves)
    (hlist : loader.list? = some (.ok names)) :
    name ∈ names ↔ ∃ answer, loader.fetch name = .ok answer := by
  have hlisted := listedBy_leaves loader
  rw [hlist] at hlisted
  rw [hlisted.2 name]
  constructor
  · rintro ⟨l, hl, own, hown, hname⟩
    obtain ⟨templates, rfl⟩ := h l hl
    cases hown
    rcases forall_lacks_or_exists name loader.leaves with
      hall | ⟨before, leaf, after, hleaves, hbefore, hleaf⟩
    · exact absurd (hall _ hl) (mem_sortNames_iff_not_lacks.mp hname)
    · obtain ⟨templates, rfl⟩ := h leaf (hleaves ▸ by simp)
      rw [lacks_mapping, Bool.not_eq_true, Option.isNone_eq_false_iff,
        Option.isSome_iff_exists] at hleaf
      obtain ⟨text, hlookup⟩ := hleaf
      exact ⟨_, (fetch_eq_ok_iff_of_allTables h _).mpr
        ⟨before, templates, after, text, hleaves, hbefore, hlookup, rfl⟩⟩
  · rintro ⟨answer, hfetch⟩
    obtain ⟨before, templates, after, text, hleaves, -, hlookup, -⟩ :=
      (fetch_eq_ok_iff_of_allTables h answer).mp hfetch
    refine ⟨mapping templates, hleaves ▸ by simp, _, rfl, mem_sortNames_iff_not_lacks.mpr ?_⟩
    rw [lacks_mapping, hlookup]
    exact nofun

/-! ## Trees as their leaves -/

/-- A tree of loaders behaves as its leaves do, one after the other.  The first leaf that does not
lack a template answers for the tree, whether with a value or with an error of another kind, and
the leaves after it are not asked; where all leaves lack it, the tree lacks it, and a choice says
so in its own words.  A choice lists in ascending order, each once, the names that a leaf with a
list has in it, or fails as the first leaf that fails to list.  Where all leaves are tables there
is a list, and the names in it are those that can be fetched, each with the text that the first
table with the name has for it. -/
theorem behaves_as_leaves :
    (∀ (loader : Loader) (name : Text) (asked : List Loader),
      (∀ before leaf after, loader.leaves = before ++ leaf :: after →
        (∀ l ∈ before, l.lacks name) → ¬ leaf.lacks name →
        loader.fetch name = leaf.fetch name ∧
          loader.consult name asked = (leaf.fetch name, asked ++ (before ++ [leaf]))) ∧
      ((∀ l ∈ loader.leaves, l.lacks name) →
        loader.lacks name ∧
          loader.consult name asked = (loader.fetch name, asked ++ loader.leaves))) ∧
    (∀ (loaders : List Loader) (name : Text), (choice loaders).lacks name →
      (choice loaders).fetch name =
        .error (.notFound (.inChoices name loaders.length) (some .templateNotFound))) ∧
    (∀ loaders : List Loader, ∃ answer, (choice loaders).list? = some answer ∧
      ListedBy (choice loaders).leaves answer ∧
      ∀ names, answer = .ok names → names.Pairwise (· < ·)) ∧
    ∀ loader : Loader, AllTables loader.leaves →
      ∃ names, loader.list? = some (.ok names) ∧ names.Pairwise (· < ·) ∧
        ∀ name, (name ∈ names ↔ ∃ answer, loader.fetch name = .ok answer) ∧
          ∀ answer, loader.fetch name = .ok answer ↔ ∃ before templates after text,
            loader.leaves = before ++ mapping templates :: after ∧
              (∀ l ∈ before, l.lacks name) ∧ templates.lookup name = some text ∧
              answer = .tuple [.text text, .null] := by
  refine ⟨fun loader name asked => ⟨fun before leaf after hleaves hbefore hleaf => ?_, ?_⟩,
    fun loaders name => fetch_choice_of_lacks, fun loaders => ?_, fun loader h => ?_⟩
  · exact fetch_of_leaves_eq hleaves hbefore hleaf asked
  · exact fun h => lacks_of_forall_leaves h asked
  · refine ⟨(listAll loaders).map sortNames, rfl, ?_, fun names hnames => ?_⟩
    · exact (listedBy_leavesAll loaders).sorted
    · exact pairwise_of_list?_choice (congrArg some hnames)
  · obtain ⟨names, hlist, hascending⟩ := exists_list?_of_allTables h
    exact ⟨names, hlist, hascending, fun name =>
      ⟨mem_list?_iff_of_allTables h hlist, fetch_eq_ok_iff_of_allTables h⟩⟩

/-- A loader that fails in a choice within a choice is the last one asked; and of two tables the
first has the text. -/
theorem behaves_as_leaves_nested :
    let front : Loader := mapping [("b.tmpl", "B")]
    let back : Loader := mapping [("b.tmpl", "other"), ("a.tmpl", "A")]
    let fault : Error := .raised (.other "ConnectionError") "timed out"
    let broken : Loader := custom "DatabaseLoader" (fun _ => .error fault) none
    let tree : Loader := choice [choice [], choice [front, broken], back]
    let tables : Loader := choice [front, choice [back]]
    tree.leaves = [front, broken, back] ∧ tree.fetch "a.tmpl" = .error fault ∧
      tree.consult "a.tmpl" [] = (.error fault, [front, broken]) ∧
      (∃ names : List Text, tables.list? = some (.ok names) ∧ ("a.tmpl" : Text) ∈ names) ∧
      tables.fetch "b.tmpl" = .ok (.tuple [.text "B", .null]) := by
  intro front back fault broken tree tables
  have hleaf := (behaves_as_leaves.1 tree "a.tmpl" []).1 [front] broken [back] rfl
    (List.forall_mem_singleton.mpr (by decide)) (by decide)
  have htables : AllTables tables.leaves :=
    List.forall_mem_cons.mpr ⟨⟨_, rfl⟩, List.forall_mem_singleton.mpr ⟨_, rfl⟩⟩
  obtain ⟨names, hlist, -, hnames⟩ := behaves_as_leaves.2.2.2 tables htables
  refine ⟨rfl, hleaf.1, hleaf.2, ⟨names, hlist, ?_⟩, ?_⟩
  · exact (hnames "a.tmpl").1.mpr ⟨_, ((hnames "a.tmpl").2 _).mpr
      ⟨[front], _, [], _, rfl, List.forall_mem_singleton.mpr (by decide), rfl, rfl⟩⟩
  · exact ((hnames "b.tmpl").2 _).mpr ⟨[], _, [back], _, rfl, nofun, rfl, rfl⟩

end Loader

end TagTemplate
