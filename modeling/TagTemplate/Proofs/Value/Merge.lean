/-
# Merging — named values over data

`data.merge named` is one of four things (`data.Merged named`):

    no names               the data itself
    null                   a dictionary of the names alone
    a mapping              a dictionary of its entries, updated by the names
    anything else          an error, which names the type of the data

Updated entries (`Updated es named es'`) have the last value of each name, and what they
had for other texts; keys that are no texts keep their values; and keys keep their
places, with new names after them.
-/
import TagTemplate.Template

namespace TagTemplate.Value

def isNoText : Value → Bool
  | text _ => false
  | _ => true

/-- The second entries are the first, updated by names with values. -/
structure Updated (es : List (Value × Value)) (named : List (Text × Value))
    (es' : List (Value × Value)) : Prop where
  /-- A text has the last value for it among the names, or else the value it had. -/
  value : ∀ key, findText? key es' = (named.reverse.lookup key).or (findText? key es)
  other : es'.filter (·.1.isNoText) = es.filter (·.1.isNoText)
  keys : ∃ names, es'.map (·.1) = es.map (·.1) ++ List.map Value.text names

/-- What named values merged over data are. -/
inductive Merged (data : Value) : List (Text × Value) → Except Error Value → Prop
  | bare : Merged data [] (.ok data)
  | alone {named : List (Text × Value)} {es : List (Value × Value)} : named ≠ [] → data = null →
      Updated [] named es → Merged data named (.ok (dict es))
  | over {named : List (Text × Value)} {es es' : List (Value × Value)} : named ≠ [] →
      data.entries? = some es → Updated es named es' → Merged data named (.ok (dict es'))
  | refused {named : List (Text × Value)} : named ≠ [] → data ≠ null → data.entries? = none →
      Merged data named (.error (.mergeIntoNonMapping data.typeName))

variable {es es' : List (Value × Value)} {named : List (Text × Value)} {name key : Text}
  {value : Value}

/-! ## One name -/

theorem sameKey_text_of_isNoText {k : Value} (h : k.isNoText = true) :
    sameKey k (text name) = false := by
  cases k with
  | text t => cases h
  | sequence kind items => cases kind <;> rfl
  | float x =>
      unfold sameKey
      cases (float x).numericKey? <;> rfl
  | complex re im =>
      unfold sameKey
      cases (complex re im).numericKey? <;> rfl
  | decimal d =>
      unfold sameKey
      cases (decimal d).numericKey? <;> rfl
  | _ => rfl

theorem findText?_cons_of_isNoText {k v : Value} (h : k.isNoText = true) :
    findText? key ((k, v) :: es) = findText? key es := by
  cases k with
  | text t => cases h
  | _ => rfl

theorem text_or_isNoText (k : Value) : (∃ t, k = text t) ∨ k.isNoText = true := by
  cases k with
  | text t => exact .inl ⟨t, rfl⟩
  | _ => exact .inr rfl

theorem findText?_insertEntry :
    findText? key (insertEntry (text name) value es) =
      if name = key then some value else findText? key es := by
  induction es with
  | nil => rfl
  | cons e es ih =>
      obtain ⟨k, v⟩ := e
      rw [insertEntry]
      rcases k.text_or_isNoText with ⟨t, rfl⟩ | hk
      · by_cases hname : t = name
        · subst hname
          rw [if_pos (by simp [sameKey]), findText?, findText?]
          split <;> rfl
        · rw [if_neg (by simp [sameKey, hname]), findText?, findText?, ih]
          split
          · next hkey => rw [if_neg fun h => hname (hkey.trans h.symm)]
          · rfl
      · rw [sameKey_text_of_isNoText hk, if_neg Bool.false_ne_true, findText?_cons_of_isNoText hk,
          findText?_cons_of_isNoText hk, ih]

theorem filter_insertEntry :
    (insertEntry (text name) value es).filter (·.1.isNoText) = es.filter (·.1.isNoText) := by
  induction es with
  | nil => rfl
  | cons e es ih =>
      obtain ⟨k, v⟩ := e
      rw [insertEntry]
      rcases k.text_or_isNoText with ⟨t, rfl⟩ | hk
      · split
        · rfl
        · exact ih
      · rw [sameKey_text_of_isNoText hk, if_neg Bool.false_ne_true]
        simp only [List.filter_cons, hk, ih]

theorem keys_insertEntry :
    ∃ names, (insertEntry (text name) value es).map (·.1) =
      es.map (·.1) ++ List.map Value.text names := by
  induction es with
  | nil => exact ⟨[name], rfl⟩
  | cons e es ih =>
      obtain ⟨k, v⟩ := e
      rw [insertEntry]
      split
      · exact ⟨[], (List.append_nil _).symm⟩
      · obtain ⟨names, hnames⟩ := ih
        exact ⟨names, congrArg (k :: ·) hnames⟩

/-! ## All names -/

theorem Updated.nil (es : List (Value × Value)) : Updated es [] es :=
  ⟨fun _ => rfl, rfl, [], (List.append_nil _).symm⟩

theorem Updated.cons (h : Updated (insertEntry (text name) value es) named es') :
    Updated es ((name, value) :: named) es' where
  value key := by
    rw [h.value, findText?_insertEntry, List.reverse_cons, List.lookup_append, Option.or_assoc]
    congr 1
    by_cases hname : name = key
    · subst hname
      simp
    · simp [List.lookup_cons, hname, beq_false_of_ne (Ne.symm hname)]
  other := h.other.trans filter_insertEntry
  keys := by
    obtain ⟨names, hnames⟩ := h.keys
    obtain ⟨first, hfirst⟩ := keys_insertEntry
    refine ⟨first ++ names, ?_⟩
    rw [hnames, hfirst, List.map_append, List.append_assoc]

theorem updated_foldl (es : List (Value × Value)) (named : List (Text × Value)) :
    Updated es named (named.foldl (fun es n => insertEntry (text n.1) n.2 es) es) := by
  induction named generalizing es with
  | nil => exact .nil es
  | cons n named ih => exact (ih _).cons

/-- What `merge` gives is what named values merged over data are. -/
theorem merged_merge (data : Value) (named : List (Text × Value)) :
    data.Merged named (data.merge named) := by
  by_cases hnamed : named = []
  · subst hnamed
    exact .bare
  have hsome : ¬ named.isEmpty = true := fun h => hnamed (List.isEmpty_iff.mp h)
  unfold merge
  simp only [if_neg hsome]
  split
  · exact .alone hnamed rfl (updated_foldl [] named)
  · next hnull =>
      split
      · next es hes => exact .over hnamed hes (updated_foldl es named)
      · next hes => exact .refused hnamed hnull hes

end TagTemplate.Value
