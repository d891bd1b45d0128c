/-
# Plain data — lookups are lenient

Plain data is built from null, booleans, integers that can be written, texts without
surrogates, sequences, mappings whose keys are texts, and natives of these.  What a segment
is found to be in it is one of three things (`v.Found key`):

    provided   the entry, the item, the attribute or the part that the segment names
    absent     undefined, where the segment names nothing
    overlong   an error, for more digits than an index is read from, in a sequence

Attributes by type are not fixed here, so it is asked of them that those of plain data are
plain (`Traits.Plain`), as methods and types are.  Then what plain data provides is plain
again, and plain data can be written, tested and counted.  So along a path nothing fails but
a segment of too many digits.

A segment of digits has to be a numeral (`key.Readable`), which digits that are no decimal
digits are not.
-/
import TagTemplate.Proofs.Meaning.Basic
import TagTemplate.Proofs.Text.Scalar
import TagTemplate.Proofs.Traced

namespace TagTemplate

/-! ## Digits -/

namespace Text

variable {t : Text}

/-- If the text is all digits, these are decimal digits. -/
def Readable (t : Text) : Prop := t.isDigits = true → ∀ c ∈ t, c.decimalValue?.isSome = true

theorem leadingDecimals_of_forall (h : ∀ c ∈ t, c.decimalValue?.isSome = true) :
    t.leadingDecimals = t.length := by
  rw [leadingDecimals, List.takeWhile_eq_self_iff.mpr h]

theorem exists_foldl_decimals (h : ∀ c ∈ t, c.decimalValue?.isSome = true) (start : Nat) :
    ∃ n, t.foldl (fun acc c => do return 10 * (← acc) + (← c.decimalValue?)) (some start) =
      some n := by
  induction t generalizing start with
  | nil => exact ⟨start, rfl⟩
  | cons c t ih =>
      obtain ⟨hc, ht⟩ := List.forall_mem_cons.mp h
      obtain ⟨d, hd⟩ := Option.isSome_iff_exists.mp hc
      obtain ⟨n, hn⟩ := ih ht (10 * start + d)
      refine ⟨n, ?_⟩
      rw [List.foldl_cons, hd]
      exact hn

theorem exists_numeral (hne : t ≠ []) (h : ∀ c ∈ t, c.decimalValue?.isSome = true) :
    ∃ n, t.numeral? = some n := by
  obtain ⟨c, r, rfl⟩ := List.exists_cons_of_ne_nil hne
  exact exists_foldl_decimals h 0

theorem isDigits_of_forall (hne : t ≠ []) (h : ∀ c ∈ t, c.decimalValue?.isSome = true) :
    t.isDigits = true := by
  have hall : t.all CodePoint.isDigit = true :=
    List.all_eq_true.mpr fun c hc => by rw [CodePoint.isDigit, h c hc, Bool.true_or]
  rw [isDigits, hall, List.isEmpty_eq_false_iff.mpr hne]
  rfl

theorem ne_nil_of_isDigits (h : t.isDigits = true) : t ≠ [] := by
  rintro rfl
  cases h

end Text

/-! ## Lenient outcomes -/

/-- The outcome is as it should be, or fails at one of the segments, which has too many digits. -/
def Lenient {α : Type} (segments : List Text) (r : Except Error α) (Good : α → Prop) : Prop :=
  (∃ a, r = .ok a ∧ Good a) ∨ ∃ key ∈ segments, key.isDigits = true ∧ maxDigits < key.length ∧
    r = .error (.numeralTooLong key.length)

namespace Lenient

variable {α β : Type} {segments segments' : List Text} {r : Except Error α} {Good : α → Prop}

theorem of_ok {a : α} (h : Good a) : Lenient segments (.ok a) Good := .inl ⟨a, rfl, h⟩

theorem mono (h : Lenient segments r Good) (hsub : segments ⊆ segments') :
    Lenient segments' r Good :=
  h.imp_right fun ⟨key, hkey, hlong⟩ => ⟨key, hsub hkey, hlong⟩

theorem bind {f : α → Except Error β} {Good' : β → Prop} (h : Lenient segments r Good)
    (hf : ∀ a, Good a → Lenient segments (f a) Good') : Lenient segments (r >>= f) Good' := by
  rcases h with ⟨a, rfl, ha⟩ | ⟨key, hkey, hdigits, hlong, rfl⟩
  · exact hf a ha
  · exact .inr ⟨key, hkey, hdigits, hlong, rfl⟩

end Lenient

namespace Value

/-! ## Plain values -/

/-- Data that can be looked up in, written, tested and counted.  A sequence has no more items than
can be counted, which a range may have but nothing that lists its items does. -/
inductive Plain : Value → Prop
  | null : Plain null
  | undefined : Plain undefined
  | bool (b : Bool) : Plain (bool b)
  | int {n : Int} : (Text.ofNat n.natAbs).length ≤ maxDigits → Plain (int n)
  | text {t : Text} : t.IsScalar → Plain (text t)
  | sequence {kind : SequenceKind} {items : List Value} : items.length ≤ Sequence.maxLength →
      (∀ v ∈ items, Plain v) → Plain (sequence kind items)
  | dict {entries : List (Text × Value)} : (∀ e ∈ entries, Plain e.2) →
      Plain (dict (entries.map fun e => (text e.1, e.2)))
  | view {entries : List (Text × Value)} : (∀ e ∈ entries, Plain e.2) →
      Plain (view (entries.map fun e => (text e.1, e.2)))
  | native {type form : Text} {held : List Value} : form.IsScalar → (∀ v ∈ held, Plain v) →
      Plain (native type form held)

end Value

/-- The attributes that plain data has by its types are plain. -/
def Traits.Plain [Traits] : Prop :=
  ∀ {v w : Value} {name : Text}, v.Plain → trait? v name = some w → w.Plain

theorem Traits.plain_bare : @Traits.Plain .bare := fun _ h => by cases h

namespace Value

variable {v w : Value} {key : Text} {path : List Text}

/-- The segment has more digits than an index of a sequence is read from. -/
def Overlong (v : Value) (key : Text) : Prop :=
  v.isSequence = true ∧ key.isDigits = true ∧ maxDigits < key.length

theorem not_overlong (h : v.isSequence = false) : ¬ v.Overlong key := by
  rintro ⟨hseq, -⟩
  rw [h] at hseq
  cases hseq

/-- The parts of plain data are plain: those of an integer, which have no more digits than it. -/
theorem Plain.of_part? {part : Part} (h : v.Plain) (hw : v.part? part = some w) : w.Plain := by
  have of_intPart? {n : Int} (hdigits : (Text.ofNat n.natAbs).length ≤ maxDigits)
      (hw : intPart? n part = some w) : w.Plain := by
    cases part with
    | real | numerator =>
        cases hw
        exact .int hdigits
    | imaginary | denominator =>
        cases hw
        exact .int (by decide)
    | _ => cases hw
  cases h with
  | bool b => exact of_intPart? (by cases b <;> decide) hw
  | int hdigits => exact of_intPart? hdigits hw
  | _ => cases hw

theorem plain_of_findText? {entries : List (Text × Value)} (h : ∀ e ∈ entries, Plain e.2)
    (hfind : findText? key (entries.map fun e => (text e.1, e.2)) = some w) : w.Plain := by
  induction entries with
  | nil => cases hfind
  | cons e entries ih =>
      obtain ⟨he, hentries⟩ := List.forall_mem_cons.mp h
      rw [List.map_cons, findText?] at hfind
      split at hfind
      · cases hfind
        exact he
      · exact ih hentries hfind

section

variable [Traits]

/-- A segment is looked up among the attributes of the value: there is a value, which is no mapping,
and the segment is no index of a sequence. -/
structure ReadsAttribute (v : Value) (key : Text) : Prop where
  ne_null : v ≠ null
  ne_undefined : v ≠ undefined
  entries? : v.entries? = none
  isDigits : v.isSequence = true → key.isDigits = false

/-- The segment names something in the value. -/
inductive Provides : Value → Text → Value → Prop
  | entry {v w : Value} {entries : List (Value × Value)} {key : Text} :
      v.entries? = some entries → findText? key entries = some w → Provides v key w
  | item {kind : SequenceKind} {items : List Value} {key : Text} {n : Nat} {w : Value} :
      key.isDigits = true → key.numeral? = some n → items[n]? = some w →
      Provides (sequence kind items) key w
  | trait {v w : Value} {key : Text} : v.ReadsAttribute key → Traits.trait? v key = some w →
      Provides v key w
  | part {v w : Value} {key : Text} {part : Part} : v.ReadsAttribute key →
      Traits.trait? v key = none → Part.ofName? key = some part → v.part? part = some w →
      Provides v key w

/-- What a segment is found to be in a value. -/
inductive Found (v : Value) (key : Text) : Except Error Value → Prop
  | provided {w : Value} : ¬ v.Overlong key → v.Provides key w → Found v key (.ok w)
  | absent : ¬ v.Overlong key → (∀ w, ¬ v.Provides key w) → Found v key (.ok undefined)
  | overlong : v.Overlong key → Found v key (.error (.numeralTooLong key.length))

/-- What a path leads to, each segment found in what the one before it led to. -/
inductive Followed : Value → List Text → Except Error Value → Prop
  | here {v : Value} : Followed v [] (.ok v)
  | on {v w : Value} {key : Text} {path : List Text} {r : Except Error Value} :
      v.Found key (.ok w) → Followed w path r → Followed v (key :: path) r
  | overlong {v : Value} {key : Text} {path : List Text} : v.Overlong key →
      Followed v (key :: path) (.error (.numeralTooLong key.length))

theorem Found.eq_of_overlong {r : Except Error Value} (h : v.Found key r) (hlong : v.Overlong key) :
    r = .error (.numeralTooLong key.length) := by
  cases h with
  | provided hshort | absent hshort => exact absurd hlong hshort
  | overlong => rfl

/-! ## Lookups -/

/-- What plain data provides is plain. -/
theorem Plain.of_provides (htraits : Traits.Plain) (h : v.Plain) (hw : v.Provides key w) :
    w.Plain := by
  cases hw with
  | entry hentries hfind =>
      cases h with
      | dict hplain | view hplain =>
          cases hentries
          exact plain_of_findText? hplain hfind
      | _ => cases hentries
  | item _ _ hw =>
      cases h with
      | sequence _ hitems => exact hitems _ (List.mem_of_getElem? hw)
  | trait _ hw => exact htraits h hw
  | part _ _ _ hw => exact h.of_part? hw

theorem not_provides (h : v = null ∨ v = undefined) : ¬ v.Provides key w := by
  rintro (⟨hentries, -⟩ | _ | ⟨hreads, -⟩ | ⟨hreads, -⟩)
  · rcases h with rfl | rfl <;> cases hentries
  · rcases h with h | h <;> cases h
  · exact h.elim hreads.ne_null hreads.ne_undefined
  · exact h.elim hreads.ne_null hreads.ne_undefined

theorem found_entry {entries : List (Value × Value)} (h : v.entries? = some entries) :
    v.Found key (.ok ((findText? key entries).getD undefined)) := by
  have hshort : ¬ v.Overlong key := by
    refine not_overlong ?_
    cases v <;> first | rfl | cases h
  cases hfind : findText? key entries with
  | some w => exact .provided hshort (.entry h hfind)
  | none =>
      refine .absent hshort fun w hw => ?_
      cases hw with
      | entry h' hfind' =>
          cases h.symm.trans h'
          cases hfind.symm.trans hfind'
      | item => cases h
      | trait hreads | part hreads => cases hreads.entries?.symm.trans h

theorem found_attributeOf (h : v.ReadsAttribute key)
    (hown : v.ownAttribute key = .ok ((Part.ofName? key >>= v.part?).getD undefined)) :
    v.Found key (v.attributeOf key) := by
  have hshort : ¬ v.Overlong key := fun hlong => by cases (h.isDigits hlong.1).symm.trans hlong.2.1
  cases htrait : Traits.trait? v key with
  | some w =>
      rw [attributeOf, htrait]
      exact .provided hshort (.trait h htrait)
  | none =>
      simp only [attributeOf, htrait, hown]
      cases hpart : Part.ofName? key >>= v.part? with
      | some w =>
          obtain ⟨part, hname, hw⟩ := Option.bind_eq_some_iff.mp hpart
          exact .provided hshort (.part h htrait hname hw)
      | none =>
          refine .absent hshort fun w hw => ?_
          cases hw with
          | entry hentries => cases h.entries?.symm.trans hentries
          | item hdigits => cases (h.isDigits rfl).symm.trans hdigits
          | trait _ hw => cases htrait.symm.trans hw
          | part _ _ hname hw => cases hpart.symm.trans (Option.bind_eq_some_iff.mpr ⟨_, hname, hw⟩)

/-- A segment of decimal digits in a sequence: an item, nothing past the end, or too long. -/
theorem found_itemOf {kind : SequenceKind} {items : List Value}
    (hlength : items.length ≤ Sequence.maxLength) (hdigits : key.isDigits = true)
    (hkey : key.Readable) : Found (sequence kind items) key (itemOf (.items items) key) := by
  have hdecimal := hkey hdigits
  by_cases hlong : maxDigits < key.length
  · have hread : readIndex key = .error (.numeralTooLong key.length) := by
      rw [readIndex, Text.leadingDecimals_of_forall hdecimal, if_pos hlong]
    rw [itemOf, hread]
    exact .overlong ⟨rfl, hdigits, hlong⟩
  have hshort : ¬ (sequence kind items).Overlong key := fun h => hlong h.2.2
  obtain ⟨n, hn⟩ := Text.exists_numeral (Text.ne_nil_of_isDigits hdigits) hdecimal
  have hread : readIndex key = .ok n := by
    rw [readIndex, Text.leadingDecimals_of_forall hdecimal, if_neg hlong, hn]
  have hsize : Sequence.size (.items items) = .ok items.length := if_pos hlength
  simp only [itemOf, hread, hsize, Traced.ok_bind]
  split
  · next hlt =>
      have hw : items[n]? = some items[n] := List.getElem?_eq_getElem hlt
      show Found _ key (.ok ((items[n]?).getD undefined))
      rw [hw]
      exact .provided hshort (.item hdigits hn hw)
  · next hlt =>
      refine .absent hshort fun w hw => ?_
      cases hw with
      | entry hentries => cases hentries
      | item _ hn' hw =>
          rw [hn] at hn'
          cases hn'
          exact hlt (List.getElem?_eq_some_iff.mp hw).1
      | trait hreads | part hreads => cases (hreads.isDigits rfl).symm.trans hdigits

/-- **A segment is looked up leniently in plain data.** -/
theorem Plain.found (h : v.Plain) (hkey : key.Readable) : v.Found key (v.lookup key) := by
  cases h with
  | null => exact .absent (not_overlong rfl) fun _ => not_provides (.inl rfl)
  | undefined => exact .absent (not_overlong rfl) fun _ => not_provides (.inr rfl)
  | bool _ | int _ | text _ | native _ _ => exact found_attributeOf ⟨nofun, nofun, rfl, nofun⟩ rfl
  | @sequence kind items hlength _ =>
      show Found _ key (if key.isDigits then itemOf (.items items) key else _)
      split
      · next hdigits => exact found_itemOf hlength hdigits hkey
      · next hdigits =>
          exact found_attributeOf ⟨nofun, nofun, rfl, fun _ => eq_false_of_ne_true hdigits⟩ rfl
  | dict _ | view _ => exact found_entry rfl

/-! ## Paths -/

theorem followed_undefined (path : List Text) : Followed undefined path (.ok undefined) := by
  induction path with
  | nil => exact .here
  | cons key path ih =>
      exact .on (.absent (not_overlong rfl) fun _ => not_provides (.inr rfl)) ih

theorem Found.plain (htraits : Traits.Plain) (h : v.Found key (.ok w)) (hv : v.Plain) :
    w.Plain := by
  cases h with
  | provided _ hw => exact hv.of_provides htraits hw
  | absent => exact .undefined

theorem Plain.followed (htraits : Traits.Plain) (h : v.Plain)
    (hpath : ∀ key ∈ path, Text.Readable key) : v.Followed path (v.follow path) := by
  induction path generalizing v with
  | nil => exact .here
  | cons key path ih =>
      obtain ⟨hkey, hpath⟩ := List.forall_mem_cons.mp hpath
      have hfound := h.found hkey
      rw [follow]
      cases hlookup : v.lookup key with
      | error e =>
          rw [hlookup] at hfound
          cases hfound with
          | overlong hlong => exact .overlong hlong
      | ok w =>
          rw [hlookup] at hfound
          rw [Traced.ok_bind]
          refine .on hfound ?_
          split
          · next hundefined =>
              -- what is undefined ends the path, and provides nothing either
              cases w <;> cases hundefined
              exact followed_undefined path
          · exact ih (hfound.plain htraits h) hpath

theorem Followed.lenient (htraits : Traits.Plain) {r : Except Error Value} (h : v.Followed path r)
    (hv : v.Plain) : Lenient path r Plain := by
  induction h with
  | here => exact .of_ok hv
  | on hfound _ ih => exact (ih (hfound.plain htraits hv)).mono (List.subset_cons_self _ _)
  | overlong hlong => exact .inr ⟨_, List.mem_cons_self, hlong.2.1, hlong.2.2, rfl⟩

theorem Plain.lenient_lookupPath (htraits : Traits.Plain) (h : v.Plain)
    (hpath : ∀ key ∈ path, Text.Readable key) : Lenient path (v.lookupPath path) Plain := by
  cases path with
  | nil => exact .of_ok .undefined
  | cons key path => exact (h.followed htraits hpath).lenient htraits h

end

/-! ## Plain data is written -/

/-- The outcome is a text without surrogates. -/
def Writes (r : Except Error Text) : Prop := ∃ t, r = .ok t ∧ t.IsScalar

theorem writes_ofString (s : String) : Writes (.ok s) := ⟨s, rfl, Text.isScalar_ofString s⟩

theorem writes_intText {n : Int} (h : (Text.ofNat n.natAbs).length ≤ maxDigits) :
    Writes (intText n) :=
  ⟨Text.ofInt n, if_neg (Nat.not_lt.mpr h), Text.isScalar_ofInt n⟩

theorem isScalar_bracketed {opening closing : String} {parts : List Text}
    (h : ∀ t ∈ parts, Text.IsScalar t) : Text.IsScalar (bracketed opening closing parts) :=
  ((Text.isScalar_ofString opening).append (.join (Text.isScalar_ofString ", ") h)).append
    (Text.isScalar_ofString closing)

theorem isScalar_sequenceLiteral (kind : SequenceKind) {parts : List Text}
    (h : ∀ t ∈ parts, Text.IsScalar t) : Text.IsScalar (sequenceLiteral kind parts) := by
  unfold sequenceLiteral
  split
  · exact isScalar_bracketed h
  · exact isScalar_bracketed h
  · exact isScalar_bracketed h
  · exact isScalar_bracketed h

theorem exists_literals {items : List Value} (h : ∀ v ∈ items, Writes v.literal) :
    ∃ ts, literals items = .ok ts ∧ ∀ t ∈ ts, Text.IsScalar t := by
  induction items with
  | nil => exact ⟨[], rfl, nofun⟩
  | cons v items ih =>
      obtain ⟨⟨t, ht, hscalar⟩, hitems⟩ := List.forall_mem_cons.mp h
      obtain ⟨ts, hts, hscalars⟩ := ih hitems
      refine ⟨t :: ts, ?_, List.forall_mem_cons.mpr ⟨hscalar, hscalars⟩⟩
      rw [literals, ht, hts]
      rfl

theorem exists_entryLiterals {entries : List (Text × Value)}
    (h : ∀ e ∈ entries, Writes e.2.literal) :
    ∃ ts, entryLiterals (entries.map fun e => (text e.1, e.2)) = .ok ts ∧
      ∀ t ∈ ts, Text.IsScalar t := by
  induction entries with
  | nil => exact ⟨[], rfl, nofun⟩
  | cons e entries ih =>
      obtain ⟨⟨t, ht, hscalar⟩, hentries⟩ := List.forall_mem_cons.mp h
      obtain ⟨ts, hts, hscalars⟩ := ih hentries
      have hentry : Text.IsScalar (e.1.quoted ++ ": " ++ t) :=
        ((Text.isScalar_quoted e.1).append (Text.isScalar_ofString ": ")).append hscalar
      refine ⟨_ :: ts, ?_, List.forall_mem_cons.mpr ⟨hentry, hscalars⟩⟩
      rw [List.map_cons, entryLiterals, literal, ht, hts]
      rfl

/-- Plain data has a literal, without surrogates even where its keys have some. -/
theorem Plain.writes_literal (h : v.Plain) : Writes v.literal := by
  induction h with
  | null | undefined => exact writes_ofString _
  | bool b => cases b <;> exact writes_ofString _
  | int hn => exact writes_intText hn
  | text _ => exact ⟨_, rfl, Text.isScalar_quoted _⟩
  | @sequence kind _ _ _ ih =>
      obtain ⟨ts, hts, hscalars⟩ := exists_literals ih
      refine ⟨sequenceLiteral kind ts, ?_, isScalar_sequenceLiteral kind hscalars⟩
      rw [literal, hts]
      rfl
  | dict _ ih =>
      obtain ⟨ts, hts, hscalars⟩ := exists_entryLiterals ih
      refine ⟨bracketed "\x7b" "\x7d" ts, ?_, isScalar_bracketed hscalars⟩
      rw [literal, hts]
      rfl
  | view _ ih =>
      obtain ⟨ts, hts, hscalars⟩ := exists_entryLiterals ih
      refine ⟨bracketed "mappingproxy(\x7b" "\x7d)" ts, ?_, isScalar_bracketed hscalars⟩
      rw [literal, hts]
      rfl
  | native hform => exact ⟨_, rfl, hform⟩

theorem Plain.writes_toText (h : v.Plain) : Writes v.toText := by
  cases h with
  | null | undefined => exact ⟨[], rfl, nofun⟩
  | bool b => cases b <;> exact writes_ofString _
  | text ht => exact ⟨_, rfl, ht⟩
  | int hn => exact (Plain.int hn).writes_literal
  | sequence hlength hitems => exact (Plain.sequence hlength hitems).writes_literal
  | dict hentries => exact (Plain.dict hentries).writes_literal
  | view hentries => exact (Plain.dict hentries).writes_literal
  | native hform _ => exact ⟨_, rfl, hform⟩

/-! ## Plain data is tested and counted -/

theorem Plain.exists_isTruthy (h : v.Plain) : ∃ b, v.isTruthy = .ok b := by
  cases h <;> exact ⟨_, rfl⟩

theorem Plain.of_sequence? {items : Sequence} (h : v.Plain) (hitems : v.sequence? = some items) :
    items.length ≤ Sequence.maxLength ∧ ∀ w ∈ items.values, w.Plain := by
  cases h with
  | sequence hlength hplain =>
      cases hitems
      exact ⟨hlength, hplain⟩
  | _ => cases hitems

theorem Plain.exists_passesIf (h : v.Plain) : ∃ b, v.passesIf = .ok b := by
  unfold passesIf
  split
  · next items hitems =>
      rw [Sequence.size, if_pos (h.of_sequence? hitems).1]
      exact ⟨_, rfl⟩
  · exact h.exists_isTruthy

end Value

end TagTemplate
