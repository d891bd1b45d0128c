/-
# Reading a tag — the recogniser is the grammar

A recogniser never goes back on what it has read, so each part is read right only if
what follows cannot be taken for more of it.  Every part has a lemma that says what it
reads and what may follow:

    literally w      a text that is the word w             anything
    anyOf ws         a text that is one of the words       anything, if no word begins another
    blanks           white space                           no white space
    quotationMark    a quotation mark or nothing           no quotation mark, after nothing
    namePart         parts of names, at least one          `FollowsName`

What follows a part in a tag does meet the condition, whatever stands after the tag, and
so the recogniser reads from a text just what the grammar has at its start
(`recogniser_eq_some`).  The one place where this takes an argument is a name: the run
of name parts may go on with the word `escape`, and the word `name` may be the name.
-/
import TagTemplate.Proofs.Tag.Grammar

namespace TagTemplate

/-- No code point of the class comes first. -/
def Text.BeginsNot (p : CodePoint → Bool) (t : Text) : Prop := ∀ c, t.head? = some c → p c = false

theorem Text.beginsNot_cons {p : CodePoint → Bool} {c : CodePoint} {t : Text} (h : p c = false) :
    BeginsNot p (c :: t) := by
  rintro _ ⟨⟩
  exact h

/-! ## Runs of a class -/

section
variable {p : CodePoint → Bool} {run rest : Text}

theorem takeWhile_append_of_beginsNot (h : ∀ c ∈ run, p c = true) (hrest : rest.BeginsNot p) :
    (run ++ rest).takeWhile p = run := by
  rw [List.takeWhile_append_of_pos h]
  cases rest with
  | nil => exact List.append_nil run
  | cons c rest => rw [List.takeWhile_cons_of_neg (by simp [hrest c rfl]), List.append_nil]

theorem dropWhile_append_of_beginsNot (h : ∀ c ∈ run, p c = true) (hrest : rest.BeginsNot p) :
    (run ++ rest).dropWhile p = rest := by
  rw [List.dropWhile_append_of_pos h]
  cases rest with
  | nil => rfl
  | cons c rest => exact List.dropWhile_cons_of_neg (by simp [hrest c rfl])

end

/-! ## Recognisers -/

namespace Recogniser

open Text

variable {α β : Type} {r s : Recogniser α} {f : α → Recogniser β} {t rest : Text} {a a' : α} {b : β}
  {p : CodePoint → Bool}

theorem bind_eq_some : (r >>= f) t = some (b, rest) ↔
    ∃ a mid, r t = some (a, mid) ∧ f a mid = some (b, rest) := by
  show andThen r f t = _ ↔ _
  unfold andThen
  cases r t with
  | none => simp
  | some read =>
      obtain ⟨a, mid⟩ := read
      constructor
      · intro h; exact ⟨a, mid, rfl, h⟩
      · rintro ⟨_, _, h, h'⟩; cases h; exact h'

theorem bind_eq_none (h : r t = none) : (r >>= f) t = none := by
  show andThen r f t = none
  rw [andThen, h]

theorem pure_eq_some : (pure a : Recogniser α) t = some (a', rest) ↔ a = a' ∧ t = rest := by
  show nothing a t = _ ↔ _
  simp [nothing]

theorem either_eq_some : either r s t = some (a, rest) ↔
    r t = some (a, rest) ∨ (r t = none ∧ s t = some (a, rest)) := by
  unfold either
  cases r t <;> simp

theorem maybe_of_some (h : r t = some (a, rest)) : maybe r t = some (some a, rest) := by
  simp [maybe, h]

theorem maybe_of_none (h : r t = none) : maybe r t = some (none, t) := by
  simp [maybe, h]

theorem maybe_cases {found : Option α} (h : maybe r t = some (found, rest)) :
    (∃ a, found = some a ∧ r t = some (a, rest)) ∨ (found = none ∧ t = rest) := by
  unfold maybe at h
  split at h
  · next a mid hr => cases h; exact .inl ⟨a, rfl, hr⟩
  · cases h; exact .inr ⟨rfl, rfl⟩

theorem ahead_eq_some {c : CodePoint} :
    ahead p t = some (c, rest) ↔ t = c :: rest ∧ p c = true := by
  cases t with
  | nil => simp [ahead]
  | cons d t =>
      rw [ahead, List.cons.injEq]
      by_cases hd : p d = true
      · rw [if_pos hd]
        constructor
        · intro h; cases h; exact ⟨⟨rfl, rfl⟩, hd⟩
        · rintro ⟨⟨rfl, rfl⟩, -⟩; rfl
      · rw [if_neg hd]
        constructor
        · intro h; cases h
        · rintro ⟨⟨rfl, -⟩, hc⟩; exact absurd hc hd

theorem ahead_eq_none (h : t.BeginsNot p) : ahead p t = none := by
  cases t with
  | nil => rfl
  | cons c t => simp [ahead, h c rfl]

theorem literally_eq_some {word read : Text} :
    literally word t = some (read, rest) ↔ t = read ++ rest ∧ read.IsWord word := by
  induction word generalizing t read rest with
  | nil =>
      show nothing [] t = _ ↔ _
      simp only [nothing, IsWord, List.map_eq_nil_iff]
      constructor
      · intro h; cases h; exact ⟨rfl, rfl⟩
      · rintro ⟨rfl, rfl⟩; rfl
  | cons c word ih =>
      simp only [literally, bind_eq_some, pure_eq_some, ahead_eq_some, ih, beq_iff_eq]
      constructor
      · rintro ⟨d, _, ⟨rfl, hd⟩, read', _, ⟨rfl, hw⟩, rfl, rfl⟩
        exact ⟨rfl, by rw [IsWord, List.map_cons, hd, hw]⟩
      · rintro ⟨rfl, hw⟩
        obtain ⟨d, read', rfl, hd, hw⟩ := hw.exists_cons
        exact ⟨d, _, ⟨rfl, hd⟩, read', _, ⟨rfl, hw⟩, rfl, rfl⟩

theorem literally_eq_none {c d : CodePoint} {word : Text} (h : c.fold ≠ d) :
    literally (d :: word) (c :: t) = none := by
  rw [Option.eq_none_iff_forall_ne_some]
  rintro ⟨read, rest⟩ hread
  obtain ⟨ht, hw⟩ := literally_eq_some.mp hread
  obtain ⟨c', read', rfl, hc, -⟩ := hw.exists_cons
  cases ht
  exact h hc

/-- Of words none of which begins another, one at most is there. -/
theorem anyOf_eq_some {words : List Text} {read : Text}
    (hwords : ∀ v ∈ words, ∀ w ∈ words, v <+: w → v = w) :
    anyOf words t = some (read, rest) ↔ t = read ++ rest ∧ ∃ w ∈ words, read.IsWord w := by
  have sound : ∀ {read rest}, anyOf words t = some (read, rest) →
      ∃ w ∈ words, literally w t = some (read, rest) := List.exists_of_findSome?_eq_some
  constructor
  · intro h
    obtain ⟨w, hw, h⟩ := sound h
    obtain ⟨ht, hread⟩ := literally_eq_some.mp h
    exact ⟨ht, w, hw, hread⟩
  · rintro ⟨ht, w, hw, hread⟩
    have hw' : literally w t = some (read, rest) := literally_eq_some.mpr ⟨ht, hread⟩
    cases hfound : anyOf words t with
    | none =>
        have hnone := List.findSome?_eq_none_iff.mp hfound w hw
        rw [hw'] at hnone
        cases hnone
    | some found =>
        obtain ⟨v, hv, hv'⟩ := @sound found.1 found.2 hfound
        obtain ⟨ht', hread'⟩ := literally_eq_some.mp hv'
        have hagree := hread.append_eq hread' (ht.symm.trans ht')
        have hsame : v = w := by
          rcases List.append_eq_append_iff.mp hagree with ⟨u, h, -⟩ | ⟨u, h, -⟩
          · exact (hwords w hw v hv ⟨u, h.symm⟩).symm
          · exact hwords v hv w hw ⟨u, h.symm⟩
        rw [hsame, hw'] at hv'
        exact hv'.symm

theorem blanks_eq_some : blanks t = some ((), rest) ↔
    ∃ gap, t = gap ++ rest ∧ IsBlank gap ∧ rest.BeginsNot CodePoint.isBlank := by
  unfold blanks
  simp only [Option.some.injEq, Prod.mk.injEq, true_and]
  constructor
  · rintro rfl
    refine ⟨t.takeWhile CodePoint.isBlank, List.takeWhile_append_dropWhile.symm, ?_, ?_⟩
    · intro c hc
      have := List.all_takeWhile (p := CodePoint.isBlank) (l := t)
      exact List.all_eq_true.mp this c hc
    · intro c hc
      have := List.head?_dropWhile_not CodePoint.isBlank t
      rw [hc] at this
      simpa using this
  · rintro ⟨gap, rfl, hgap, hrest⟩
    exact dropWhile_append_of_beginsNot hgap hrest

theorem blanks₁_eq_some : blanks₁ t = some ((), rest) ↔
    ∃ gap, gap ≠ [] ∧ t = gap ++ rest ∧ IsBlank gap ∧ rest.BeginsNot CodePoint.isBlank := by
  simp only [blanks₁, bind_eq_some, ahead_eq_some, blanks_eq_some]
  constructor
  · rintro ⟨c, _, ⟨rfl, hc⟩, gap, rfl, hgap, hrest⟩
    exact ⟨c :: gap, List.cons_ne_nil _ _, rfl, List.forall_mem_cons.mpr ⟨hc, hgap⟩, hrest⟩
  · rintro ⟨gap, hne, rfl, hgap, hrest⟩
    obtain ⟨c, gap, rfl⟩ := List.exists_cons_of_ne_nil hne
    obtain ⟨hc, hgap⟩ := List.forall_mem_cons.mp hgap
    exact ⟨c, _, ⟨rfl, hc⟩, gap, rfl, hgap, hrest⟩

end Recogniser

/-! ## The parts of tags -/

namespace Tag

open Recogniser Text

variable {t rest name : Text}

def isQuotation (c : CodePoint) : Bool := c == .ofChar '\x22'

theorem beginsNot_of_isWord {p : CodePoint → Bool} {d : CodePoint} {word : Text}
    (h : t.IsWord (d :: word)) (hp : ∀ c : CodePoint, c.fold = d → p c = false) :
    (t ++ rest).BeginsNot p := by
  obtain ⟨c, r, rfl, hc, -⟩ := h.exists_cons
  exact beginsNot_cons (hp c hc)

theorem isQuotation_eq_false {c d : CodePoint} (h : c.fold = d)
    (hd : CodePoint.fold (.ofChar '\x22') ≠ d) : isQuotation c = false := by
  rw [isQuotation, beq_eq_false_iff_ne]
  rintro rfl
  exact hd h

theorem isBlank_eq_false {c d : CodePoint} (h : c.fold = d) (hd : d.isBlank = false) :
    c.isBlank = false := by
  rw [Bool.eq_false_iff]
  intro hc
  rw [(CodePoint.of_isBlank hc).1] at h
  rw [h, hd] at hc
  cases hc

theorem exists_of_quotationMark {found : Option CodePoint}
    (h : quotationMark t = some (found, rest)) : ∃ q, IsQuote q ∧ t = q ++ rest := by
  rcases maybe_cases h with ⟨c, -, hc⟩ | ⟨-, rfl⟩
  · obtain ⟨rfl, hq⟩ := ahead_eq_some.mp hc
    obtain rfl : c = .ofChar '\x22' := beq_iff_eq.mp hq
    exact ⟨[.ofChar '\x22'], .inr rfl, rfl⟩
  · exact ⟨[], .inl rfl, rfl⟩

theorem quotationMark_of_isQuote {q : Text} (hq : q.IsQuote) (hrest : rest.BeginsNot isQuotation) :
    ∃ found, quotationMark (q ++ rest) = some (found, rest) := by
  rcases hq with rfl | rfl
  · exact ⟨none, maybe_of_none (ahead_eq_none hrest)⟩
  · exact ⟨_, maybe_of_some (ahead_eq_some.mpr ⟨rfl, by decide⟩)⟩

theorem exists_of_maybe_literally {word : Text} {found : Option Text}
    (h : maybe (literally word) t = some (found, rest)) :
    ∃ key, (key = [] ∨ IsWord key word) ∧ t = key ++ rest := by
  rcases maybe_cases h with ⟨key, -, hread⟩ | ⟨-, rfl⟩
  · obtain ⟨rfl, hkey⟩ := literally_eq_some.mp hread
    exact ⟨key, .inr hkey, rfl⟩
  · exact ⟨[], .inl rfl, rfl⟩

theorem exists_of_escapePart {word : Text} (h : escapePart t = some (word, rest)) :
    ∃ written, EscapeWrittenAs (some word) written ∧ t = written ++ rest := by
  simp only [escapePart, bind_eq_some, pure_eq_some] at h
  obtain ⟨key, _, h₁, _, _, h₂, _, _, h₃, _, _, h₄, rfl, rfl⟩ := h
  obtain ⟨rfl, hkey⟩ := literally_eq_some.mp h₁
  obtain ⟨q, hq, rfl⟩ := exists_of_quotationMark h₂
  obtain ⟨rfl, hword⟩ := (anyOf_eq_some (by decide)).mp h₃
  obtain ⟨q', hq', rfl⟩ := exists_of_quotationMark h₄
  exact ⟨_, .present hkey hq hword hq', by simp only [List.append_assoc]⟩

theorem exists_of_maybe_escapePart {escape : Option Text}
    (h : maybe escapePart t = some (escape, rest)) :
    ∃ written, EscapeWrittenAs escape written ∧ t = written ++ rest := by
  rcases maybe_cases h with ⟨word, rfl, hword⟩ | ⟨rfl, rfl⟩
  · exact exists_of_escapePart hword
  · exact ⟨[], .absent, rfl⟩

theorem escapePart_of_writtenAs {word written : Text} (h : EscapeWrittenAs (some word) written)
    (hrest : rest.BeginsNot isQuotation) : escapePart (written ++ rest) = some (word, rest) := by
  cases h with
  | @present key q _ q' hkey hq hword hq' =>
      have hbegins : (word ++ (q' ++ rest)).BeginsNot isQuotation := by
        obtain ⟨w, hw, hword⟩ := hword
        simp only [escapeWords, List.mem_cons, List.not_mem_nil, or_false] at hw
        rcases hw with rfl | rfl <;>
          exact beginsNot_of_isWord hword fun c hc => isQuotation_eq_false hc (by decide)
      obtain ⟨_, hfirst⟩ := quotationMark_of_isQuote hq hbegins
      obtain ⟨_, hsecond⟩ := quotationMark_of_isQuote hq' hrest
      simp only [escapePart, bind_eq_some, pure_eq_some, List.append_assoc]
      exact ⟨key, _, literally_eq_some.mpr ⟨rfl, hkey⟩, _, _, hfirst, word, _,
        (anyOf_eq_some (by decide)).mpr ⟨rfl, hword⟩, _, _, hsecond, rfl, rfl⟩

/-! ## Names -/

/-- What may follow a name in a tag: what is in no name, or an escape at once. -/
inductive FollowsName : Text → Prop
  | apart {c : CodePoint} {r : Text} : isNamePart c = false → c ≠ .ofChar '=' → FollowsName (c :: r)
  | escape {word r : Text} : word.IsWord "escape" → FollowsName (word ++ .ofChar '=' :: r)

theorem isNamePart_of_isWord {word : Text} (h : t.IsWord word)
    (hword : ∀ d ∈ word, 0x61 ≤ d.val ∧ d.val ≤ 0x7a) : ∀ c ∈ t, isNamePart c = true := by
  intro c hc
  have hmem : c.fold ∈ word := by
    rw [← show t.map CodePoint.fold = word from h]
    exact List.mem_map_of_mem hc
  exact isNamePart_iff.mpr (.inl (hword _ hmem))

theorem IsWord.length_eq {word : Text} (h : t.IsWord word) : t.length = word.length := by
  rw [← show t.map CodePoint.fold = word from h, List.length_map]

theorem exists_of_isWord_equals {key : Text} (word : Text)
    (h : key.IsWord (word ++ [.ofChar '='])) :
    ∃ r : Text, key = r ++ [.ofChar '='] ∧ r.IsWord word := by
  obtain ⟨r, sign, rfl, hr, hsign⟩ := List.map_eq_append_iff.mp h
  obtain ⟨c, r', rfl, hc, hr'⟩ := IsWord.exists_cons (t := sign) hsign
  obtain rfl : c = .ofChar '=' := CodePoint.eq_of_fold_eq hc (by decide)
  obtain rfl : r' = [] := List.map_eq_nil_iff.mp hr'
  exact ⟨r, rfl, hr⟩

/-- The run of name parts that a name begins: the name alone, or the name and `escape`. -/
theorem takeWhile_of_followsName (hname : ∀ c ∈ name, isNamePart c = true) (h : FollowsName rest) :
    ((name ++ rest).takeWhile isNamePart = name ∧ rest.head? ≠ some (.ofChar '=')) ∨
      ∃ word r : Text, rest = word ++ .ofChar '=' :: r ∧ word.IsWord "escape" ∧
        (name ++ rest).takeWhile isNamePart = name ++ word := by
  cases h with
  | apart hc hne =>
      refine .inl ⟨takeWhile_append_of_beginsNot hname (beginsNot_cons hc), ?_⟩
      simpa using hne
  | @escape word r hword =>
      refine .inr ⟨word, r, rfl, hword, ?_⟩
      rw [← List.append_assoc]
      refine takeWhile_append_of_beginsNot ?_ (beginsNot_cons (by decide))
      exact List.forall_mem_append.mpr ⟨hname, isNamePart_of_isWord hword (by decide)⟩

theorem namePart_eq_some {length : Nat} (hpos : length ≠ 0)
    (h : nameLength (t.takeWhile isNamePart) (t.drop (t.takeWhile isNamePart).length) = length) :
    namePart t = some (t.take length, t.drop length) := by
  simp only [namePart, h]

theorem namePart_of_followsName (hne : name ≠ []) (hname : ∀ c ∈ name, isNamePart c = true)
    (h : FollowsName rest) : namePart (name ++ rest) = some (name, rest) := by
  have hpos : name.length ≠ 0 := fun h => hne (List.length_eq_zero_iff.mp h)
  have hlength : nameLength ((name ++ rest).takeWhile isNamePart)
      ((name ++ rest).drop ((name ++ rest).takeWhile isNamePart).length) = name.length := by
    rcases takeWhile_of_followsName hname h with ⟨hrun, hhead⟩ | ⟨word, r, rfl, hword, hrun⟩
    · rw [hrun, List.drop_left, nameLength, if_neg fun h => hhead h.1]
    · have hfront : (name ++ word).length - 6 = name.length := by
        rw [List.length_append, IsWord.length_eq hword]
        rfl
      rw [hrun, ← List.append_assoc, List.drop_left, nameLength]
      refine (if_pos ⟨rfl, ?_⟩).trans hfront
      show ((name ++ word).drop ((name ++ word).length - 6)).map CodePoint.fold = _
      rw [hfront, List.drop_left]
      exact hword
  rw [namePart_eq_some hpos hlength, List.take_left, List.drop_left]

theorem nameLength_le (run after : Text) : nameLength run after ≤ run.length := by
  simp only [nameLength]
  split
  · exact Nat.sub_le _ _
  · exact Nat.le_refl _

theorem exists_of_namePart (h : namePart t = some (name, rest)) :
    name ≠ [] ∧ (∀ c ∈ name, isNamePart c = true) ∧ t = name ++ rest := by
  have hle := nameLength_le (t.takeWhile isNamePart) (t.drop (t.takeWhile isNamePart).length)
  have hrun : t.takeWhile isNamePart = t.take (t.takeWhile isNamePart).length :=
    List.prefix_iff_eq_take.mp (List.takeWhile_prefix _)
  simp only [namePart] at h
  split at h
  · cases h
  · next length hpos =>
      cases h
      refine ⟨?_, ?_, (List.take_append_drop _ t).symm⟩
      · intro hnil
        rcases List.take_eq_nil_iff.mp hnil with hzero | rfl
        · exact hpos hzero
        · exact hpos (Nat.le_zero.mp hle)
      · intro c hc
        have hmem : c ∈ t.takeWhile isNamePart := by
          rw [hrun]
          exact List.take_subset_take_left t hle hc
        exact List.all_eq_true.mp List.all_takeWhile c hmem

/-- The word `name=` is not there where a name begins, even if the name is `name`. -/
theorem literally_name_eq_none (hname : ∀ c ∈ name, isNamePart c = true) (h : FollowsName rest) :
    literally "name=" (name ++ rest) = none := by
  rw [Option.eq_none_iff_forall_ne_some]
  rintro ⟨key, after⟩ hread
  obtain ⟨heq, hkey⟩ := literally_eq_some.mp hread
  obtain ⟨word, rfl, hword⟩ := exists_of_isWord_equals "name" hkey
  have hrun : (name ++ rest).takeWhile isNamePart = word := by
    rw [heq, List.append_assoc]
    exact takeWhile_append_of_beginsNot (isNamePart_of_isWord hword (by decide))
      (beginsNot_cons (by decide))
  rcases takeWhile_of_followsName hname h with ⟨hsame, hhead⟩ | ⟨escape, r, rfl, hescape, hsame⟩
  · rw [← hrun, hsame, List.append_assoc] at heq
    rw [List.append_cancel_left heq] at hhead
    exact hhead rfl
  · have hlength := congrArg List.length (hsame.symm.trans hrun)
    rw [List.length_append, IsWord.length_eq hescape, IsWord.length_eq hword] at hlength
    have hsix : ("escape" : Text).length = 6 := rfl
    have hfour : ("name" : Text).length = 4 := rfl
    omega

/-! ## Whole tags -/

section
variable {keyword gap key q q' gap' written gap'' close : Text} {escape : Option Text}

theorem beginsNot_of_isBlank {p : CodePoint → Bool} (hgap : gap.IsBlank)
    (hp : ∀ c : CodePoint, c.isBlank = true → p c = false) (hrest : rest.BeginsNot p) :
    (gap ++ rest).BeginsNot p := by
  cases gap with
  | nil => exact hrest
  | cons c gap => exact beginsNot_cons (hp c (hgap c List.mem_cons_self))

theorem isQuotation_of_isBlank (c : CodePoint) (h : c.isBlank = true) : isQuotation c = false := by
  rw [isQuotation, beq_eq_false_iff_ne]
  rintro rfl
  exact (CodePoint.of_isBlank h).2.2.1 rfl

theorem beginsNot_isQuotation_close (rest : Text) (hgap'' : gap''.IsBlank)
    (hclose : close.IsWord ">") : (gap'' ++ (close ++ rest)).BeginsNot isQuotation := by
  refine beginsNot_of_isBlank hgap'' isQuotation_of_isBlank ?_
  exact beginsNot_of_isWord hclose fun c hc => isQuotation_eq_false hc (by decide)

theorem beginsNot_isQuotation_ending (rest : Text) (hgap' : gap'.IsBlank)
    (hwritten : EscapeWrittenAs escape written) (hgap'' : gap''.IsBlank)
    (hclose : close.IsWord ">") :
    (gap' ++ (written ++ (gap'' ++ (close ++ rest)))).BeginsNot isQuotation := by
  refine beginsNot_of_isBlank hgap' isQuotation_of_isBlank ?_
  cases hwritten with
  | absent => exact beginsNot_isQuotation_close rest hgap'' hclose
  | present hkey _ _ _ =>
      rw [List.append_assoc]
      exact beginsNot_of_isWord hkey fun c hc => isQuotation_eq_false hc (by decide)

theorem followsName_of_isBlank (hgap : gap.IsBlank) (hrest : FollowsName rest) :
    FollowsName (gap ++ rest) := by
  cases gap with
  | nil => exact hrest
  | cons c gap =>
      have hc := hgap c List.mem_cons_self
      refine .apart ?_ ?_
      · rw [Bool.eq_false_iff]
        intro hname
        rw [(of_isNamePart hname).1] at hc
        cases hc
      · rintro rfl
        exact absurd hc (by decide)

theorem followsName_ending (rest : Text) (hq' : q'.IsQuote) (hgap' : gap'.IsBlank)
    (hwritten : EscapeWrittenAs escape written) (hgap'' : gap''.IsBlank)
    (hclose : close.IsWord ">") :
    FollowsName (q' ++ (gap' ++ (written ++ (gap'' ++ (close ++ rest))))) := by
  rcases hq' with rfl | rfl
  · rw [List.nil_append]
    refine followsName_of_isBlank hgap' ?_
    cases hwritten with
    | absent =>
        rw [List.nil_append]
        refine followsName_of_isBlank hgap'' ?_
        obtain ⟨c, r, rfl, hc, -⟩ := hclose.exists_cons
        obtain rfl : c = .ofChar '>' := CodePoint.eq_of_fold_eq hc (by decide)
        exact .apart (by decide) (by decide)
    | @present key _ _ _ hkey _ _ _ =>
        obtain ⟨word, rfl, hword⟩ := exists_of_isWord_equals "escape" hkey
        simp only [List.append_assoc, List.cons_append]
        exact .escape hword
  · exact .apart (by decide) (by decide)

/-- The end of a tag is read as it is written; white space on both sides of an escape that is
absent is read at once. -/
theorem reads_ending (rest : Text) (hgap' : gap'.IsBlank)
    (hwritten : EscapeWrittenAs escape written) (hgap'' : gap''.IsBlank)
    (hclose : close.IsWord ">") :
    ∃ t₁ t₂, blanks (gap' ++ (written ++ (gap'' ++ (close ++ rest)))) = some ((), t₁) ∧
      maybe escapePart t₁ = some (escape, t₂) ∧ blanks t₂ = some ((), close ++ rest) := by
  have hbracket : (close ++ rest).BeginsNot CodePoint.isBlank :=
    beginsNot_of_isWord hclose fun c hc => isBlank_eq_false hc (by decide)
  cases hwritten with
  | absent =>
      have hnone : escapePart (close ++ rest) = none := by
        obtain ⟨c, r, rfl, hc, -⟩ := hclose.exists_cons
        exact bind_eq_none (literally_eq_none (by rw [hc]; decide))
      refine ⟨_, _, blanks_eq_some.mpr ⟨gap' ++ gap'', ?_, ?_, hbracket⟩, maybe_of_none hnone,
        blanks_eq_some.mpr ⟨[], rfl, fun c hc => (by cases hc), hbracket⟩⟩
      · simp
      · exact List.forall_mem_append.mpr ⟨hgap', hgap''⟩
  | @present key q word q' hkey hq hword hq' =>
      have hquote := beginsNot_isQuotation_close rest hgap'' hclose
      have hletter : ((key ++ (q ++ (word ++ q'))) ++ (gap'' ++ (close ++ rest))).BeginsNot
          CodePoint.isBlank := by
        rw [List.append_assoc]
        exact beginsNot_of_isWord hkey fun c hc => isBlank_eq_false hc (by decide)
      exact ⟨_, _, blanks_eq_some.mpr ⟨gap', rfl, hgap', hletter⟩,
        maybe_of_some (escapePart_of_writtenAs (.present hkey hq hword hq') hquote),
        blanks_eq_some.mpr ⟨gap'', rfl, hgap'', hbracket⟩⟩

theorem beginsNot_name (rest : Text) (hne : name ≠ [])
    (hname : ∀ c ∈ name, isNamePart c = true) :
    (name ++ rest).BeginsNot isQuotation ∧ (name ++ rest).BeginsNot CodePoint.isBlank := by
  obtain ⟨c, r, rfl⟩ := List.exists_cons_of_ne_nil hne
  have hc := of_isNamePart (hname c List.mem_cons_self)
  refine ⟨beginsNot_cons ?_, beginsNot_cons hc.1⟩
  rw [isQuotation, beq_eq_false_iff_ne]
  rintro rfl
  exact hc.2.1 rfl

theorem reads_beginning (hkey : key = [] ∨ key.IsWord "name=") (hq : q.IsQuote) (hne : name ≠ [])
    (hname : ∀ c ∈ name, isNamePart c = true) (hrest : FollowsName rest) :
    (key ++ (q ++ (name ++ rest))).BeginsNot CodePoint.isBlank ∧
      (∃ found, maybe (literally "name=") (key ++ (q ++ (name ++ rest))) =
        some (found, q ++ (name ++ rest))) ∧
      ∃ found, quotationMark (q ++ (name ++ rest)) = some (found, name ++ rest) := by
  obtain ⟨hquote, hblank⟩ := beginsNot_name rest hne hname
  refine ⟨?_, ?_, quotationMark_of_isQuote hq hquote⟩
  · rcases hkey with rfl | hkey
    · rcases hq with rfl | rfl
      · exact hblank
      · exact beginsNot_cons (by decide)
    · exact beginsNot_of_isWord hkey fun c hc => isBlank_eq_false hc (by decide)
  · rcases hkey with rfl | hkey
    · refine ⟨none, maybe_of_none ?_⟩
      rcases hq with rfl | rfl
      · rw [List.nil_append, List.nil_append]
        exact literally_name_eq_none hname hrest
      · exact literally_eq_none (by decide)
    · exact ⟨some key, maybe_of_some (literally_eq_some.mpr ⟨rfl, hkey⟩)⟩

end

theorem exists_of_namedTag {tag : Tag} (h : namedTag t = some (tag, rest)) :
    ∃ lexeme, t = lexeme ++ rest ∧ tag.WrittenAs lexeme := by
  simp only [namedTag, bind_eq_some, pure_eq_some] at h
  obtain ⟨start, _, h₁, keyword, _, h₂, _, _, h₃, _, _, h₄, _, _, h₅, name, _, h₆, _, _, h₇,
    _, _, h₈, escape, _, h₉, _, _, h₁₀, close, _, h₁₁, rfl, rfl⟩ := h
  obtain ⟨rfl, hstart⟩ := literally_eq_some.mp h₁
  obtain ⟨rfl, hkeyword⟩ := (anyOf_eq_some (by decide)).mp h₂
  obtain ⟨gap, hgap₁, rfl, hgap, -⟩ := blanks₁_eq_some.mp h₃
  obtain ⟨key, hkey, rfl⟩ := exists_of_maybe_literally h₄
  obtain ⟨q, hq, rfl⟩ := exists_of_quotationMark h₅
  obtain ⟨hname₁, hname, rfl⟩ := exists_of_namePart h₆
  obtain ⟨q', hq', rfl⟩ := exists_of_quotationMark h₇
  obtain ⟨gap', rfl, hgap', -⟩ := blanks_eq_some.mp h₈
  obtain ⟨written, hwritten, rfl⟩ := exists_of_maybe_escapePart h₉
  obtain ⟨gap'', rfl, hgap'', -⟩ := blanks_eq_some.mp h₁₀
  obtain ⟨rfl, hclose⟩ := literally_eq_some.mp h₁₁
  exact ⟨_, by simp only [List.append_assoc], .named hstart hkeyword hgap₁ hgap hkey hq hname₁
    hname hq' hgap' hwritten hgap'' hclose⟩

theorem exists_of_closingTag {tag : Tag} (h : closingTag t = some (tag, rest)) :
    ∃ lexeme, t = lexeme ++ rest ∧ tag.WrittenAs lexeme := by
  simp only [closingTag, bind_eq_some, pure_eq_some] at h
  obtain ⟨start, _, h₁, keyword, _, h₂, close, _, h₃, rfl, rfl⟩ := h
  obtain ⟨rfl, hstart⟩ := literally_eq_some.mp h₁
  obtain ⟨rfl, hkeyword⟩ := (anyOf_eq_some (by decide)).mp h₂
  obtain ⟨rfl, hclose⟩ := literally_eq_some.mp h₃
  exact ⟨_, by simp only [List.append_assoc], .closing hstart hkeyword hclose⟩

theorem elseTag_eq_some {tag : Tag} : elseTag t = some (tag, rest) ↔
    ∃ lexeme, t = lexeme ++ rest ∧ tag = otherwise ∧ lexeme.IsWord "<tmpl_else>" := by
  simp only [elseTag, bind_eq_some, pure_eq_some, literally_eq_some]
  constructor
  · rintro ⟨lexeme, _, ⟨rfl, hword⟩, rfl, rfl⟩
    exact ⟨lexeme, rfl, rfl, hword⟩
  · rintro ⟨lexeme, rfl, rfl, hword⟩
    exact ⟨lexeme, rest, ⟨rfl, hword⟩, rfl, rfl⟩

theorem namelessTag_eq_some {tag : Tag} : namelessTag t = some (tag, rest) ↔
    ∃ lexeme, t = lexeme ++ rest ∧ tag = nameless ∧ lexeme.IsWord "<tmpl_unless>" := by
  simp only [namelessTag, bind_eq_some, pure_eq_some, literally_eq_some]
  constructor
  · rintro ⟨lexeme, _, ⟨rfl, hword⟩, rfl, rfl⟩
    exact ⟨lexeme, rfl, rfl, hword⟩
  · rintro ⟨lexeme, rfl, rfl, hword⟩
    exact ⟨lexeme, rest, ⟨rfl, hword⟩, rfl, rfl⟩

theorem exists_of_recogniser {tag : Tag} (h : recogniser t = some (tag, rest)) :
    ∃ lexeme, t = lexeme ++ rest ∧ tag.WrittenAs lexeme := by
  simp only [recogniser, either_eq_some] at h
  rcases h with h | ⟨-, h | ⟨-, h | ⟨-, h⟩⟩⟩
  · exact exists_of_namedTag h
  · exact exists_of_closingTag h
  · obtain ⟨lexeme, ht, rfl, hword⟩ := elseTag_eq_some.mp h
    exact ⟨lexeme, ht, .otherwise hword⟩
  · obtain ⟨lexeme, ht, rfl, hword⟩ := namelessTag_eq_some.mp h
    exact ⟨lexeme, ht, .nameless hword⟩

theorem literally_eq_none_of_isWord {start word word' : Text} (hstart : start.IsWord word')
    (h : ¬ word <+: word') (h' : ¬ word' <+: word) : literally word (start ++ rest) = none := by
  rw [Option.eq_none_iff_forall_ne_some]
  rintro ⟨read, rest'⟩ hread
  obtain ⟨heq, hword⟩ := literally_eq_some.mp hread
  rcases List.append_eq_append_iff.mp (hstart.append_eq hword heq) with ⟨u, hu, -⟩ | ⟨u, hu, -⟩
  · exact h' ⟨u, hu.symm⟩
  · exact h ⟨u, hu.symm⟩

/-- A tag with a name has white space after its keyword, so it is not there where a word is that
goes on otherwise. -/
theorem namedTag_eq_none {start word : Text} (hstart : start.IsWord word)
    (hword : ∀ w ∈ namedKeywords, (¬ ("<tmpl_" : Text) ++ w <+: word ∧
      ¬ word <+: ("<tmpl_" : Text) ++ w) ∨ word = ("<tmpl_" : Text) ++ w ++ (">" : Text)) :
    namedTag (start ++ rest) = none := by
  rw [Option.eq_none_iff_forall_ne_some]
  rintro ⟨tag, rest'⟩ hread
  simp only [namedTag, bind_eq_some] at hread
  obtain ⟨front, _, h₁, keyword, _, h₂, _, _, h₃, -⟩ := hread
  obtain ⟨heq, hfront⟩ := literally_eq_some.mp h₁
  obtain ⟨rfl, w, hw, hkeyword⟩ := (anyOf_eq_some (by decide)).mp h₂
  obtain ⟨gap, hgap₁, rfl, hgap, -⟩ := blanks₁_eq_some.mp h₃
  have hboth : IsWord (front ++ keyword) (("<tmpl_" : Text) ++ w) := by
    rw [IsWord, List.map_append, show front.map CodePoint.fold = _ from hfront,
      show keyword.map CodePoint.fold = _ from hkeyword]
  rw [← List.append_assoc] at heq
  have hagree := hstart.append_eq hboth heq
  rcases hword w hw with ⟨hbegins, hbegins'⟩ | rfl
  · rcases List.append_eq_append_iff.mp hagree with ⟨u, hu, -⟩ | ⟨u, hu, -⟩
    · exact hbegins' ⟨u, hu.symm⟩
    · exact hbegins ⟨u, hu.symm⟩
  · obtain ⟨c, gap, rfl⟩ := List.exists_cons_of_ne_nil hgap₁
    have hc := hgap c List.mem_cons_self
    rw [List.append_assoc, List.append_cancel_left_eq] at hagree
    obtain ⟨hclose, -⟩ := List.cons.inj hagree
    rw [(CodePoint.of_isBlank hc).1] at hclose
    rw [← hclose] at hc
    exact absurd hc (by decide)

/-- Whatever is written at the start of a text is read there. -/
theorem recogniser_of_writtenAs {tag : Tag} {lexeme : Text} (rest : Text)
    (h : tag.WrittenAs lexeme) :
    recogniser (lexeme ++ rest) = some (tag, rest) := by
  simp only [recogniser, either_eq_some]
  cases h with
  | @named start keyword gap key q name q' gap' written gap'' close escape hstart hkeyword hgap₁
      hgap hkey hq hname₁ hname hq' hgap' hwritten hgap'' hclose =>
      refine .inl ?_
      have hfollows := followsName_ending rest hq' hgap' hwritten hgap'' hclose
      have hquote := beginsNot_isQuotation_ending rest hgap' hwritten hgap'' hclose
      obtain ⟨hblank, ⟨_, hkey⟩, _, hfirst⟩ := reads_beginning hkey hq hname₁ hname hfollows
      obtain ⟨_, hsecond⟩ := quotationMark_of_isQuote hq' hquote
      obtain ⟨_, _, hfirst', hescape, hsecond'⟩ :=
        reads_ending rest hgap' hwritten hgap'' hclose
      simp only [namedTag, bind_eq_some, pure_eq_some, List.append_assoc]
      exact ⟨start, _, literally_eq_some.mpr ⟨rfl, hstart⟩, keyword, _,
        (anyOf_eq_some (by decide)).mpr ⟨rfl, hkeyword⟩, (), _,
        blanks₁_eq_some.mpr ⟨gap, hgap₁, rfl, hgap, hblank⟩, _, _, hkey, _, _, hfirst, name, _,
        namePart_of_followsName hname₁ hname hfollows, _, _, hsecond, _, _, hfirst', escape, _,
        hescape, _, _, hsecond', close, rest, literally_eq_some.mpr ⟨rfl, hclose⟩, rfl, rfl⟩
  | @closing start keyword close hstart hkeyword hclose =>
      refine .inr ⟨?_, .inl ?_⟩
      · rw [List.append_assoc]
        exact bind_eq_none (literally_eq_none_of_isWord hstart (by decide) (by decide))
      · simp only [closingTag, bind_eq_some, pure_eq_some, List.append_assoc]
        exact ⟨start, _, literally_eq_some.mpr ⟨rfl, hstart⟩, keyword, _,
          (anyOf_eq_some (by decide)).mpr ⟨rfl, hkeyword⟩, close, rest,
          literally_eq_some.mpr ⟨rfl, hclose⟩, rfl, rfl⟩
  | otherwise hword =>
      refine .inr ⟨namedTag_eq_none hword (by decide), .inr ⟨?_, .inl ?_⟩⟩
      · exact bind_eq_none (literally_eq_none_of_isWord hword (by decide) (by decide))
      · exact elseTag_eq_some.mpr ⟨_, rfl, rfl, hword⟩
  | nameless hword =>
      refine .inr ⟨namedTag_eq_none hword (by decide), .inr ⟨?_, .inr ⟨?_, ?_⟩⟩⟩
      · exact bind_eq_none (literally_eq_none_of_isWord hword (by decide) (by decide))
      · exact bind_eq_none (literally_eq_none_of_isWord hword (by decide) (by decide))
      · exact namelessTag_eq_some.mpr ⟨_, rfl, rfl, hword⟩

/-- The recogniser reads just what is written at the start of a text. -/
theorem recogniser_eq_some {tag : Tag} : recogniser t = some (tag, rest) ↔
    ∃ lexeme, t = lexeme ++ rest ∧ tag.WrittenAs lexeme := by
  refine ⟨exists_of_recogniser, ?_⟩
  rintro ⟨lexeme, rfl, h⟩
  exact recogniser_of_writtenAs rest h

theorem WrittenAs.unique {tag tag' : Tag} {lexeme lexeme' rest' : Text} (h : tag.WrittenAs lexeme)
    (h' : tag'.WrittenAs lexeme') (heq : lexeme ++ rest = lexeme' ++ rest') :
    tag = tag' ∧ lexeme = lexeme' := by
  have hread := recogniser_of_writtenAs rest h
  rw [heq, recogniser_of_writtenAs rest' h'] at hread
  cases hread
  exact ⟨rfl, List.append_cancel_right heq⟩

theorem atStart?_eq_some {tag : Tag} {length : Nat} : atStart? t = some (tag, length) ↔
    ∃ lexeme rest, t = lexeme ++ rest ∧ tag.WrittenAs lexeme ∧ length = lexeme.length := by
  rw [atStart?, Option.map_eq_some_iff]
  constructor
  · rintro ⟨⟨tag, rest⟩, hread, heq⟩
    obtain ⟨lexeme, rfl, hwritten⟩ := recogniser_eq_some.mp hread
    cases heq
    exact ⟨lexeme, rest, rfl, hwritten, by rw [List.length_append, Nat.add_sub_cancel]⟩
  · rintro ⟨lexeme, rest, rfl, hwritten, rfl⟩
    refine ⟨_, recogniser_of_writtenAs rest hwritten, ?_⟩
    rw [List.length_append, Nat.add_sub_cancel]

theorem atStart?_eq_none {c : CodePoint} (hc : c ≠ bracket) : atStart? (c :: t) = none := by
  rw [Option.eq_none_iff_forall_ne_some]
  rintro ⟨tag, length⟩ hread
  obtain ⟨lexeme, rest, heq, hwritten, -⟩ := atStart?_eq_some.mp hread
  obtain ⟨r, rfl, -⟩ := hwritten.beginsOnce
  exact hc (List.cons.inj heq).1

end Tag

end TagTemplate
