/-
# The grammar of tags, as a relation

`tag.WrittenAs lexeme` says that a text is a whole tag, and which one.  It says what
the parts of a tag are and nothing of how they are found:

    named      <tmpl_ keyword blanks [name=] ["] name ["] [blanks] [escape] [blanks] >
      escape     escape= ["] word ["]
    closing    </tmpl_ keyword >
    otherwise  <tmpl_else>
    nameless   <tmpl_unless>

The words `name=` and `escape=` are made of letters that names are made of too, and
quotation marks need not balance, so it takes a proof that no text is a tag in two
ways.  What can be read off at once is where tags begin: with a `<`, and there is no
other one in a tag.
-/
import TagTemplate.Tag.Grammar

namespace TagTemplate

/-! ## Code points that parts of tags are made of -/

namespace CodePoint

/-- Folding a code point gives a small ASCII letter or changes nothing. -/
theorem fold_cases (c : CodePoint) :
    c.fold = c ∨ (0x61 ≤ c.fold.val ∧ c.fold.val ≤ 0x7a ∧
      ((0x41 ≤ c.val ∧ c.val ≤ 0x5a) ∨ c.val = 0x130 ∨ c.val = 0x131 ∨ c.val = 0x17f ∨
        c.val = 0x212a)) := by
  unfold fold
  split
  · next h =>
      simp only [Bool.and_eq_true, decide_eq_true_eq] at h
      have hlt : c.val + 0x20 < 0x110000 := by omega
      simp only [ofNatOrReplacement, ofNat?, hlt, dif_pos, Option.getD_some]
      omega
  · split
    · next h =>
        simp only [Bool.or_eq_true, decide_eq_true_eq] at h
        exact .inr ⟨by decide, by decide, by omega⟩
    · split
      · next h => exact .inr ⟨by decide, by decide, by omega⟩
      · split
        · next h => exact .inr ⟨by decide, by decide, by omega⟩
        · exact .inl rfl

theorem eq_of_fold_eq {c d : CodePoint} (h : c.fold = d) (hd : ¬ (0x61 ≤ d.val ∧ d.val ≤ 0x7a)) :
    c = d := by
  rcases c.fold_cases with hc | ⟨h₁, h₂, -⟩
  · rw [← hc, h]
  · rw [h] at h₁ h₂
    exact absurd ⟨h₁, h₂⟩ hd

theorem inRanges_iff {c : CodePoint} {ranges : List (Nat × Nat)} :
    c.inRanges ranges = true ↔ ∃ r ∈ ranges, r.1 ≤ c.val ∧ c.val ≤ r.2 := by
  simp [inRanges]

theorem of_isBlank {c : CodePoint} (h : c.isBlank = true) :
    c.fold = c ∧ ¬ (0x61 ≤ c.val ∧ c.val ≤ 0x7a) ∧ c.val ≠ 0x22 ∧ c.val ≠ 0x3c ∧ c.val ≠ 0x3e := by
  rw [isBlank, inRanges_iff] at h
  simp only [blankRanges, List.mem_cons, List.not_mem_nil, or_false, exists_eq_or_imp,
    exists_eq_left] at h
  rcases c.fold_cases with hc | hc
  · exact ⟨hc, by omega, by omega, by omega, by omega⟩
  · omega

end CodePoint

namespace Tag

theorem isNamePart_iff {c : CodePoint} : isNamePart c = true ↔
    (0x61 ≤ c.fold.val ∧ c.fold.val ≤ 0x7a) ∨ (0x30 ≤ c.val ∧ c.val ≤ 0x39) ∨ c.val = 0x5f ∨
      c.val = 0x2d ∨ c.val = 0x2e := by
  rw [isNamePart, CodePoint.inRanges_iff]
  simp only [List.mem_cons, List.not_mem_nil, or_false, exists_eq_or_imp, exists_eq_left]
  rcases c.fold_cases with hc | hc
  · rw [hc]; omega
  · omega

theorem of_isNamePart {c : CodePoint} (h : isNamePart c = true) :
    c.isBlank = false ∧ c.val ≠ 0x22 ∧ c.val ≠ 0x3c ∧ c.val ≠ 0x3d ∧ c.val ≠ 0x3e := by
  have hc := isNamePart_iff.mp h
  have hfold := c.fold_cases
  refine ⟨?_, ?_⟩
  · rw [Bool.eq_false_iff]
    intro hb
    have := CodePoint.of_isBlank hb
    rw [CodePoint.isBlank, CodePoint.inRanges_iff] at hb
    simp only [blankRanges, List.mem_cons, List.not_mem_nil, or_false, exists_eq_or_imp,
      exists_eq_left] at hb
    rw [this.1] at hc
    omega
  · rcases hfold with hfold | hfold
    · rw [hfold] at hc; omega
    · omega

end Tag

/-! ## Words, white space, quotation marks -/

namespace Text

/-- The text is a word, its letters in any case; the word itself is in lower case. -/
def IsWord (t word : Text) : Prop := t.map CodePoint.fold = word

/-- The text is white space, or empty. -/
def IsBlank (t : Text) : Prop := ∀ c ∈ t, c.isBlank = true

/-- The text is a quotation mark, or empty. -/
def IsQuote (t : Text) : Prop := t = [] ∨ t = [.ofChar '\x22']

variable {t word : Text} {c d : CodePoint}

theorem IsWord.exists_cons (h : t.IsWord (d :: word)) :
    ∃ c r, t = c :: r ∧ c.fold = d ∧ IsWord r word := List.map_eq_cons_iff.mp h

/-- Texts that agree are words that agree, followed by texts that agree up to case. -/
theorem IsWord.append_eq {t' r r' word' : Text} (ht : t.IsWord word) (ht' : t'.IsWord word')
    (h : t ++ r = t' ++ r') : word ++ r.map CodePoint.fold = word' ++ r'.map CodePoint.fold := by
  have hmap := congrArg (List.map CodePoint.fold) h
  rwa [List.map_append, List.map_append, show List.map CodePoint.fold t = word from ht,
    show List.map CodePoint.fold t' = word' from ht'] at hmap

theorem IsWord.not_mem (h : t.IsWord word) (hd : d.fold = d) (hw : d ∉ word) : d ∉ t := by
  intro hmem
  have hfold := List.mem_map_of_mem (f := CodePoint.fold) hmem
  rw [hd, show List.map CodePoint.fold t = word from h] at hfold
  exact hw hfold

end Text

/-! ## Tags -/

namespace Tag

open Text

/-- How the escape of a tag is written, if it has one. -/
inductive EscapeWrittenAs : Option Text → Text → Prop
  | absent : EscapeWrittenAs none []
  | present {key q word q' : Text} : key.IsWord "escape=" → q.IsQuote →
      (∃ w ∈ escapeWords, word.IsWord w) → q'.IsQuote →
      EscapeWrittenAs (some word) (key ++ (q ++ (word ++ q')))

/-- How a tag is written. -/
inductive WrittenAs : Tag → Text → Prop
  | named {start keyword gap key q name q' gap' written gap'' close : Text}
      {escape : Option Text} :
      start.IsWord "<tmpl_" → (∃ w ∈ namedKeywords, keyword.IsWord w) → gap ≠ [] → gap.IsBlank →
      (key = [] ∨ key.IsWord "name=") → q.IsQuote → name ≠ [] →
      (∀ c ∈ name, isNamePart c = true) → q'.IsQuote → gap'.IsBlank →
      EscapeWrittenAs escape written → gap''.IsBlank → close.IsWord ">" →
      WrittenAs (named keyword name escape)
        (start ++ (keyword ++ (gap ++ (key ++ (q ++ (name ++
          (q' ++ (gap' ++ (written ++ (gap'' ++ close))))))))))
  | closing {start keyword close : Text} : start.IsWord "</tmpl_" →
      (∃ w ∈ closingKeywords, keyword.IsWord w) → close.IsWord ">" →
      WrittenAs (closing keyword) (start ++ (keyword ++ close))
  | otherwise {t : Text} : t.IsWord "<tmpl_else>" → WrittenAs otherwise t
  | nameless {t : Text} : t.IsWord "<tmpl_unless>" → WrittenAs nameless t

/-! ## Where tags begin -/

/-- The bracket that tags begin with. -/
def bracket : CodePoint := .ofChar '<'

/-- The text begins with the bracket, which occurs nowhere else in it. -/
def BeginsOnce (t : Text) : Prop := ∃ r, t = bracket :: r ∧ bracket ∉ r

theorem beginsOnce_of_isWord {t word : Text} (h : t.IsWord (bracket :: word))
    (hword : bracket ∉ word) : BeginsOnce t := by
  obtain ⟨c, r, rfl, hc, hr⟩ := h.exists_cons
  have hbracket : c = bracket := CodePoint.eq_of_fold_eq hc (by decide)
  exact ⟨r, by rw [hbracket], hr.not_mem (by decide) hword⟩

theorem BeginsOnce.append {t u : Text} (h : BeginsOnce t) (hu : bracket ∉ u) :
    BeginsOnce (t ++ u) := by
  obtain ⟨r, rfl, hr⟩ := h
  exact ⟨r ++ u, rfl, by simp [hr, hu]⟩

theorem bracket_not_mem_of_isBlank {t : Text} (h : t.IsBlank) : bracket ∉ t :=
  fun hmem => (CodePoint.of_isBlank (h _ hmem)).2.2.2.1 rfl

theorem bracket_not_mem_of_isQuote {t : Text} (h : t.IsQuote) : bracket ∉ t := by
  rcases h with rfl | rfl <;> decide

theorem bracket_not_mem_of_isWord {t : Text} {words : List Text}
    (h : ∃ w ∈ words, t.IsWord w) (hwords : ∀ w ∈ words, bracket ∉ w) : bracket ∉ t := by
  obtain ⟨w, hw, ht⟩ := h
  exact ht.not_mem (by decide) (hwords w hw)

theorem EscapeWrittenAs.bracket_not_mem {escape : Option Text} {t : Text}
    (h : EscapeWrittenAs escape t) : bracket ∉ t := by
  cases h with
  | absent => decide
  | present hkey hq hword hq' =>
      simp only [List.mem_append, not_or]
      exact ⟨hkey.not_mem (by decide) (by decide), bracket_not_mem_of_isQuote hq,
        bracket_not_mem_of_isWord hword (by decide), bracket_not_mem_of_isQuote hq'⟩

/-- A tag begins with a bracket, and there is no other one in it. -/
theorem WrittenAs.beginsOnce {tag : Tag} {t : Text} (h : tag.WrittenAs t) : BeginsOnce t := by
  cases h with
  | @named _ _ _ key _ name _ _ _ _ _ _ hstart hkeyword _ hgap hkey hq _ hname hq' hgap' hescape
      hgap'' hclose =>
      refine (beginsOnce_of_isWord hstart (by decide)).append ?_
      have hkey' : bracket ∉ key := by
        rcases hkey with rfl | hkey
        · exact List.not_mem_nil
        · exact hkey.not_mem (by decide) (by decide)
      have hname' : bracket ∉ name := fun hmem => (of_isNamePart (hname _ hmem)).2.2.1 rfl
      simp only [List.mem_append, not_or]
      exact ⟨bracket_not_mem_of_isWord hkeyword (by decide), bracket_not_mem_of_isBlank hgap,
        hkey', bracket_not_mem_of_isQuote hq, hname', bracket_not_mem_of_isQuote hq',
        bracket_not_mem_of_isBlank hgap', hescape.bracket_not_mem,
        bracket_not_mem_of_isBlank hgap'', hclose.not_mem (by decide) (by decide)⟩
  | closing hstart hkeyword hclose =>
      refine (beginsOnce_of_isWord hstart (by decide)).append ?_
      simp only [List.mem_append, not_or]
      exact ⟨bracket_not_mem_of_isWord hkeyword (by decide),
        hclose.not_mem (by decide) (by decide)⟩
  | otherwise ht => exact beginsOnce_of_isWord ht (by decide)
  | nameless ht => exact beginsOnce_of_isWord ht (by decide)

end Tag

end TagTemplate
