/-
# Keywords in lower case

A keyword is recognised by folding its letters and looked up in lower case.  For ASCII
letters the two are the same.  Four code points fold to an ASCII letter without being
one, and only the kelvin sign has that letter as its lower case:

    code point              folded    in lower case
    dotted capital I        i         i and a dot above
    dotless small i         i         itself
    long s                  s         itself
    kelvin sign             k         k

No keyword has a k.  So a keyword that in lower case is a word of the grammar is that
word in ASCII letters (`IsWord.lower_eq_iff`), and the words for escapes, which have
none of the four letters, always are.
-/
import TagTemplate.Proofs.Tag.Grammar
import TagTemplate.Escape.Basic

namespace TagTemplate

/-- The code points of ASCII. -/
def CodePoint.IsAscii (c : CodePoint) : Prop := c.val < 0x80

instance (c : CodePoint) : Decidable c.IsAscii := inferInstanceAs (Decidable (c.val < 0x80))

def Text.IsAscii (t : Text) : Prop := ∀ c ∈ t, c.IsAscii

instance (t : Text) : Decidable t.IsAscii :=
  inferInstanceAs (Decidable (∀ c ∈ t, c.IsAscii))

namespace CodePoint

theorem find?_lowerRuns : ∀ n < 0x80, CaseRun.find? lowerRuns n =
    if 0x41 ≤ n ∧ n ≤ 0x5a then some (n + 0x20) else none := by
  decide +kernel

theorem lower_of_isAscii {c : CodePoint} (h : c.IsAscii) : c.lower = [c.fold] := by
  have hlt : c.val < 0x80 := h
  unfold lower fold
  rw [if_neg (by omega), find?_lowerRuns c.val h]
  by_cases hcapital : 0x41 ≤ c.val ∧ c.val ≤ 0x5a
  · simp [hcapital]
  · rw [if_neg hcapital]
    simp only [Bool.and_eq_true, Bool.or_eq_true, decide_eq_true_eq]
    rw [if_neg hcapital, if_neg (by omega), if_neg (by omega), if_neg (by omega)]

/-- What folds to an ASCII letter is one, but for variants of `i`, `s` and `k`. -/
theorem isAscii_or_of_fold {c d : CodePoint} (h : c.fold = d) (hd : 0x61 ≤ d.val ∧ d.val ≤ 0x7a) :
    c.IsAscii ∨ (c.val = 0x130 ∧ d = .ofChar 'i') ∨ (c.val = 0x131 ∧ d = .ofChar 'i') ∨
      (c.val = 0x17f ∧ d = .ofChar 's') ∨ (c.val = 0x212a ∧ d = .ofChar 'k') := by
  subst h
  rcases c.fold_cases with hc | ⟨-, -, hcapital | hdotted | hdotless | hlong | hkelvin⟩
  · rw [hc] at hd
    exact .inl (show c.val < 0x80 by omega)
  · exact .inl (show c.val < 0x80 by omega)
  · exact .inr (.inl ⟨hdotted, by simp [fold, hdotted]⟩)
  · exact .inr (.inr (.inl ⟨hdotless, by simp [fold, hdotless]⟩))
  · exact .inr (.inr (.inr (.inl ⟨hlong, by simp [fold, hlong]⟩)))
  · exact .inr (.inr (.inr (.inr ⟨hkelvin, by simp [fold, hkelvin]⟩)))

/-- A variant of a letter other than `k` stays no ASCII letter in lower case. -/
theorem exists_not_isAscii_of_lower {c d : CodePoint} (h : c.fold = d)
    (hd : 0x61 ≤ d.val ∧ d.val ≤ 0x7a) (hk : d ≠ .ofChar 'k') (hc : ¬ c.IsAscii) :
    ∃ e ∈ c.lower, ¬ e.IsAscii := by
  rcases isAscii_or_of_fold h hd with ha | ⟨hv, -⟩ | ⟨hv, -⟩ | ⟨hv, -⟩ | ⟨-, hk'⟩
  · exact absurd ha hc
  · refine ⟨ofNatOrReplacement 0x307, ?_, by decide⟩
    rw [lower, if_pos hv]
    exact List.mem_cons_of_mem _ List.mem_cons_self
  · refine ⟨c, ?_, hc⟩
    rw [lower, if_neg (by omega), hv, show CaseRun.find? lowerRuns 0x131 = none by decide +kernel]
    exact List.mem_cons_self
  · refine ⟨c, ?_, hc⟩
    rw [lower, if_neg (by omega), hv, show CaseRun.find? lowerRuns 0x17f = none by decide +kernel]
    exact List.mem_cons_self
  · exact absurd hk' hk

end CodePoint

namespace Text

variable {t word : Text}

/-- Without capital sigmas, each code point has its own lower case. -/
theorem lowerAfter_eq_flatMap (h : ∀ c ∈ t, c.val ≠ 0x3a3) (before : Text) :
    lowerAfter before t = t.flatMap CodePoint.lower := by
  induction t generalizing before with
  | nil => rfl
  | cons c t ih =>
      obtain ⟨hc, ht⟩ := List.forall_mem_cons.mp h
      simp only [lowerAfter, ih ht, List.flatMap_cons, hc, decide_false, Bool.false_and,
        Bool.false_eq_true, if_false]

theorem IsAscii.lower_eq (h : t.IsAscii) : t.lower = t.map CodePoint.fold := by
  have hsigma : ∀ c ∈ t, c.val ≠ 0x3a3 := fun c hc => by
    have : c.val < 0x80 := h c hc
    omega
  have hlower : t.map CodePoint.lower = t.map fun c => [c.fold] :=
    List.map_congr_left fun c hc => CodePoint.lower_of_isAscii (h c hc)
  rw [lower, lowerAfter_eq_flatMap hsigma, List.flatMap_def, hlower, ← List.flatMap_def,
    ← List.map_eq_flatMap]

theorem IsWord.isAscii (h : t.IsWord word)
    (hword : ∀ d ∈ word, (0x61 ≤ d.val ∧ d.val ≤ 0x7a) ∧ d ∉ (("isk" : Text))) : t.IsAscii := by
  intro c hc
  obtain ⟨hletter, hplain⟩ := hword c.fold (h ▸ List.mem_map_of_mem hc)
  rcases CodePoint.isAscii_or_of_fold rfl hletter with ha | ⟨-, hd⟩ | ⟨-, hd⟩ | ⟨-, hd⟩ | ⟨-, hd⟩
  · exact ha
  all_goals exact absurd (hd ▸ (by decide)) hplain

theorem IsWord.lower_eq_flatMap (h : t.IsWord word)
    (hword : ∀ d ∈ word, 0x61 ≤ d.val ∧ d.val ≤ 0x7a) : t.lower = t.flatMap CodePoint.lower := by
  refine lowerAfter_eq_flatMap (fun c hc hv => ?_) []
  have hletter := hword c.fold (h ▸ List.mem_map_of_mem hc)
  rcases c.fold_cases with hf | ⟨-, -, hf⟩
  · rw [hf] at hletter; omega
  · omega

/-- In lower case, a word without the letter `k` has ASCII letters only if it had. -/
theorem IsWord.isAscii_of_lower (h : t.IsWord word)
    (hword : ∀ d ∈ word, (0x61 ≤ d.val ∧ d.val ≤ 0x7a) ∧ d ≠ .ofChar 'k')
    (hlower : t.lower.IsAscii) : t.IsAscii := by
  have hfold : ∀ c ∈ t, (0x61 ≤ c.fold.val ∧ c.fold.val ≤ 0x7a) ∧ c.fold ≠ .ofChar 'k' :=
    fun c hc => hword c.fold (h ▸ List.mem_map_of_mem hc)
  rw [h.lower_eq_flatMap fun d hd => (hword d hd).1] at hlower
  intro c hc
  refine Classical.byContradiction fun ha => ?_
  obtain ⟨e, he, hne⟩ := CodePoint.exists_not_isAscii_of_lower rfl (hfold c hc).1 (hfold c hc).2 ha
  exact hne (hlower e (List.mem_flatMap.mpr ⟨c, hc, he⟩))

/-- A keyword is its word in lower case just if it is written in ASCII. -/
theorem IsWord.lower_eq_iff (h : t.IsWord word)
    (hword : ∀ d ∈ word, (0x61 ≤ d.val ∧ d.val ≤ 0x7a) ∧ d ≠ .ofChar 'k') :
    t.lower = word ↔ t.IsAscii := by
  constructor
  · intro heq
    refine h.isAscii_of_lower hword fun d hd => ?_
    rw [heq] at hd
    exact Nat.lt_of_le_of_lt (hword d hd).1.2 (by decide)
  · intro ha
    rw [ha.lower_eq]
    exact h

end Text

end TagTemplate
