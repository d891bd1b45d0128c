/-
# Texts without surrogates

A text without surrogates (`t.IsScalar`) has a form in bytes, which is what the URL
escaper asks for.  How values are written brings none in: not the words, brackets and
digits of it, and not quoted texts either, whatever is between the quotes, because
quoting leaves nothing unprintable and a surrogate is.
-/
import Mathlib.Data.List.TakeWhile
import TagTemplate.Escape.Standard
import TagTemplate.Proofs.Text.Quoted

namespace TagTemplate.Text

def IsScalar (t : Text) : Prop := ∀ c ∈ t, c.isSurrogate = false

variable {t u sep : Text}

/-! ## Put together -/

theorem IsScalar.append (ht : t.IsScalar) (hu : u.IsScalar) : IsScalar (t ++ u) :=
  fun c hc => (List.mem_append.mp hc).elim (ht c) (hu c)

theorem IsScalar.join {ts : List Text} (hsep : sep.IsScalar) (h : ∀ t ∈ ts, IsScalar t) :
    IsScalar (Text.join sep ts) := by
  induction ts with
  | nil => exact nofun
  | cons t ts ih =>
      obtain ⟨ht, hts⟩ := List.forall_mem_cons.mp h
      cases ts with
      | nil => exact ht
      | cons u ts => exact (ht.append hsep).append (ih hts)

/-! ## Characters and numbers -/

theorem isSurrogate_ofChar (c : Char) : (CodePoint.ofChar c).isSurrogate = false := by
  have h : c.val.toNat < 0xd800 ∨ (0xdfff < c.val.toNat ∧ c.val.toNat < 0x110000) := c.valid
  have hval : (CodePoint.ofChar c).val = c.val.toNat := rfl
  rw [Bool.eq_false_iff]
  intro hc
  simp only [CodePoint.isSurrogate, hval, Bool.and_eq_true, decide_eq_true_eq] at hc
  omega

theorem isScalar_ofString (s : String) : IsScalar s := by
  intro c hc
  obtain ⟨d, -, rfl⟩ := List.mem_map.mp hc
  exact isSurrogate_ofChar d

theorem isScalar_ofInt (n : Int) : IsScalar (ofInt n) := by
  cases n with
  | ofNat n => exact isScalar_ofString _
  | negSucc n => exact (isScalar_ofString _).append (isScalar_ofString _)

/-! ## Quoted texts -/

theorem isSurrogate_of_isPrintable {c : CodePoint} (h : c.isPrintable = true) :
    c.isSurrogate = false := by
  rw [Bool.eq_false_iff]
  intro hc
  simp only [CodePoint.isSurrogate, Bool.and_eq_true, decide_eq_true_eq] at hc
  have hfalse : c.isPrintable = false :=
    @CodePoint.isPrintable_eq_false c 0xd800 0xdfff (by decide +kernel) (by omega)
  cases h.symm.trans hfalse

theorem isScalar_quoted (t : Text) : t.quoted.IsScalar :=
  fun _ hc => isSurrogate_of_isPrintable (isPrintable_of_mem_quoted hc)

/-! ## Escapers -/

theorem unencodable?_of_isScalar (h : t.IsScalar) : t.unencodable? = none := by
  have hdrop : t.dropWhile (!·.isSurrogate) = [] :=
    List.dropWhile_eq_nil_iff.mpr fun c hc => by simp [h c hc]
  simp [unencodable?, hdrop]

theorem IsScalar.exists_apply (h : t.IsScalar) (mode : EscapeMode) :
    ∃ escaped, EscapeTable.standard.apply mode t = .ok escaped := by
  cases mode with
  | plain => exact ⟨t, rfl⟩
  | html => exact ⟨t.htmlEscaped, rfl⟩
  | url =>
      refine ⟨t.flatMap CodePoint.percentEncoded, ?_⟩
      show t.percentEncoded = _
      rw [percentEncoded, unencodable?_of_isScalar h]

end TagTemplate.Text
