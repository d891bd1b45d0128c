/-
# Numerals — how numbers are written

A number is written in decimal digits, a negative one with a dash in front, and no two numbers are
written alike.  So a numeral ends where something else than a digit begins.
-/
import TagTemplate.Text.Basic

namespace TagTemplate

/-- A digit of a decimal numeral. -/
def CodePoint.IsDecimal (c : CodePoint) : Prop := 0x30 ≤ c.val ∧ c.val ≤ 0x39

theorem CodePoint.ofChar_injective : Function.Injective CodePoint.ofChar :=
  fun _ _ h => Char.ext (UInt32.toNat_inj.mp (congrArg CodePoint.val h))

namespace Text

variable {c : CodePoint}

theorem ofString_injective : Function.Injective Text.ofString := fun _ _ h =>
  String.toList_inj.mp ((List.map_inj_right fun _ _ h => CodePoint.ofChar_injective h).mp h)

theorem isDecimal_of_mem_ofNat {n : Nat} (h : c ∈ ofNat n) : c.IsDecimal := by
  obtain ⟨d, hd, rfl⟩ := List.mem_map.mp h
  rw [Nat.repr_eq_ofList_toDigits, String.toList_ofList] at hd
  have hdigit := Nat.isDigit_of_mem_toDigits (by decide) (by decide) hd
  rw [Char.isDigit_iff_toNat] at hdigit
  exact hdigit

theorem ofNat_injective : Function.Injective Text.ofNat := by
  intro n m h
  have hdigits : Nat.toDigits 10 n = Nat.toDigits 10 m := by
    have hrepr := ofString_injective h
    rw [Nat.repr_eq_ofList_toDigits, Nat.repr_eq_ofList_toDigits] at hrepr
    exact String.ofList_injective hrepr
  rw [← Nat.ofDigitChars_ten_toDigits (n := n), hdigits, Nat.ofDigitChars_ten_toDigits]

theorem of_mem_ofInt {n : Int} (h : c ∈ ofInt n) : c = .ofChar '-' ∨ c.IsDecimal := by
  cases n with
  | ofNat n => exact .inr (isDecimal_of_mem_ofNat h)
  | negSucc n =>
      rcases List.mem_cons.mp h with rfl | h
      · exact .inl rfl
      · exact .inr (isDecimal_of_mem_ofNat h)

theorem ofInt_injective : Function.Injective Text.ofInt := by
  -- a dash is no digit, so the signs are the same
  have hsign : ∀ n m : Nat, ofInt (.negSucc n) ≠ ofInt (.ofNat m) := by
    intro n m heq
    have hdash : CodePoint.ofChar '-' ∈ ofInt (.ofNat m) := by
      rw [← heq]
      exact List.mem_cons_self
    exact absurd (isDecimal_of_mem_ofNat hdash).1 (by decide)
  intro n m heq
  cases n with
  | ofNat n =>
      cases m with
      | ofNat m => exact congrArg Int.ofNat (ofNat_injective heq)
      | negSucc m => exact absurd heq.symm (hsign m n)
  | negSucc n =>
      cases m with
      | ofNat m => exact absurd heq (hsign n m)
      | negSucc m =>
          have hnat := ofNat_injective (List.append_cancel_left heq)
          rw [Nat.succ_inj.mp hnat]

end Text

end TagTemplate
