/-
# UTF-8 is read as what was written

    code points         first byte        continued by
    0     – 7f          n
    80    – 7ff         c0 + i            80 + j                      n = i j
    800   – ffff        e0 + i            80 + j, 80 + k              n = i j k
    10000 – 10ffff      f0 + i            80 + j, 80 + k, 80 + l      n = i j k l

A continuation byte has six bits of the number.  Reading takes one code point at a time, so the
round trip of a text (`decodeUtf8_flatMap_utf8`) comes from that of one code point in front of any
bytes (`decodeUtf8_utf8_append`), and that from the four rows.  What the second byte is restricted
to says that the code point was in no earlier row and is no surrogate.
-/
import TagTemplate.Proofs.Text.Scalar

namespace TagTemplate

theorem CodePoint.ofNatOrReplacement_val {c : CodePoint} {n : Nat} (h : n = c.val) :
    ofNatOrReplacement n = c := by
  subst h
  rw [ofNatOrReplacement, ofNat?, dif_pos c.val_lt]
  rfl

namespace Text

variable {c : CodePoint} {b₀ b₁ b₂ b₃ : UInt8} {pos i j k l : Nat} {bytes : List UInt8}

/-! ## Reading the rows -/

theorem isContinuation_of_toNat (h : b₀.toNat = 0x80 + j) (hj : j < 0x40) :
    isContinuation b₀ = true := by
  simp only [isContinuation, Bool.and_eq_true, decide_eq_true_eq, UInt8.le_iff_toNat_le,
    UInt8.lt_iff_toNat_lt, UInt8.reduceToNat]
  omega

/-- The second byte, by what the first restricts it to. -/
theorem isSecond_iff (h : b₁.toNat = 0x80 + j) (hj : j < 0x40) :
    isSecond b₀ b₁ = true ↔
      (b₀.toNat = 0xe0 → 0x20 ≤ j) ∧ (b₀.toNat = 0xed → j < 0x20) ∧
      (b₀.toNat = 0xf0 → 0x10 ≤ j) ∧ (b₀.toNat = 0xf4 → j < 0x10) := by
  simp only [isSecond, isContinuation_of_toNat h hj, Bool.true_and, Bool.and_eq_true,
    Bool.or_eq_true, bne_iff_ne, ne_eq, decide_eq_true_eq, UInt8.le_iff_toNat_le,
    UInt8.lt_iff_toNat_lt, ← UInt8.toNat_inj, UInt8.reduceToNat]
  omega

theorem decodeUtf8_one (h₀ : b₀.toNat = i) (hi : i < 0x80) :
    decodeUtf8 pos (b₀ :: bytes) =
      (decodeUtf8 (pos + 1) bytes).map (.ofNatOrReplacement i :: ·) := by
  subst h₀
  rw [decodeUtf8.eq_def]
  exact if_pos (UInt8.lt_iff_toNat_lt.mpr hi)

theorem decodeUtf8_two (h₀ : b₀.toNat = 0xc0 + i) (hi : 2 ≤ i) (hi' : i < 0x20)
    (h₁ : b₁.toNat = 0x80 + j) (hj : j < 0x40) :
    decodeUtf8 pos (b₀ :: b₁ :: bytes) =
      (decodeUtf8 (pos + 2) bytes).map (.ofNatOrReplacement (i * 0x40 + j) :: ·) := by
  have hsecond : isSecond b₀ b₁ = true := (isSecond_iff h₁ hj).mpr (by omega)
  rw [decodeUtf8.eq_def]
  simp only [hsecond, UInt8.lt_iff_toNat_lt, UInt8.le_iff_toNat_le, UInt8.reduceToNat,
    Bool.or_eq_true, decide_eq_true_eq]
  rw [if_neg (by omega), if_neg (by omega), if_neg (by decide), if_pos (by omega)]
  simp only [CodePoint.assemble, List.foldl_cons, List.foldl_nil, h₀, h₁, Nat.add_sub_cancel_left]

theorem decodeUtf8_three (h₀ : b₀.toNat = 0xe0 + i) (hi : i < 0x10)
    (h₁ : b₁.toNat = 0x80 + j) (hj : j < 0x40) (h₂ : b₂.toNat = 0x80 + k) (hk : k < 0x40)
    (hshort : i = 0 → 0x20 ≤ j) (hsurrogate : i = 0xd → j < 0x20) :
    decodeUtf8 pos (b₀ :: b₁ :: b₂ :: bytes) =
      (decodeUtf8 (pos + 3) bytes).map
        (.ofNatOrReplacement ((i * 0x40 + j) * 0x40 + k) :: ·) := by
  have hsecond : isSecond b₀ b₁ = true := (isSecond_iff h₁ hj).mpr (by omega)
  rw [decodeUtf8.eq_def]
  simp only [hsecond, isContinuation_of_toNat h₂ hk, UInt8.lt_iff_toNat_lt,
    UInt8.le_iff_toNat_le, UInt8.reduceToNat, Bool.or_eq_true, decide_eq_true_eq]
  rw [if_neg (by omega), if_neg (by omega), if_neg (by decide), if_neg (by omega),
    if_neg (by decide), if_pos (by omega)]
  simp only [CodePoint.assemble, List.foldl_cons, List.foldl_nil, h₀, h₁, h₂,
    Nat.add_sub_cancel_left]

theorem decodeUtf8_four (h₀ : b₀.toNat = 0xf0 + i) (hi : i < 5)
    (h₁ : b₁.toNat = 0x80 + j) (hj : j < 0x40) (h₂ : b₂.toNat = 0x80 + k) (hk : k < 0x40)
    (h₃ : b₃.toNat = 0x80 + l) (hl : l < 0x40)
    (hshort : i = 0 → 0x10 ≤ j) (hlast : i = 4 → j < 0x10) :
    decodeUtf8 pos (b₀ :: b₁ :: b₂ :: b₃ :: bytes) =
      (decodeUtf8 (pos + 4) bytes).map
        (.ofNatOrReplacement (((i * 0x40 + j) * 0x40 + k) * 0x40 + l) :: ·) := by
  have hsecond : isSecond b₀ b₁ = true := (isSecond_iff h₁ hj).mpr (by omega)
  rw [decodeUtf8.eq_def]
  simp only [hsecond, isContinuation_of_toNat h₂ hk, isContinuation_of_toNat h₃ hl,
    UInt8.lt_iff_toNat_lt, UInt8.le_iff_toNat_le, UInt8.reduceToNat, Bool.or_eq_true,
    decide_eq_true_eq]
  rw [if_neg (by omega), if_neg (by omega), if_neg (by decide), if_neg (by omega),
    if_neg (by decide), if_neg (by omega), if_neg (by decide)]
  simp only [CodePoint.assemble, List.foldl_cons, List.foldl_nil, h₀, h₁, h₂, h₃,
    Nat.add_sub_cancel_left]

/-! ## Round trip -/

/-- A code point in front of bytes is read first, and the bytes as if it were not there. -/
theorem decodeUtf8_utf8_append (hc : c.isSurrogate = false) (pos : Nat) (bytes : List UInt8) :
    decodeUtf8 pos (c.utf8 ++ bytes) =
      (decodeUtf8 (pos + c.utf8.length) bytes).map (c :: ·) := by
  have hlast := c.val_lt
  have hscalar : ¬(0xd800 ≤ c.val ∧ c.val ≤ 0xdfff) := by
    simpa [CodePoint.isSurrogate] using hc
  have hbyte {n : Nat} (hn : n < 0x100) : (UInt8.ofNat n).toNat = n := UInt8.toNat_ofNat_of_lt' hn
  unfold CodePoint.utf8
  dsimp only
  split
  · rw [List.singleton_append, decodeUtf8_one (hbyte (by omega)) ‹_›,
      CodePoint.ofNatOrReplacement_val rfl]
    rfl
  · split
    · rw [List.cons_append, List.singleton_append,
        decodeUtf8_two (hbyte (by omega)) (by omega) (by omega) (hbyte (by omega)) (by omega),
        CodePoint.ofNatOrReplacement_val (c := c) (by omega)]
      rfl
    · split
      · rw [List.cons_append, List.cons_append, List.singleton_append,
          decodeUtf8_three (hbyte (by omega)) (by omega) (hbyte (by omega)) (by omega)
            (hbyte (by omega)) (by omega) (by omega) (by omega),
          CodePoint.ofNatOrReplacement_val (c := c) (by omega)]
        rfl
      · rw [List.cons_append, List.cons_append, List.cons_append, List.singleton_append,
          decodeUtf8_four (hbyte (by omega)) (by omega) (hbyte (by omega)) (by omega)
            (hbyte (by omega)) (by omega) (hbyte (by omega)) (by omega) (by omega) (by omega),
          CodePoint.ofNatOrReplacement_val (c := c) (by omega)]
        rfl

theorem decodeUtf8_flatMap_utf8 {t : Text} (ht : t.IsScalar) (pos : Nat) :
    decodeUtf8 pos (t.flatMap CodePoint.utf8) = .ok t := by
  induction t generalizing pos with
  | nil => rw [List.flatMap_nil, decodeUtf8]
  | cons c t ih =>
      obtain ⟨hc, ht⟩ := List.forall_mem_cons.mp ht
      rw [List.flatMap_cons, decodeUtf8_utf8_append hc, ih ht]
      rfl

end Text

end TagTemplate
