/-
# Percent encoding — what is written in a URL can be read back

What is written for a URL is clean: kept characters, and triples.

    kept        letters, digits, ; , / ? : @ & = + $ - _ . ! ~ * ' ( ) #
    triple      %  and two of  0 1 2 3 4 5 6 7 8 9 A B C D E F

Reading has two stages.  A triple is the byte that it writes and a kept character its own byte;
then the bytes are read as UTF-8.  The first stage is the inverse of writing on each code point
(`percentBytes?_percentEncoded_append`): the sign of a triple is not kept, so it cannot be taken
for a character, and a kept character is the one byte of its UTF-8 form.  The second stage is the
inverse of UTF-8.
-/
import TagTemplate.Proofs.Text.Utf8

namespace TagTemplate

/-- What stays as it is in a URL. -/
def urlKept : Text :=
  "ABCDEFGHIJKLMNOPQRSTUVWXYZabcdefghijklmnopqrstuvwxyz0123456789;,/?:@&=+$-_.!~*'()#"

/-- The hexadecimal digits, each at the place of its value. -/
def upperHexDigits : Text := "0123456789ABCDEF"

/-- What a triple begins with. -/
def percentSign : CodePoint := .ofChar '%'

namespace Text

/-- Texts of kept characters and triples. -/
inductive UrlClean : Text → Prop
  | nil : UrlClean []
  | kept {c : CodePoint} {t : Text} : c ∈ urlKept → UrlClean t → UrlClean (c :: t)
  | triple {high low : CodePoint} {t : Text} :
      high ∈ upperHexDigits → low ∈ upperHexDigits → UrlClean t →
      UrlClean (percentSign :: high :: low :: t)

/-- The bytes that a text stands for in a URL, if its triples are whole and the rest is ASCII. -/
def percentBytes? : Text → Option (List UInt8)
  | [] => some []
  | c :: t =>
    if c = percentSign then
      match t with
      | high :: low :: t => do
        let h ← upperHexDigits.idxOf? high
        let l ← upperHexDigits.idxOf? low
        let bytes ← percentBytes? t
        return .ofNat (16 * h + l) :: bytes
      | _ => none
    else if c.val < 0x80 then (percentBytes? t).map (.ofNat c.val :: ·)
    else none

/-- A text as it is read from a URL. -/
def percentRead? (t : Text) : Option Text :=
  t.percentBytes?.bind fun bytes => (decodeUtf8 0 bytes).toOption

variable {t u : Text} {c : CodePoint}

/-! ## Kept characters -/

theorem lt_of_isUrlSafe (h : c.isUrlSafe = true) : c.val < 0x80 := by
  rw [CodePoint.isUrlSafe, Bool.or_eq_true] at h
  rcases h with hrange | hpunctuation
  · simp only [CodePoint.isAsciiAlphanumeric, CodePoint.inRanges, List.any_cons, List.any_nil,
      Bool.or_eq_true, Bool.and_eq_true, decide_eq_true_eq, Bool.or_false] at hrange
    omega
  · have hascii : ∀ c ∈ urlPunctuation, c.val < 0x80 := by decide
    exact hascii c (List.contains_iff_mem.mp hpunctuation)

theorem isUrlSafe_iff_mem_urlKept : c.isUrlSafe = true ↔ c ∈ urlKept := by
  have hascii : ∀ n : Fin 0x80, CodePoint.isUrlSafe ⟨n, by omega⟩ = true →
      (⟨n, by omega⟩ : CodePoint) ∈ urlKept := by decide +kernel
  have hkept : ∀ c ∈ urlKept, c.isUrlSafe = true := by decide +kernel
  exact ⟨fun h => hascii ⟨c.val, lt_of_isUrlSafe h⟩ h, hkept c⟩

theorem lt_of_mem_urlKept (h : c ∈ urlKept) : c.val < 0x80 :=
  lt_of_isUrlSafe (isUrlSafe_iff_mem_urlKept.mpr h)

/-! ## Triples -/

theorem idxOf?_upperHexDigit {n : Nat} (h : n < 16) :
    upperHexDigits.idxOf? (.ofChar (CodePoint.upperHexDigit n)) = some n := by
  have hdigits : ∀ n : Fin 16,
      upperHexDigits.idxOf? (.ofChar (CodePoint.upperHexDigit n)) = some n.val := by decide +kernel
  exact hdigits ⟨n, h⟩

theorem upperHexDigit_mem {n : Nat} (h : n < 16) :
    CodePoint.ofChar (CodePoint.upperHexDigit n) ∈ upperHexDigits := by
  rw [← List.isSome_idxOf?, idxOf?_upperHexDigit h]
  rfl

theorem UrlClean.percentByte_append (b : UInt8) (h : UrlClean t) :
    UrlClean (CodePoint.percentByte b ++ t) :=
  .triple (upperHexDigit_mem (Nat.div_lt_of_lt_mul b.toNat_lt))
    (upperHexDigit_mem (Nat.mod_lt _ (by decide))) h

theorem percentBytes?_percentByte_append (b : UInt8) (t : Text) :
    percentBytes? (CodePoint.percentByte b ++ t) = t.percentBytes?.map (b :: ·) := by
  have hhigh := idxOf?_upperHexDigit (Nat.div_lt_of_lt_mul b.toNat_lt : b.toNat / 16 < 16)
  have hlow := idxOf?_upperHexDigit (Nat.mod_lt b.toNat (by decide) : b.toNat % 16 < 16)
  have hbyte : UInt8.ofNat (16 * (b.toNat / 16) + b.toNat % 16) = b := by
    rw [Nat.div_add_mod, UInt8.ofNat_toNat]
  calc percentBytes? (CodePoint.percentByte b ++ t)
    _ = (do let h ← upperHexDigits.idxOf? (.ofChar (CodePoint.upperHexDigit (b.toNat / 16)))
            let l ← upperHexDigits.idxOf? (.ofChar (CodePoint.upperHexDigit (b.toNat % 16)))
            let bytes ← percentBytes? t
            return .ofNat (16 * h + l) :: bytes) := if_pos rfl
    _ = (do let bytes ← percentBytes? t
            return .ofNat (16 * (b.toNat / 16) + b.toNat % 16) :: bytes) := by
        rw [hhigh, hlow]
        rfl
    _ = t.percentBytes?.map (b :: ·) := by
        rw [hbyte]
        exact (Option.map_eq_bind ..).symm

/-! ## Code points -/

/-- A code point is written as itself and kept, or as the triples of its UTF-8 form. -/
theorem percentEncoded_cases (c : CodePoint) :
    c ∈ urlKept ∧ c.percentEncoded = [c] ∨
      c.percentEncoded = c.utf8.flatMap CodePoint.percentByte := by
  rw [CodePoint.percentEncoded]
  split
  · next h => exact .inl ⟨isUrlSafe_iff_mem_urlKept.mp h, rfl⟩
  · exact .inr rfl

theorem UrlClean.percentEncoded_append (c : CodePoint) (h : UrlClean t) :
    UrlClean (c.percentEncoded ++ t) := by
  rcases percentEncoded_cases c with ⟨hkept, heq⟩ | heq
  · rw [heq]
    exact .kept hkept h
  · rw [heq]
    induction c.utf8 with
    | nil => exact h
    | cons b bytes ih =>
        rw [List.flatMap_cons, List.append_assoc]
        exact ih.percentByte_append b

theorem percentBytes?_percentEncoded_append (c : CodePoint) (t : Text) :
    percentBytes? (c.percentEncoded ++ t) = t.percentBytes?.map (c.utf8 ++ ·) := by
  rcases percentEncoded_cases c with ⟨hkept, heq⟩ | heq
  · have hsign : c ≠ percentSign := by
      rintro rfl
      exact absurd (isUrlSafe_iff_mem_urlKept.mpr hkept) (by decide)
    have hascii := lt_of_mem_urlKept hkept
    rw [heq, List.singleton_append, percentBytes?.eq_def, CodePoint.utf8, if_pos hascii]
    exact (if_neg hsign).trans (if_pos hascii)
  · rw [heq]
    induction c.utf8 with
    | nil => simp
    | cons b bytes ih =>
        rw [List.flatMap_cons, List.append_assoc, percentBytes?_percentByte_append, ih,
          Option.map_map]
        rfl

/-! ## Texts -/

theorem percentEncoded_of_isScalar (h : t.IsScalar) :
    t.percentEncoded = .ok (t.flatMap CodePoint.percentEncoded) := by
  rw [percentEncoded, unencodable?_of_isScalar h]

theorem urlClean_flatMap (t : Text) : UrlClean (t.flatMap CodePoint.percentEncoded) := by
  induction t with
  | nil => exact .nil
  | cons c t ih => exact ih.percentEncoded_append c

theorem percentBytes?_flatMap (t : Text) :
    percentBytes? (t.flatMap CodePoint.percentEncoded) = some (t.flatMap CodePoint.utf8) := by
  induction t with
  | nil => rfl
  | cons c t ih =>
      rw [List.flatMap_cons, percentBytes?_percentEncoded_append, ih]
      rfl

theorem percentRead?_flatMap (h : t.IsScalar) :
    percentRead? (t.flatMap CodePoint.percentEncoded) = some t := by
  rw [percentRead?, percentBytes?_flatMap, Option.bind_some, decodeUtf8_flatMap_utf8 h]
  rfl

theorem flatMap_percentEncoded_of_kept (h : ∀ c ∈ t, c ∈ urlKept) :
    t.flatMap CodePoint.percentEncoded = t := by
  induction t with
  | nil => rfl
  | cons c t ih =>
      obtain ⟨hc, ht⟩ := List.forall_mem_cons.mp h
      rw [List.flatMap_cons, CodePoint.percentEncoded, if_pos (isUrlSafe_iff_mem_urlKept.mpr hc),
        ih ht]
      rfl

theorem isScalar_of_kept (h : ∀ c ∈ t, c ∈ urlKept) : t.IsScalar := by
  intro c hc
  have hlt := lt_of_mem_urlKept (h c hc)
  rw [CodePoint.isSurrogate, Bool.and_eq_false_iff, decide_eq_false_iff_not]
  exact .inl (by omega)

/-- A text with a surrogate is refused for its first run of them. -/
theorem percentEncoded_of_not_isScalar (h : ¬t.IsScalar) :
    ∃ (before : Text) (first : CodePoint) (run after : Text),
      t = before ++ (first :: run ++ after) ∧ before.IsScalar ∧
      (∀ c ∈ first :: run, c.isSurrogate = true) ∧
      (∀ c ∈ after.head?, c.isSurrogate = false) ∧
      t.percentEncoded =
        .error (.unencodable ⟨first, before.length, (first :: run).length⟩) := by
  have hne : t.dropWhile (!·.isSurrogate) ≠ [] := fun hnil =>
    h fun c hc => by simpa using List.dropWhile_eq_nil_iff.mp hnil c hc
  obtain ⟨first, rest, hdrop⟩ := List.exists_cons_of_ne_nil hne
  have hfirst : first.isSurrogate = true := by
    have hhead := List.head?_dropWhile_not (!·.isSurrogate) t
    simpa [hdrop] using hhead
  have hsplit := List.takeWhile_append_dropWhile (p := (!·.isSurrogate)) (l := t)
  refine ⟨t.takeWhile (!·.isSurrogate), first, rest.takeWhile (·.isSurrogate),
    rest.dropWhile (·.isSurrogate), ?_, ?_, ?_, ?_, ?_⟩
  · rw [List.cons_append, List.takeWhile_append_dropWhile, ← hdrop, hsplit]
  · intro c hc
    simpa using List.mem_takeWhile_imp hc
  · exact List.forall_mem_cons.mpr ⟨hfirst, fun c hc => List.mem_takeWhile_imp hc⟩
  · intro c hc
    have hhead := List.head?_dropWhile_not (·.isSurrogate) rest
    rw [Option.mem_def.mp hc] at hhead
    exact hhead
  · have hlength := congrArg List.length hsplit
    rw [List.length_append, hdrop] at hlength
    have hfault : t.unencodable? = some ⟨first, (t.takeWhile (!·.isSurrogate)).length,
        (first :: rest.takeWhile (·.isSurrogate)).length⟩ := by
      simp only [unencodable?, hdrop, List.head?_cons, Option.map_some, List.takeWhile_cons,
        hfirst, if_true, Option.some.injEq, Unencodable.mk.injEq, true_and, and_true]
      omega
    rw [percentEncoded, hfault]

/-- **Writing for a URL is reversible and clean.**  A text without surrogates is written in kept
characters and triples, from which it is read back, so different texts stay different; texts are
written piece by piece, the percent sign as its own triple, and what is kept as it is.  A text
with a surrogate is refused. -/
theorem percentEncoded_reversible (t u : Text) :
    (t.IsScalar → ∃ written, t.percentEncoded = .ok written ∧ written.UrlClean ∧
      written.percentRead? = some t) ∧
    (t.IsScalar → u.IsScalar → t.percentEncoded = u.percentEncoded → t = u) ∧
    (t.IsScalar → u.IsScalar → ∃ w v, t.percentEncoded = .ok w ∧ u.percentEncoded = .ok v ∧
      Text.percentEncoded (t ++ u) = .ok (w ++ v)) ∧
    Text.percentEncoded [percentSign] = .ok "%25" ∧
    ((∀ c ∈ t, c ∈ urlKept) → t.percentEncoded = .ok t) ∧
    (¬t.IsScalar → ∃ (before : Text) (first : CodePoint) (run after : Text),
      t = before ++ (first :: run ++ after) ∧ before.IsScalar ∧
      (∀ c ∈ first :: run, c.isSurrogate = true) ∧
      (∀ c ∈ after.head?, c.isSurrogate = false) ∧
      t.percentEncoded =
        .error (.unencodable ⟨first, before.length, (first :: run).length⟩)) := by
  refine ⟨fun ht => ?_, fun ht hu heq => ?_, fun ht hu => ?_, rfl, fun hkept => ?_,
    percentEncoded_of_not_isScalar⟩
  · exact ⟨_, percentEncoded_of_isScalar ht, urlClean_flatMap t, percentRead?_flatMap ht⟩
  · rw [percentEncoded_of_isScalar ht, percentEncoded_of_isScalar hu] at heq
    have hread := congrArg percentRead? (Except.ok.inj heq)
    rw [percentRead?_flatMap ht, percentRead?_flatMap hu] at hread
    exact Option.some.inj hread
  · refine ⟨_, _, percentEncoded_of_isScalar ht, percentEncoded_of_isScalar hu, ?_⟩
    rw [percentEncoded_of_isScalar (ht.append hu), List.flatMap_append]
  · rw [percentEncoded_of_isScalar (isScalar_of_kept hkept), flatMap_percentEncoded_of_kept hkept]

/-- Of code points of every length, with a percent sign among them; and of a surrogate. -/
theorem percentEncoded_reversible_lengths :
    (∃ written, Text.percentEncoded "a%é€😀" = .ok written ∧ written.UrlClean ∧
      written.percentRead? = some "a%é€😀") ∧
    ∃ (before : Text) (first : CodePoint) (run after : Text),
      [⟨0x61, by decide⟩, ⟨0xd800, by decide⟩] = before ++ (first :: run ++ after) ∧
      before.IsScalar ∧ (∀ c ∈ first :: run, c.isSurrogate = true) ∧
      (∀ c ∈ after.head?, c.isSurrogate = false) ∧
      Text.percentEncoded [⟨0x61, by decide⟩, ⟨0xd800, by decide⟩] =
        .error (.unencodable ⟨first, before.length, (first :: run).length⟩) :=
  ⟨(percentEncoded_reversible "a%é€😀" []).1 (isScalar_ofString _),
    (percentEncoded_reversible _ []).2.2.2.2.2 fun h =>
      absurd (h ⟨0xd800, by decide⟩ (by simp)) (by decide)⟩

/-- The bytes of each code point, and reading in which a digit is missing or a byte stands alone. -/
example : Text.percentEncoded "é€😀 %" = .ok "%C3%A9%E2%82%AC%F0%9F%98%80%20%25" ∧
    percentRead? "a%2" = none ∧ percentRead? "%C3" = none := by decide

end Text

end TagTemplate
