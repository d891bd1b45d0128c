/-
# Quoted texts — what is between quotes can be read back

What is written for a code point between quotes is read like this:

    c          that code point, if c is no backslash
    \t \n \r   a control code
    \xHH       the code point of a number, of two, four or eight digits
    \c         any other code point c

So what is written for one code point tells where it ends, whatever comes next
(`readEscaped_escaped`).  The mark that a quoted text begins with is never the first of these, so
the end of the text is where the mark comes again.  Hence no two texts are quoted alike.

What is between quotes is printable, and so is on one line (`unbroken_quoted`).
-/
import Mathlib.Algebra.Group.Nat.Defs
import TagTemplate.Proofs.Text.Boundaries
import TagTemplate.Text.Quoted

namespace TagTemplate

namespace CodePoint

variable {c : CodePoint}

theorem isPrintable_eq_false {lo hi : Nat} (hrange : ∃ r ∈ unprintableRanges, r.1 ≤ lo ∧ hi ≤ r.2)
    (hc : 0x7f ≤ lo ∧ lo ≤ c.val ∧ c.val ≤ hi) : c.isPrintable = false := by
  obtain ⟨r, hr, hlo, hhi⟩ := hrange
  have hin : c.inRanges unprintableRanges = true :=
    List.any_eq_true.mpr ⟨r, hr, by simp only [Bool.and_eq_true, decide_eq_true_eq]; omega⟩
  rw [isPrintable, if_neg (by omega), hin]
  rfl

theorem isLineBoundary_of_isPrintable (h : c.isPrintable = true) :
    Text.isLineBoundary c = false := by
  rw [Bool.eq_false_iff]
  intro hc
  simp only [Text.isLineBoundary, inRanges, List.any_cons, List.any_nil, Bool.or_false,
    Bool.or_eq_true, Bool.and_eq_true, decide_eq_true_eq] at hc
  have hfalse : c.isPrintable = false := by
    rcases hc with hc | hc | hc | hc
    · rw [isPrintable, if_pos (by omega)]
      exact decide_eq_false (by omega)
    · rw [isPrintable, if_pos (by omega)]
      exact decide_eq_false (by omega)
    · exact @isPrintable_eq_false c 0x85 0x85 (by decide +kernel) (by omega)
    · exact @isPrintable_eq_false c 0x2028 0x2029 (by decide +kernel) (by omega)
  cases h.symm.trans hfalse

end CodePoint

namespace Text

variable {quote c : CodePoint} {t u rest : Text}

/-! ## Numbers in hexadecimal digits -/

def hexDigitValue (c : CodePoint) : Nat := if c.val < 0x3a then c.val - 0x30 else c.val - 0x57

/-- The number that is written in hexadecimal digits. -/
def hexValue (t : Text) : Nat := t.foldl (fun n c => 16 * n + hexDigitValue c) 0

theorem hexDigit_cases : ∀ n < 16, hexDigitValue (.ofChar (hexDigit n)) = n ∧
    (CodePoint.ofChar (hexDigit n)).isPrintable = true := by
  decide

theorem length_hex (width n : Nat) : (hex width n).length = width := by
  induction width generalizing n with
  | zero => rfl
  | succ width ih => rw [hex, List.length_append, ih, List.length_singleton]

theorem hexValue_hex (width : Nat) {n : Nat} (h : n < 16 ^ width) : hexValue (hex width n) = n := by
  induction width generalizing n with
  | zero => exact (Nat.lt_one_iff.mp h).symm
  | succ width ih =>
      have hvalue := ih (Nat.div_lt_of_lt_mul (by rwa [Nat.mul_comm, ← Nat.pow_succ]))
      rw [hexValue] at hvalue
      rw [hexValue, hex, List.foldl_append, hvalue, List.foldl_cons, List.foldl_nil,
        (hexDigit_cases _ (Nat.mod_lt n (by decide))).1]
      exact Nat.div_add_mod n 16

theorem isPrintable_of_mem_hex {width n : Nat} (h : c ∈ hex width n) : c.isPrintable = true := by
  induction width generalizing n with
  | zero => cases h
  | succ width ih =>
      rcases List.mem_append.mp h with h | h
      · exact ih h
      · rw [List.mem_singleton.mp h]
        exact (hexDigit_cases _ (Nat.mod_lt n (by decide))).2

/-! ## One code point -/

def backslash : CodePoint := .ofChar '\\'

/-- The control codes that have an escape of their own, each with its letter in front. -/
def letterEscapes : List (CodePoint × CodePoint) :=
  [(.ofChar 't', .ofChar '\t'), (.ofChar 'n', .ofChar '\n'), (.ofChar 'r', .ofChar '\r')]

/-- The letters that a number follows, each with its count of digits. -/
def numberEscapes : List (CodePoint × Nat) :=
  [(.ofChar 'x', 2), (.ofChar 'u', 4), (.ofChar 'U', 8)]

/-- Reads what is written for one code point. -/
def readEscaped : Text → Option (CodePoint × Text)
  | [] => none
  | c :: r =>
    if c ≠ backslash then some (c, r)
    else match r with
      | [] => none
      | d :: r =>
        match letterEscapes.lookup d, numberEscapes.lookup d with
        | some c, _ => some (c, r)
        | none, some width =>
          (CodePoint.ofNat? (hexValue (r.take width))).map fun c => (c, r.drop width)
        | none, none => some (d, r)

/-- The forms of what is written for a code point. -/
inductive EscapeForm (quote c : CodePoint) : Text → Prop
  | itself : c.isPrintable = true → c ≠ quote → c ≠ backslash → EscapeForm quote c [c]
  | mark : c = quote ∨ c = backslash → EscapeForm quote c [backslash, c]
  | letter {d : CodePoint} : (d, c) ∈ letterEscapes → EscapeForm quote c [backslash, d]
  | number {d : CodePoint} {width : Nat} : (d, width) ∈ numberEscapes → c.val < 16 ^ width →
      EscapeForm quote c (backslash :: d :: hex width c.val)

theorem escapeForm_hexEscape (quote c : CodePoint) : EscapeForm quote c (hexEscape c.val) := by
  have hlt := c.val_lt
  unfold hexEscape
  split
  · exact .number (d := .ofChar 'x') (by decide) (by omega)
  · split
    · exact .number (d := .ofChar 'u') (by decide) (by omega)
    · exact .number (d := .ofChar 'U') (by decide) (by omega)

theorem escapeForm_escaped (quote c : CodePoint) : EscapeForm quote c (escaped quote c) := by
  unfold escaped
  split
  · next h => exact .mark (by simpa [backslash] using h)
  · next h =>
      obtain ⟨hquote, hbackslash⟩ : c ≠ quote ∧ c ≠ backslash := by simpa [backslash] using h
      split
      · next h => exact h ▸ .letter (by decide)
      · split
        · next h => exact h ▸ .letter (by decide)
        · split
          · next h => exact h ▸ .letter (by decide)
          · split
            · next h => exact .itself h hquote hbackslash
            · exact escapeForm_hexEscape quote c

def IsMark (quote : CodePoint) : Prop := quote = .ofChar '\x27' ∨ quote = .ofChar '\x22'

theorem isMark_quoteFor (t : Text) : IsMark t.quoteFor := by
  unfold quoteFor
  split
  · exact .inr rfl
  · exact .inl rfl

/-- What is written for a code point is read as this code point, and no further. -/
theorem readEscaped_escaped (hquote : IsMark quote) (c : CodePoint) (rest : Text) :
    readEscaped (escaped quote c ++ rest) = some (c, rest) := by
  have hform := escapeForm_escaped quote c
  generalize escaped quote c = written at hform
  cases hform with
  | itself _ _ hc => exact if_pos hc
  | mark hc =>
      rcases hc with rfl | rfl
      · rcases hquote with rfl | rfl <;> rfl
      · rfl
  | letter hd =>
      simp only [letterEscapes, List.mem_cons, Prod.mk.injEq, List.not_mem_nil, or_false] at hd
      rcases hd with ⟨rfl, rfl⟩ | ⟨rfl, rfl⟩ | ⟨rfl, rfl⟩ <;> rfl
  | @number d width hd hc =>
      have hletter : letterEscapes.lookup d = none ∧ numberEscapes.lookup d = some width := by
        simp only [numberEscapes, List.mem_cons, Prod.mk.injEq, List.not_mem_nil, or_false] at hd
        rcases hd with ⟨rfl, rfl⟩ | ⟨rfl, rfl⟩ | ⟨rfl, rfl⟩ <;> decide
      have htake : (hex width c.val ++ rest).take width = hex width c.val :=
        List.take_left' (length_hex width c.val)
      have hdrop : (hex width c.val ++ rest).drop width = rest :=
        List.drop_left' (length_hex width c.val)
      simp only [List.cons_append, readEscaped, ne_eq, not_true_eq_false, if_false, hletter.1,
        hletter.2, htake, hdrop, hexValue_hex width hc, CodePoint.ofNat?, dif_pos c.val_lt,
        Option.map_some]

theorem escaped_append_ne (hquote : IsMark quote) (c : CodePoint) (t u : Text) :
    escaped quote c ++ t ≠ quote :: u := by
  have hne : backslash ≠ quote := by rcases hquote with rfl | rfl <;> decide
  have hform := escapeForm_escaped quote c
  generalize escaped quote c = written at hform
  intro heq
  cases hform with
  | itself _ hc _ => exact hc (List.cons.inj heq).1
  | _ => exact hne (List.cons.inj heq).1

theorem isPrintable_of_mem_escaped (hquote : IsMark quote) {d : CodePoint}
    (h : d ∈ escaped quote c) : d.isPrintable = true := by
  have hform := escapeForm_escaped quote c
  generalize escaped quote c = written at hform h
  have hback : backslash.isPrintable = true := by decide
  cases hform with
  | itself hc _ _ => exact List.mem_singleton.mp h ▸ hc
  | mark hc =>
      have hc : c.isPrintable = true := by
        rcases hc with rfl | rfl
        · rcases hquote with rfl | rfl <;> decide
        · exact hback
      rcases List.mem_cons.mp h with rfl | h
      · exact hback
      · exact List.mem_singleton.mp h ▸ hc
  | letter hd =>
      have hletters : ∀ entry ∈ letterEscapes, entry.1.isPrintable = true := by decide
      rcases List.mem_cons.mp h with rfl | h
      · exact hback
      · exact List.mem_singleton.mp h ▸ hletters _ hd
  | number hd _ =>
      have hletters : ∀ entry ∈ numberEscapes, entry.1.isPrintable = true := by decide
      rcases List.mem_cons.mp h with rfl | h
      · exact hback
      rcases List.mem_cons.mp h with rfl | h
      · exact hletters _ hd
      · exact isPrintable_of_mem_hex h

/-! ## Whole texts -/

/-- What is written between two marks tells where the second one is, and what it is written for. -/
theorem flatMap_escaped_inj (hquote : IsMark quote) {rest' : Text} :
    t.flatMap (escaped quote) ++ quote :: rest = u.flatMap (escaped quote) ++ quote :: rest' →
      t = u := by
  induction t generalizing u with
  | nil =>
      intro heq
      cases u with
      | nil => rfl
      | cons d u =>
          rw [List.flatMap_cons, List.append_assoc] at heq
          exact absurd heq.symm (escaped_append_ne hquote d _ _)
  | cons c t ih =>
      intro heq
      rw [List.flatMap_cons, List.append_assoc] at heq
      cases u with
      | nil => exact absurd heq (escaped_append_ne hquote c _ _)
      | cons d u =>
          rw [List.flatMap_cons, List.append_assoc] at heq
          have hread := congrArg readEscaped heq
          rw [readEscaped_escaped hquote, readEscaped_escaped hquote, Option.some.injEq,
            Prod.mk.injEq] at hread
          rw [hread.1, ih hread.2]

theorem quoted_injective : Function.Injective Text.quoted := by
  intro t u heq
  obtain ⟨hquote, hbody⟩ := List.cons.inj heq
  rw [← hquote] at hbody
  exact flatMap_escaped_inj (isMark_quoteFor t) hbody

theorem isPrintable_of_mem_quoted (h : c ∈ t.quoted) : c.isPrintable = true := by
  have hmark : t.quoteFor.isPrintable = true := by
    rcases isMark_quoteFor t with h | h <;> rw [h] <;> decide
  rcases List.mem_cons.mp h with rfl | h
  · exact hmark
  rcases List.mem_append.mp h with h | h
  · obtain ⟨d, -, h⟩ := List.mem_flatMap.mp h
    exact isPrintable_of_mem_escaped (isMark_quoteFor t) h
  · exact List.mem_singleton.mp h ▸ hmark

theorem unbroken_quoted (t : Text) : Unbroken t.quoted :=
  fun _ hc => CodePoint.isLineBoundary_of_isPrintable (isPrintable_of_mem_quoted hc)

/-- Both marks, a backslash and a control code in one text. -/
example : Text.quoted "it's \"a\\b\"\n" = "'it\\'s \"a\\\\b\"\\n'" := by decide

end Text

end TagTemplate
