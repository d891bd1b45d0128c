/-
# The tags of a line

An occurrence is a place of a line where a tag is written: where it starts, where it
stops and which tag it is.  The grammar alone says which occurrences a line has, by
cutting the line in three.

    two occurrences    never start at one place, never overlap
    the pieces         list the occurrences, all of them, from left to right

Both rest on two facts: a text begins with one tag at most (`WrittenAs.unique`), and a
tag has no bracket but its first.  So no occurrence starts inside another, and a tag
that is taken hides none.  A line is empty, begins with a code point where no tag is, or
begins with a tag; whatever is true of the pieces of lines is shown along these cases
(`Piece.ofLine_induction`).
-/
import TagTemplate.Proofs.Tag.Reading
import TagTemplate.Token.Source

namespace TagTemplate

/-- A tag somewhere in a line. -/
structure Occurrence where
  /-- The column of its first code point. -/
  start : Nat
  /-- The column after its last code point. -/
  stop : Nat
  tag : Tag
deriving DecidableEq

namespace Occurrence

/-- The tag is written there, in a line whose first code point has the column given. -/
def From (column : Nat) (line : Text) (o : Occurrence) : Prop :=
  ∃ before lexeme after : Text, line = before ++ (lexeme ++ after) ∧
    o.start = column + before.length ∧ o.stop = o.start + lexeme.length ∧ o.tag.WrittenAs lexeme

def In (o : Occurrence) (line : Text) : Prop := From 0 line o

variable {column : Nat} {c : CodePoint} {r : Text} {o : Occurrence}

theorem not_from_nil : ¬ From column [] o := by
  rintro ⟨before, lexeme, after, heq, -, -, hwritten⟩
  obtain ⟨r, rfl, -⟩ := hwritten.beginsOnce
  cases before <;> cases heq

theorem from_cons : From column (c :: r) o ↔
    (Tag.atStart? (c :: r)).map (fun read => ⟨column, column + read.2, read.1⟩) = some o ∨
      From (column + 1) r o := by
  rw [Option.map_eq_some_iff]
  constructor
  · rintro ⟨before, lexeme, after, heq, hstart, hstop, hwritten⟩
    cases before with
    | nil =>
        refine .inl ⟨(o.tag, lexeme.length), Tag.atStart?_eq_some.mpr ?_, ?_⟩
        · exact ⟨lexeme, after, heq, hwritten, rfl⟩
        · obtain ⟨start, stop, tag⟩ := o
          simp only [List.length_nil, Nat.add_zero] at hstart hstop
          subst hstop hstart
          rfl
    | cons d before =>
        obtain ⟨rfl, rfl⟩ := List.cons.inj heq
        refine .inr ⟨before, lexeme, after, rfl, ?_, hstop, hwritten⟩
        rw [hstart, List.length_cons]
        omega
  · rintro (⟨⟨tag, length⟩, hread, rfl⟩ | ⟨before, lexeme, after, rfl, hstart, hstop, hwritten⟩)
    · obtain ⟨lexeme, rest, heq, hwritten, rfl⟩ := Tag.atStart?_eq_some.mp hread
      exact ⟨[], lexeme, rest, heq, rfl, rfl, hwritten⟩
    · refine ⟨c :: before, lexeme, after, rfl, ?_, hstop, hwritten⟩
      rw [hstart, List.length_cons]
      omega

theorem from_append {skipped : Text} (h : Tag.bracket ∉ skipped) :
    From column (skipped ++ r) o ↔ From (column + skipped.length) r o := by
  induction skipped generalizing column with
  | nil => rfl
  | cons c skipped ih =>
      obtain ⟨hc, h⟩ := not_or.mp fun hmem => h (List.mem_cons.mpr hmem)
      rw [List.cons_append, from_cons, Tag.atStart?_eq_none (Ne.symm hc), ih h, List.length_cons,
        Nat.add_assoc, Nat.add_comm 1]
      simp

/-- The occurrences of a line that begins with a tag: the tag, and those of the rest. -/
theorem from_append_of_writtenAs {tag : Tag} {lexeme : Text} (h : tag.WrittenAs lexeme) :
    From column (lexeme ++ r) o ↔
      o = ⟨column, column + lexeme.length, tag⟩ ∨ From (column + lexeme.length) r o := by
  have hread : Tag.atStart? (lexeme ++ r) = some (tag, lexeme.length) :=
    Tag.atStart?_eq_some.mpr ⟨lexeme, r, rfl, h, rfl⟩
  obtain ⟨tail, rfl, htail⟩ := h.beginsOnce
  rw [List.cons_append] at hread ⊢
  rw [from_cons, hread, from_append htail, List.length_cons, Nat.add_assoc, Nat.add_comm 1,
    Option.map_some, Option.some.injEq, eq_comm]

theorem From.start_lt_stop {line : Text} (h : From column line o) : o.start < o.stop := by
  obtain ⟨before, lexeme, after, -, -, hstop, hwritten⟩ := h
  obtain ⟨r, rfl, -⟩ := hwritten.beginsOnce
  rw [hstop, List.length_cons]
  omega

/-- Two occurrences that start at one place are the same. -/
theorem In.eq_of_start_eq {line : Text} {o o' : Occurrence} (h : o.In line) (h' : o'.In line)
    (hstart : o.start = o'.start) : o = o' := by
  obtain ⟨before, lexeme, after, rfl, hs, hstop, hwritten⟩ := h
  obtain ⟨before', lexeme', after', heq, hs', hstop', hwritten'⟩ := h'
  have hlength : before.length = before'.length := by omega
  obtain ⟨rfl, hrest⟩ := List.append_inj heq hlength
  obtain ⟨htag, rfl⟩ := hwritten.unique hwritten' hrest
  obtain ⟨start, stop, tag⟩ := o
  obtain ⟨start', stop', tag'⟩ := o'
  simp only at hstart hstop hstop' htag
  subst hstart hstop hstop' htag
  rfl

/-- An occurrence that starts after another one starts not before it stops. -/
theorem In.stop_le_start {line : Text} {o o' : Occurrence} (h : o.In line) (h' : o'.In line)
    (hstart : o.start < o'.start) : o.stop ≤ o'.start := by
  obtain ⟨before, lexeme, after, rfl, hs, hstop, hwritten⟩ := h
  obtain ⟨before', lexeme', after', heq, hs', -, hwritten'⟩ := h'
  obtain ⟨r, rfl, hbracket⟩ := hwritten.beginsOnce
  obtain ⟨r', rfl, -⟩ := hwritten'.beginsOnce
  refine Nat.le_of_not_lt fun hlt => ?_
  -- The bracket that the second begins with would be inside the first.
  have hinside : before'.length - before.length - 1 < r.length := by
    rw [List.length_cons] at hstop
    omega
  refine hbracket (List.mem_of_getElem? (i := before'.length - before.length - 1) ?_)
  have hat := congrArg (·[before'.length]?) heq
  simp only [List.getElem?_append_right (Nat.le_refl _), Nat.sub_self, List.cons_append,
    List.getElem?_cons_zero] at hat
  rw [List.getElem?_append_right (by omega), List.getElem?_cons,
    if_neg (by omega), List.getElem?_append_left hinside] at hat
  exact hat

end Occurrence

namespace Piece

open Tag Occurrence

/-- The tags among pieces, the first of which is at the column given. -/
def occurrences : (column : Nat) → List Piece → List Occurrence
  | _, [] => []
  | column, literal text :: ps => occurrences (column + text.length) ps
  | column, tag lexeme found :: ps =>
    ⟨column, column + lexeme.length, found⟩ :: occurrences (column + lexeme.length) ps

theorem occurrences_consLiteral {c : CodePoint} (column : Nat) (ps : List Piece) :
    occurrences column (consLiteral c ps) = occurrences (column + 1) ps := by
  unfold consLiteral
  split
  · simp only [occurrences, List.length_cons]
    rw [Nat.add_assoc, Nat.add_comm 1]
  · rfl

theorem pairwise_occurrences (ps : List Piece) : ∀ column,
    (∀ o ∈ occurrences column ps, column ≤ o.start ∧ o.start ≤ o.stop) ∧
      (occurrences column ps).Pairwise fun o o' => o.stop ≤ o'.start := by
  induction ps with
  | nil => exact fun column => ⟨by simp [occurrences], .nil⟩
  | cons p ps ih =>
      intro column
      cases p with
      | literal text =>
          obtain ⟨hstart, hpairwise⟩ := ih (column + text.length)
          refine ⟨fun o ho => ?_, hpairwise⟩
          have := hstart o ho
          omega
      | tag lexeme found =>
          obtain ⟨hstart, hpairwise⟩ := ih (column + lexeme.length)
          refine ⟨fun o ho => ?_, List.pairwise_cons.mpr ⟨fun o ho => (hstart o ho).1, hpairwise⟩⟩
          rcases List.mem_cons.mp ho with rfl | ho
          · exact ⟨Nat.le_refl _, Nat.le_add_right _ _⟩
          · have := hstart o ho
            omega

theorem ofLineFrom_append (skipped rest : Text) :
    ofLineFrom skipped.length (skipped ++ rest) = ofLine rest := by
  induction skipped with
  | nil => rfl
  | cons c skipped ih => exact ih

theorem ofLine_cons {c : CodePoint} {r : Text} (h : atStart? (c :: r) = none) :
    ofLine (c :: r) = consLiteral c (ofLine r) := by
  rw [ofLine, ofLineFrom, h]
  rfl

theorem ofLine_append {found : Tag} {lexeme rest : Text} (h : found.WrittenAs lexeme) :
    ofLine (lexeme ++ rest) = tag lexeme found :: ofLine rest := by
  have hread : atStart? (lexeme ++ rest) = some (found, lexeme.length) :=
    atStart?_eq_some.mpr ⟨lexeme, rest, rfl, h, rfl⟩
  obtain ⟨tail, rfl, -⟩ := h.beginsOnce
  rw [List.cons_append] at hread ⊢
  rw [ofLine, ofLineFrom, hread, List.length_cons, ← List.cons_append, ← List.length_cons]
  show tag ((_ :: tail ++ rest).take _) found :: ofLineFrom tail.length (tail ++ rest) = _
  rw [List.take_left, ofLineFrom_append]

/-- A line is empty, or begins where no tag is, or begins with a tag. -/
theorem ofLine_induction {motive : Text → List Piece → Prop} (nil : motive [] [])
    (literal : ∀ c r, atStart? (c :: r) = none → motive r (ofLine r) →
      motive (c :: r) (consLiteral c (ofLine r)))
    (tag : ∀ found lexeme rest, WrittenAs found lexeme → motive rest (ofLine rest) →
      motive (lexeme ++ rest) (.tag lexeme found :: ofLine rest)) :
    ∀ line, motive line (ofLine line)
  | [] => nil
  | c :: r => by
      cases hread : atStart? (c :: r) with
      | none =>
          rw [ofLine_cons hread]
          exact literal c r hread (ofLine_induction nil literal tag r)
      | some read =>
          obtain ⟨lexeme, rest, heq, hwritten, -⟩ := atStart?_eq_some.mp hread
          have hshorter : rest.length < r.length + 1 := by
            obtain ⟨tail, rfl, -⟩ := hwritten.beginsOnce
            rw [← List.length_cons, heq, List.length_append, List.length_cons]
            omega
          rw [heq, ofLine_append hwritten]
          exact tag _ _ _ hwritten (ofLine_induction nil literal tag rest)
termination_by line => line.length

/-- The tags among the pieces of a line are its occurrences. -/
theorem mem_occurrences_ofLine {o : Occurrence} (line : Text) :
    ∀ {column}, o ∈ occurrences column (ofLine line) ↔ From column line o := by
  induction line using ofLine_induction with
  | nil => exact ⟨fun h => absurd h List.not_mem_nil, fun h => absurd h not_from_nil⟩
  | literal c r hread ih =>
      intro column
      rw [occurrences_consLiteral, ih, from_cons, hread]
      simp
  | tag found lexeme rest hwritten ih =>
      intro column
      rw [from_append_of_writtenAs hwritten, occurrences, List.mem_cons, ih]

/-- Recognition is unambiguous, exact and complete: at one column of a line one tag at most is
written, with one end; no two occurrences overlap; and the pieces of the line have the tags of
all its occurrences, from left to right. -/
theorem occurrences_ofLine (line : Text) :
    (∀ o o' : Occurrence, o.In line → o'.In line → o.start = o'.start → o = o') ∧
      (∀ o o' : Occurrence, o.In line → o'.In line → o.start < o'.start → o.stop ≤ o'.start) ∧
      (occurrences 0 (ofLine line)).Pairwise (fun o o' => o.start < o.stop ∧ o.stop ≤ o'.start) ∧
      ∀ o, o ∈ occurrences 0 (ofLine line) ↔ o.In line := by
  refine ⟨fun o o' => In.eq_of_start_eq, fun o o' => In.stop_le_start, ?_, fun o => ?_⟩
  · refine (pairwise_occurrences (ofLine line) 0).2.imp_of_mem fun ho _ hstop => ⟨?_, hstop⟩
    exact From.start_lt_stop ((mem_occurrences_ofLine line).mp ho)
  · exact mem_occurrences_ofLine line

-- The name may run into the word `escape`, and may be `name` or `escape`.
example : occurrences 0 (ofLine "a<tmpl_var xescape=html><tmpl_if escape>") =
    [⟨1, 24, .named "var" "x" (some "html")⟩, ⟨24, 40, .named "if" "escape" none⟩] := by
  decide +kernel

end Piece

end TagTemplate
