/-
# Two ways to number lines

A template numbers its lines by line feeds, and messages quote a line by its number in the text
cut at every boundary (`boundedLines`).  Each line of the template is one or more lines of those:

    lines            a            b <FF> c       d
    boundedLines     a            b      c       d

So a line with something in it is never beyond what can be quoted, and before the first line with
another boundary in it both numbers mean the same line (`exists_getElem?_boundedLines`); from
there on a piece of a line may be quoted, or a line further up.  Carriage returns play no part:
they are line feeds by the time lines are numbered.
-/
import TagTemplate.Proofs.Token.Lines

namespace TagTemplate.Text

variable {c : CodePoint} {line piece rest t : Text}

/-- No boundary is in the text. -/
def Unbroken (t : Text) : Prop := ∀ c ∈ t, isLineBoundary c = false

theorem boundedLinesAfter_cons (hc : c ≠ carriageReturn) (line rest : Text) :
    boundedLinesAfter line (c :: rest) =
      if isLineBoundary c then line.reverse :: boundedLinesAfter [] rest
      else boundedLinesAfter (c :: line) rest := by
  cases rest with
  | nil => cases line <;> rfl
  | cons d rest =>
      rw [boundedLinesAfter, if_neg (by simp [hc])]

/-- Cutting a line that is followed by a line feed: at least one line comes of it, and it alone if
it is unbroken. -/
theorem exists_boundedLinesAfter_append (hreturn : carriageReturn ∉ piece) (line rest : Text) :
    ∃ first more, boundedLinesAfter line (piece ++ lineFeed :: rest) =
        first :: more ++ boundedLines rest ∧
      (Unbroken piece → first = line.reverse ++ piece ∧ more = []) := by
  induction piece generalizing line with
  | nil =>
      refine ⟨line.reverse, [], ?_, fun _ => ⟨(List.append_nil _).symm, rfl⟩⟩
      rw [List.nil_append, boundedLinesAfter_cons (by decide), if_pos (by decide)]
      rfl
  | cons c piece ih =>
      obtain ⟨hc, hpiece⟩ := List.ne_and_not_mem_of_not_mem_cons hreturn
      rw [List.cons_append, boundedLinesAfter_cons (Ne.symm hc)]
      cases hboundary : isLineBoundary c with
      | true =>
          obtain ⟨first, more, heq, -⟩ := ih hpiece []
          refine ⟨line.reverse, first :: more, ?_, fun hunbroken => ?_⟩
          · rw [if_pos rfl, heq]
            rfl
          · exact absurd hboundary (by simp [hunbroken c List.mem_cons_self])
      | false =>
          obtain ⟨first, more, heq, hunbroken⟩ := ih hpiece (c :: line)
          refine ⟨first, more, heq, fun h => ?_⟩
          simpa using hunbroken fun d hd => h d (List.mem_cons_of_mem _ hd)

theorem exists_boundedLinesAfter (hreturn : carriageReturn ∉ piece) (line : Text)
    (hne : line ++ piece ≠ []) :
    ∃ first more, boundedLinesAfter line piece = first :: more ∧
      (Unbroken piece → first = line.reverse ++ piece) := by
  induction piece generalizing line with
  | nil =>
      obtain ⟨c, line, rfl⟩ := List.exists_cons_of_ne_nil (List.append_nil line ▸ hne)
      exact ⟨_, [], rfl, fun _ => (List.append_nil _).symm⟩
  | cons c piece ih =>
      obtain ⟨hc, hpiece⟩ := List.ne_and_not_mem_of_not_mem_cons hreturn
      rw [boundedLinesAfter_cons (Ne.symm hc)]
      cases hboundary : isLineBoundary c with
      | true =>
          refine ⟨_, _, if_pos rfl, fun hunbroken => ?_⟩
          exact absurd hboundary (by simp [hunbroken c List.mem_cons_self])
      | false =>
          obtain ⟨first, more, heq, hunbroken⟩ := ih hpiece (c :: line) (List.cons_ne_nil _ _)
          refine ⟨first, more, heq, fun h => ?_⟩
          simpa using hunbroken fun d hd => h d (List.mem_cons_of_mem _ hd)

/-- A line with something in it can be quoted by its number, and what is quoted is that line if it
and the lines before it are unbroken. -/
theorem exists_getElem?_boundedLines {n : Nat} (hreturn : carriageReturn ∉ t)
    (hline : t.lines[n]? = some line) (hne : line ≠ []) :
    ∃ quoted, t.boundedLines[n]? = some quoted ∧
      ((∀ l ∈ t.lines.take (n + 1), Unbroken l) → quoted = line) := by
  induction n generalizing t with
  | zero =>
      by_cases hfeed : lineFeed ∈ t
      · obtain ⟨first, rest, rfl, hfirst⟩ := List.eq_append_cons_of_mem hfeed
        rw [lines, splitOn_append_cons hfirst] at hline ⊢
        obtain rfl : first = line := Option.some.inj hline
        have hreturn : carriageReturn ∉ first := fun h => hreturn (List.mem_append_left _ h)
        obtain ⟨quoted, more, heq, hunbroken⟩ := exists_boundedLinesAfter_append hreturn [] rest
        exact ⟨quoted, by rw [boundedLines, heq]; rfl,
          fun h => (hunbroken (h first List.mem_cons_self)).1⟩
      · rw [lines, splitOn_of_not_mem hfeed] at hline ⊢
        obtain rfl : t = line := Option.some.inj hline
        obtain ⟨quoted, more, heq, hunbroken⟩ := exists_boundedLinesAfter hreturn [] hne
        exact ⟨quoted, by rw [boundedLines, heq]; rfl,
          fun h => hunbroken (h t List.mem_cons_self)⟩
  | succ n ih =>
      by_cases hfeed : lineFeed ∈ t
      · obtain ⟨first, rest, rfl, hfirst⟩ := List.eq_append_cons_of_mem hfeed
        rw [lines, splitOn_append_cons hfirst] at hline ⊢
        obtain ⟨hfirst, hrest⟩ := not_or.mp fun h => hreturn (List.mem_append.mpr h)
        obtain ⟨quoted, hquoted, heq⟩ := ih (List.not_mem_of_not_mem_cons hrest) hline
        obtain ⟨first', more, hcut, hunbroken⟩ := exists_boundedLinesAfter_append hfirst [] rest
        obtain ⟨hlt, -⟩ := List.getElem?_eq_some_iff.mp hquoted
        have hcount : n + 1 < (first' :: more ++ boundedLines rest).length := by
          rw [List.length_append, List.length_cons]
          omega
        rw [boundedLines, hcut]
        refine ⟨_, List.getElem?_eq_getElem hcount, fun h => ?_⟩
        obtain ⟨hhere, hothers⟩ := List.forall_mem_cons.mp h
        obtain ⟨-, rfl⟩ := hunbroken hhere
        exact (Option.some.inj ((List.getElem?_eq_getElem hlt).symm.trans hquoted)).trans
          (heq hothers)
      · rw [lines, splitOn_of_not_mem hfeed] at hline
        cases hline

end TagTemplate.Text
