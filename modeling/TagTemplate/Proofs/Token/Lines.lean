/-
# The lines of a template, put together

Cutting a text at its line feeds loses nothing: the lines with a line feed between each
two are the text (`join_splitOn`), and no line has a line feed in it.  A text without line
feeds is its only line, and one without carriage returns is as it was once they have
been turned into line feeds.

Two texts with a line feed between them have the lines of both (`splitOn_append_sep`).
Carriage returns are turned into line feeds text by text as well, unless one ends the
first text and a line feed begins the second (`normalizeNewlines_append`).
-/
import TagTemplate.Text.Lines

namespace TagTemplate.Text

variable {sep : CodePoint} {t piece a b : Text} {ts : List Text}

theorem splitOn_cons_self (sep : CodePoint) (t : Text) :
    splitOn sep (sep :: t) = [] :: splitOn sep t := if_pos rfl

theorem exists_splitOn_cons (sep : CodePoint) (t : Text) :
    ∃ first rest, splitOn sep t = first :: rest ∧
      ∀ c ≠ sep, splitOn sep (c :: t) = (c :: first) :: rest := by
  have hne : splitOn sep t ≠ [] := by
    cases t with
    | nil => exact List.cons_ne_nil _ _
    | cons c t =>
        show (if c = sep then [] :: splitOn sep t else _) ≠ []
        split
        · exact List.cons_ne_nil _ _
        · split <;> exact List.cons_ne_nil _ _
  obtain ⟨first, rest, heq⟩ := List.exists_cons_of_ne_nil hne
  refine ⟨first, rest, heq, fun c hc => ?_⟩
  unfold splitOn at heq ⊢
  rw [List.foldr_cons, if_neg hc, heq]

theorem join_cons (sep t : Text) (ts : List Text) :
    join sep (t :: ts) = t ++ ts.flatMap (sep ++ ·) := by
  induction ts generalizing t with
  | nil => exact (List.append_nil t).symm
  | cons u ts ih =>
      show t ++ sep ++ join sep (u :: ts) = _
      rw [ih, List.flatMap_cons, List.append_assoc, List.append_assoc]

theorem join_splitOn_eq_flatMap (other : Text) (sep : CodePoint) (t : Text) :
    join other (splitOn sep t) = t.flatMap fun c => if c = sep then other else [c] := by
  induction t with
  | nil => rfl
  | cons c t ih =>
      obtain ⟨first, rest, heq, hcons⟩ := exists_splitOn_cons sep t
      rw [heq, join_cons] at ih
      rw [List.flatMap_cons, ← ih]
      by_cases hc : c = sep
      · rw [if_pos hc, hc, splitOn_cons_self, heq, join_cons, List.flatMap_cons, List.append_assoc]
        rfl
      · rw [if_neg hc, hcons c hc, join_cons]
        rfl

theorem join_splitOn (sep : CodePoint) (t : Text) : join [sep] (splitOn sep t) = t := by
  have hone : (fun c => if c = sep then [sep] else [c]) = fun c => [c] := by
    funext c
    split <;> simp [*]
  rw [join_splitOn_eq_flatMap, hone, List.flatMap_singleton']

theorem join_nil_splitOn (sep : CodePoint) (t : Text) :
    join [] (splitOn sep t) = t.filter (· != sep) := by
  rw [join_splitOn_eq_flatMap]
  induction t with
  | nil => rfl
  | cons c t ih =>
      rw [List.flatMap_cons, ih]
      by_cases hc : c = sep <;> simp [hc]

theorem not_mem_of_mem_splitOn (h : piece ∈ splitOn sep t) : sep ∉ piece := by
  induction t generalizing piece with
  | nil =>
      obtain rfl := List.mem_singleton.mp h
      exact List.not_mem_nil
  | cons c t ih =>
      by_cases hc : c = sep
      · rw [hc, splitOn_cons_self, List.mem_cons] at h
        rcases h with rfl | h
        · exact List.not_mem_nil
        · exact ih h
      · obtain ⟨first, rest, heq, hcons⟩ := exists_splitOn_cons sep t
        rw [hcons c hc, List.mem_cons] at h
        rcases h with rfl | h
        · exact fun hmem => (List.mem_cons.mp hmem).elim (fun h => hc h.symm)
            (ih (heq ▸ List.mem_cons_self))
        · exact ih (heq ▸ List.mem_cons_of_mem _ h)

theorem splitOn_of_not_mem (h : sep ∉ t) : splitOn sep t = [t] := by
  induction t with
  | nil => rfl
  | cons c t ih =>
      obtain ⟨hc, ht⟩ := not_or.mp fun hmem => h (List.mem_cons.mpr hmem)
      obtain ⟨first, rest, heq, hcons⟩ := exists_splitOn_cons sep t
      rw [ih ht] at heq
      cases heq
      exact hcons c (Ne.symm hc)

theorem splitOn_append_sep (sep : CodePoint) (a b : Text) :
    splitOn sep (a ++ sep :: b) = splitOn sep a ++ splitOn sep b := by
  induction a with
  | nil => exact splitOn_cons_self sep b
  | cons c a ih =>
      by_cases hc : c = sep
      · rw [hc, List.cons_append, splitOn_cons_self, splitOn_cons_self, ih, List.cons_append]
      · obtain ⟨first, rest, heq, hcons⟩ := exists_splitOn_cons sep a
        obtain ⟨first', rest', heq', hcons'⟩ := exists_splitOn_cons sep (a ++ sep :: b)
        rw [ih, heq, List.cons_append, List.cons.injEq] at heq'
        obtain ⟨rfl, rfl⟩ := heq'
        rw [List.cons_append, hcons c hc, hcons' c hc, List.cons_append]

theorem splitOn_append_cons (h : sep ∉ piece) (t : Text) :
    splitOn sep (piece ++ sep :: t) = piece :: splitOn sep t := by
  rw [splitOn_append_sep, splitOn_of_not_mem h, List.singleton_append]

theorem splitOn_join (hne : ts ≠ []) (h : ∀ t ∈ ts, sep ∉ t) :
    splitOn sep (join [sep] ts) = ts := by
  induction ts with
  | nil => exact absurd rfl hne
  | cons t ts ih =>
      have ht : sep ∉ t := h t List.mem_cons_self
      cases ts with
      | nil => exact splitOn_of_not_mem ht
      | cons u ts =>
          have hrest := ih (List.cons_ne_nil _ _) fun v hv => h v (List.mem_cons_of_mem _ hv)
          show splitOn sep (t ++ [sep] ++ join [sep] (u :: ts)) = _
          rw [List.append_assoc, List.singleton_append, splitOn_append_cons ht, hrest]

theorem mem_join {c : CodePoint} (hc : c ≠ sep) : c ∈ join [sep] ts ↔ ∃ t ∈ ts, c ∈ t := by
  cases ts with
  | nil => simp [join]
  | cons t ts =>
      rw [join_cons]
      simp [hc]

theorem mem_of_mem_splitOn {c : CodePoint} (h : piece ∈ splitOn sep t) (hc : c ∈ piece) :
    c ∈ t := by
  have hne : c ≠ sep := fun heq => not_mem_of_mem_splitOn h (heq ▸ hc)
  rw [← join_splitOn sep t]
  exact (mem_join hne).mpr ⟨piece, h, hc⟩

/-! ## Line breaks -/

theorem carriageReturn_not_mem_normalizeNewlines : ∀ t, carriageReturn ∉ normalizeNewlines t
  | [] => List.not_mem_nil
  | [c] => by
      rw [normalizeNewlines]
      split
      · decide
      · next hc => exact fun h => hc (List.mem_singleton.mp h).symm
  | c :: d :: r => by
      rw [normalizeNewlines]
      have hfeed : carriageReturn ≠ lineFeed := by decide
      split
      · split
        · exact List.not_mem_cons_of_ne_of_not_mem hfeed
            (carriageReturn_not_mem_normalizeNewlines r)
        · exact List.not_mem_cons_of_ne_of_not_mem hfeed
            (carriageReturn_not_mem_normalizeNewlines (d :: r))
      · next hc =>
          exact List.not_mem_cons_of_ne_of_not_mem (Ne.symm hc)
            (carriageReturn_not_mem_normalizeNewlines (d :: r))

theorem normalizeNewlines_of_not_mem : ∀ {t}, carriageReturn ∉ t → normalizeNewlines t = t
  | [], _ => rfl
  | [c], h => by
      refine if_neg ?_
      rintro rfl
      exact h List.mem_cons_self
  | c :: d :: r, h => by
      obtain ⟨hc, hr⟩ := not_or.mp fun hmem => h (List.mem_cons.mpr hmem)
      rw [normalizeNewlines, if_neg (Ne.symm hc), normalizeNewlines_of_not_mem hr]

theorem normalizeNewlines_cons {c : CodePoint} (h : c ≠ carriageReturn) (t : Text) :
    normalizeNewlines (c :: t) = c :: normalizeNewlines t := by
  cases t with
  | nil => exact if_neg h
  | cons d r => rw [normalizeNewlines, if_neg h]

theorem normalizeNewlines_returnFeed (t : Text) :
    normalizeNewlines (carriageReturn :: lineFeed :: t) = lineFeed :: normalizeNewlines t := by
  rw [normalizeNewlines, if_pos rfl, if_pos rfl]

theorem normalizeNewlines_return (h : t.head? ≠ some lineFeed) :
    normalizeNewlines (carriageReturn :: t) = lineFeed :: normalizeNewlines t := by
  cases t with
  | nil => rfl
  | cons d r =>
      rw [normalizeNewlines, if_pos rfl, if_neg fun hd => h (congrArg some hd)]

/-- Texts are normalized one by one, unless a line break lies across the seam. -/
theorem normalizeNewlines_append :
    ∀ {a : Text}, (a.getLast? = some carriageReturn → b.head? ≠ some lineFeed) →
      normalizeNewlines (a ++ b) = normalizeNewlines a ++ normalizeNewlines b
  | [], _ => rfl
  | [c], h => by
      by_cases hc : c = carriageReturn
      · subst hc
        exact normalizeNewlines_return (h rfl)
      · rw [List.singleton_append, normalizeNewlines_cons hc, normalizeNewlines, if_neg hc]
        rfl
  | c :: d :: r, h => by
      have htail : (d :: r).getLast? = some carriageReturn → b.head? ≠ some lineFeed :=
        fun hlast => h (by rwa [List.getLast?_cons_cons])
      by_cases hc : c = carriageReturn
      · subst hc
        by_cases hd : d = lineFeed
        · subst hd
          have hrest : r.getLast? = some carriageReturn → b.head? ≠ some lineFeed := by
            intro hlast
            refine htail ?_
            cases r with
            | nil => cases hlast
            | cons e r => rwa [List.getLast?_cons_cons]
          simp only [List.cons_append, normalizeNewlines_returnFeed, normalizeNewlines_append hrest]
        · have hd' : ∀ t : Text, (d :: t).head? ≠ some lineFeed :=
            fun t heq => hd (Option.some.inj heq)
          rw [List.cons_append, List.cons_append, normalizeNewlines_return (hd' _),
            normalizeNewlines_return (hd' _), ← List.cons_append, normalizeNewlines_append htail]
          rfl
      · rw [List.cons_append, normalizeNewlines_cons hc, normalizeNewlines_cons hc,
          normalizeNewlines_append htail]
        rfl

end TagTemplate.Text
