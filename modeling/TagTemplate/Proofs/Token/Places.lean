/-
# Where tags stand

A tag stands in a line of its template, and its token has the place of its first character: the
number of the line, counted from one, and how many characters of the line are before it.

    a line               before  ++  <tmpl_…>  ++  after
    the place of its tag         ( n ,  before.length )

A slice stands where the slices before it end (`Fill.exists_append`), so the token of a tag of
the template has the place of that tag (`standsIn_of_mem`).
-/
import TagTemplate.Proofs.Token.Tiling

namespace TagTemplate

namespace Slice

variable {keepNewlines : Bool} {number column : Nat} {slices : List Slice} {line : Text}
  {lines : List Text} {s : Slice}

theorem Fill.exists_append (h : Fill number column slices line) (hs : s ∈ slices) :
    ∃ before after, line = before ++ s.text ++ after ∧
      s.token.position = ⟨number, ↑(column + before.length)⟩ := by
  induction h with
  | nil => cases hs
  | @text column value rest slices _ _ _ ih =>
      rcases List.mem_cons.mp hs with rfl | hs
      · exact ⟨[], rest, rfl, rfl⟩
      · obtain ⟨before, after, rfl, hposition⟩ := ih hs
        refine ⟨value ++ before, after, by simp, ?_⟩
        rw [hposition, List.length_append, Nat.add_assoc]
  | @tag column lexeme rest tag content mode slices _ _ _ _ ih =>
      rcases List.mem_cons.mp hs with rfl | hs
      · exact ⟨[], rest, rfl, rfl⟩
      · obtain ⟨before, after, rfl, hposition⟩ := ih hs
        refine ⟨lexeme ++ before, after, by simp, ?_⟩
        rw [hposition, List.length_append, Nat.add_assoc]

/-- A slice that is not literal text lies in the line that its token is numbered by. -/
theorem Covers.exists_append (h : Covers keepNewlines number slices lines) (hs : s ∈ slices)
    (htext : ∀ value, s.token.content ≠ .text value) :
    ∃ (i : Nat) (before after : Text), lines[i]? = some (before ++ s.text ++ after) ∧
      s.token.position = ⟨↑(number + i), ↑before.length⟩ := by
  induction h with
  | nil => cases hs
  | @cons number row slices line lines _ hrow _ ih =>
      rw [List.mem_append, List.mem_append] at hs
      rcases hs with (hs | hs) | hs
      · rw [breakBefore] at hs
        split at hs
        · obtain rfl := List.mem_singleton.mp hs
          exact absurd rfl (htext _)
        · cases hs
      · obtain ⟨before, after, rfl, hposition⟩ := hrow.exists_append hs
        exact ⟨0, before, after, rfl, by simpa using hposition⟩
      · obtain ⟨i, before, after, hline, hposition⟩ := ih hs
        refine ⟨i + 1, before, after, hline, ?_⟩
        rw [hposition, Nat.add_assoc, Nat.add_comm 1 i]

end Slice

namespace Token

/-- The token is a tag of the text: its place is that of the bracket which the tag begins with. -/
def StandsIn (t : Token) (text : Text) : Prop :=
  ∃ (n : Nat) (before rest after : Text) (tag : Tag),
    text.lines[n]? = some (before ++ Tag.bracket :: rest ++ after) ∧
    tag.WrittenAs (Tag.bracket :: rest) ∧ t.content.Carries tag ∧
    t.position = ⟨↑(n + 1), ↑before.length⟩

theorem standsIn_of_mem {keepNewlines : Bool} {source : Text} {tokens : List Token} {t : Token}
    (h : ofSource keepNewlines source = .ok tokens) (ht : t ∈ tokens)
    (htext : ∀ value, t.content ≠ .text value) : t.StandsIn source.normalizeNewlines := by
  obtain ⟨slices, rfl, hcovers⟩ := exists_covers h fun _ => Text.not_mem_of_mem_splitOn
  obtain ⟨s, hs, rfl⟩ := List.mem_map.mp ht
  obtain ⟨n, before, after, hline, hposition⟩ := hcovers.exists_append hs htext
  rcases hcovers.isTextOrTag s hs with ⟨value, hvalue⟩ | ⟨tag, hwritten, hcarries⟩
  · exact absurd hvalue (htext value)
  · obtain ⟨rest, hrest, -⟩ := hwritten.beginsOnce
    rw [hrest] at hwritten hline
    exact ⟨n, before, rest, after, tag, hline, hwritten, hcarries, Nat.add_comm 1 n ▸ hposition⟩

end Token

end TagTemplate
