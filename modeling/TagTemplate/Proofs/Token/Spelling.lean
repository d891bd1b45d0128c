/-
# Which templates can be read

A template is read unless a tag with a name has a keyword that is not written in ASCII:
the tag is one of the grammar, but its keyword in lower case names no kind of token.
Reading then stops at the first of these tags, and that is all that can stop it.

    every line is spelt           tokens, one for each tag of the grammar
    the first misspelt keyword    an error with that keyword in lower case

A closing tag never stops it.  Its token has the keyword in lower case, which is a word
of the grammar just if the keyword is in ASCII.
-/
import TagTemplate.Proofs.Token.Tiling

namespace TagTemplate

namespace Tag

/-- The keyword of a tag with a name, if it is not written in ASCII. -/
def misspelt? : Tag → Option Text
  | named keyword _ _ => if keyword.IsAscii then none else some keyword
  | _ => none

variable {tag : Tag} {lexeme keyword : Text}

/-- A misspelt keyword names no kind of token. -/
theorem content_of_misspelt (h : tag.WrittenAs lexeme) (hm : tag.misspelt? = some keyword) :
    tag.content = .error (.unknownKeyword keyword.lower) := by
  cases h with
  | @named _ written _ _ _ _ _ _ _ _ _ _ _ hkeyword =>
      obtain ⟨word, hword, hkeyword⟩ := hkeyword
      rw [misspelt?] at hm
      split at hm
      · cases hm
      · next hascii =>
          cases hm
          cases hlookup : openers.lookup keyword.lower with
          | none => simp only [content, hlookup]
          | some opener =>
              -- A key of the table is in ASCII, so the keyword would be too.
              have hmem := mem_openers_of_lookup hword hkeyword hlookup
              have hlower : keyword.lower.IsAscii := by
                have hkeys : ∀ entry ∈ openers, Text.IsAscii entry.1 := by decide
                obtain ⟨front, back, heq, -⟩ := List.lookup_eq_some_iff.mp hlookup
                refine hkeys (keyword.lower, opener) ?_
                exact heq ▸ List.mem_append_right _ List.mem_cons_self
              have hletters := letters_of_mem_namedKeywords word hword
              exact absurd (hkeyword.isAscii_of_lower hletters hlower) hascii
  | _ => cases hm

theorem exists_content (h : tag.WrittenAs lexeme) (hm : tag.misspelt? = none) :
    ∃ content, tag.content = .ok content := by
  cases h with
  | @named _ keyword _ _ _ name _ _ _ _ _ _ _ hkeyword =>
      obtain ⟨word, hword, hkeyword⟩ := hkeyword
      rw [misspelt?] at hm
      split at hm
      · next hascii =>
          have hletters := letters_of_mem_namedKeywords word hword
          have hlower := (hkeyword.lower_eq_iff hletters).mpr hascii
          have hopener : ∀ w ∈ namedKeywords, (openers.lookup w).isSome = true := by decide
          obtain ⟨opener, hlookup⟩ := Option.isSome_iff_exists.mp (hopener word hword)
          exact ⟨opener name, by rw [content, hlower, hlookup]⟩
      · cases hm
  | _ => exact ⟨_, rfl⟩

end Tag

theorem Token.Content.Carries.isWord_type {content : Token.Content} {keyword name : Text}
    {escape : Option Text} (h : content.Carries (.named keyword name escape)) :
    content.type ∈ Tag.namedKeywords ∧ keyword.IsWord content.type := by
  cases h with
  | @named word _ _ opener _ hmem hkeyword =>
      have htype : ∀ entry ∈ Tag.openers, entry.1 ∈ Tag.namedKeywords ∧
          (entry.2 name).type = entry.1 := by
        simp only [Tag.openers, List.forall_mem_cons]
        exact ⟨⟨by decide, rfl⟩, ⟨by decide, rfl⟩, ⟨by decide, rfl⟩, ⟨by decide, rfl⟩,
          ⟨by decide, rfl⟩, List.forall_mem_nil _⟩
      obtain ⟨hword, heq⟩ := htype _ hmem
      rw [show (opener name).type = word from heq]
      exact ⟨hword, hkeyword⟩

/-- A token that closes a block has the word of its tag, or else its keyword in lower case. -/
theorem Token.Content.Carries.exists_of_closing {tag : Tag} {word : Text}
    (h : Token.Content.Carries (.closing word) tag) :
    ∃ keyword word', tag = .closing keyword ∧ word' ∈ Tag.closingKeywords ∧
      keyword.IsWord word' ∧
      (word = word' ∧ keyword.IsAscii ∨ word = keyword.lower ∧ ¬ keyword.IsAscii) := by
  generalize hcontent : Token.Content.closing word = content at h
  cases h with
  | named hmem _ =>
      simp only [Tag.openers, List.mem_cons, Prod.mk.injEq, List.not_mem_nil, or_false] at hmem
      rcases hmem with ⟨-, rfl⟩ | ⟨-, rfl⟩ | ⟨-, rfl⟩ | ⟨-, rfl⟩ | ⟨-, rfl⟩ <;> cases hcontent
  | closing hword hkeyword hascii =>
      cases hcontent
      exact ⟨_, word, rfl, hword, hkeyword, .inl ⟨rfl, hascii⟩⟩
  | @closingOdd word' keyword hword hkeyword hascii =>
      cases hcontent
      exact ⟨keyword, word', rfl, hword, hkeyword, .inr ⟨rfl, hascii⟩⟩
  | otherwise => cases hcontent
  | nameless => cases hcontent

theorem Token.Content.Carries.closing_iff {tag : Tag} {word : Text}
    (h : Token.Content.Carries (.closing word) tag) :
    ∃ keyword, tag = .closing keyword ∧ (word ∈ Tag.closingKeywords ↔ keyword.IsAscii) := by
  obtain ⟨keyword, word', rfl, hword, hkeyword, ⟨rfl, hascii⟩ | ⟨rfl, hascii⟩⟩ :=
    h.exists_of_closing
  · exact ⟨keyword, rfl, iff_of_true hword hascii⟩
  · refine ⟨keyword, rfl, fun hlower => ?_, fun h => absurd h hascii⟩
    have hwords : ∀ w ∈ Tag.closingKeywords, Text.IsAscii w := by decide
    have hletters := Tag.letters_of_mem_closingKeywords word' hword
    exact absurd (hkeyword.isAscii_of_lower hletters (hwords _ hlower)) hascii

/-- The token is that of a tag in the line with the number. -/
structure Token.Tells (token : Token) (number : Nat) (o : Occurrence) : Prop where
  position : token.position = ⟨number, o.start⟩
  carries : token.content.Carries o.tag

def Spelt (line : Text) : Prop := ∀ o : Occurrence, o.In line → o.tag.misspelt? = none

/-- The first misspelt keyword in lines, from left to right in each. -/
inductive FirstMisspelt : List Text → Text → Prop
  | here {line keyword : Text} {lines : List Text} {o : Occurrence} : o.In line →
      o.tag.misspelt? = some keyword →
      (∀ o' : Occurrence, o'.In line → o'.start < o.start → o'.tag.misspelt? = none) →
      FirstMisspelt (line :: lines) keyword
  | later {line keyword : Text} {lines : List Text} : Spelt line → FirstMisspelt lines keyword →
      FirstMisspelt (line :: lines) keyword

theorem FirstMisspelt.exists_not_spelt {lines : List Text} {keyword : Text}
    (h : FirstMisspelt lines keyword) : ∃ line ∈ lines, ¬ Spelt line := by
  induction h with
  | @here line keyword lines o ho hm _ =>
      refine ⟨line, List.mem_cons_self, fun hspelt => ?_⟩
      rw [hspelt o ho] at hm
      cases hm
  | later _ _ ih =>
      obtain ⟨line, hline, hspelt⟩ := ih
      exact ⟨line, List.mem_cons_of_mem _ hline, hspelt⟩

namespace Token

open Piece Slice

variable {keepNewlines : Bool} {number column : Nat} {line : Text} {lines : List Text}
  {ps : List Piece} {tokens : List Token} {e : Error}

/-! ## Within a line -/

/-- Pieces that are read have a token for each tag, and no other tokens but texts. -/
theorem tells_of_ofPieces (h : Tiles ps line) (htokens : ofPieces number column ps = .ok tokens) :
    (∀ o ∈ occurrences column ps, o.tag.misspelt? = none ∧
      ∃ token ∈ tokens, token.Tells number o) ∧
    ∀ token ∈ tokens, (∃ value, token.content = .text value) ∨
      ∃ o ∈ occurrences column ps, token.Tells number o := by
  induction h generalizing column tokens with
  | nil =>
      cases htokens
      exact ⟨nofun, nofun⟩
  | literal _ _ _ _ ih =>
      obtain ⟨tokens, hrest, rfl⟩ := exists_of_ofPieces_literal htokens
      obtain ⟨hoccurs, htold⟩ := ih hrest
      refine ⟨fun o ho => ?_, List.forall_mem_cons.mpr ⟨.inl ⟨_, rfl⟩, htold⟩⟩
      obtain ⟨hm, token, hmem, htells⟩ := hoccurs o ho
      exact ⟨hm, token, List.mem_cons_of_mem _ hmem, htells⟩
  | @tag lexeme rest found ps hwritten _ ih =>
      obtain ⟨content, tokens, hcontent, hrest, rfl⟩ := exists_of_ofPieces_tag htokens
      obtain ⟨hoccurs, htold⟩ := ih hrest
      have htells : Tells ⟨content, ⟨number, column⟩, found.escape⟩ number
          ⟨column, column + lexeme.length, found⟩ :=
        ⟨rfl, Tag.carries_of_content hwritten hcontent⟩
      have hspelt : found.misspelt? = none := by
        cases hm : found.misspelt? with
        | none => rfl
        | some keyword =>
            rw [Tag.content_of_misspelt hwritten hm] at hcontent
            cases hcontent
      constructor
      · refine List.forall_mem_cons.mpr ⟨⟨hspelt, _, List.mem_cons_self, htells⟩, fun o ho => ?_⟩
        obtain ⟨hm, token, hmem, htells⟩ := hoccurs o ho
        exact ⟨hm, token, List.mem_cons_of_mem _ hmem, htells⟩
      · refine List.forall_mem_cons.mpr ⟨.inr ⟨_, List.mem_cons_self, htells⟩, fun token hmem => ?_⟩
        refine (htold token hmem).imp_right ?_
        rintro ⟨o, ho, htells⟩
        exact ⟨o, List.mem_cons_of_mem _ ho, htells⟩

/-- Pieces that are not read have a misspelt keyword, and the first one is what fails. -/
theorem misspelt_of_ofPieces (h : Tiles ps line) (herror : ofPieces number column ps = .error e) :
    ∃ o ∈ occurrences column ps, ∃ keyword, o.tag.misspelt? = some keyword ∧
      e = .unknownKeyword keyword.lower ∧
      ∀ o' ∈ occurrences column ps, o'.start < o.start → o'.tag.misspelt? = none := by
  induction h generalizing column with
  | nil => cases herror
  | literal _ _ _ _ ih =>
      rcases Traced.bind_eq_error.mp herror with herror | ⟨_, _, herror⟩
      · cases herror
      rcases Traced.bind_eq_error.mp herror with herror | ⟨_, _, herror⟩
      · exact ih herror
      · cases herror
  | @tag lexeme rest found ps hwritten _ ih =>
      cases hm : found.misspelt? with
      | some keyword =>
          -- This tag fails, and those after it start further on.
          have herror' : ofPieces number column (.tag lexeme found :: ps) =
              .error (.unknownKeyword keyword.lower) := by
            rw [ofPieces, ofPiece, Tag.content_of_misspelt hwritten hm]
            rfl
          rw [herror'] at herror
          cases herror
          refine ⟨_, List.mem_cons_self, keyword, hm, rfl, fun o' ho' hlt => ?_⟩
          rcases List.mem_cons.mp ho' with rfl | ho'
          · exact absurd hlt (Nat.lt_irrefl _)
          · have hstart := ((pairwise_occurrences ps _).1 o' ho').1
            exact absurd hlt (Nat.not_lt.mpr (Nat.le_trans (Nat.le_add_right _ _) hstart))
      | none =>
          -- This tag has a token, so what fails is after it.
          obtain ⟨content, hcontent⟩ := Tag.exists_content hwritten hm
          have hcons : ofPieces number column (.tag lexeme found :: ps) =
              (ofPieces number (column + lexeme.length) ps >>= fun rest =>
                .ok (⟨content, ⟨number, column⟩, found.escape⟩ :: rest)) := by
            rw [ofPieces, ofPiece, hcontent]
            rfl
          rw [hcons] at herror
          rcases Traced.bind_eq_error.mp herror with herror | ⟨_, _, herror⟩
          · obtain ⟨o, ho, keyword, hkeyword, rfl, hfirst⟩ := ih herror
            refine ⟨o, List.mem_cons_of_mem _ ho, keyword, hkeyword, rfl, ?_⟩
            exact List.forall_mem_cons.mpr ⟨fun _ => hm, hfirst⟩
          · cases herror

/-! ## All lines -/

theorem tells_of_ofLines (h : ofLines keepNewlines number lines = .ok tokens) :
    (∀ i line, lines[i]? = some line → ∀ o : Occurrence, o.In line →
      o.tag.misspelt? = none ∧ ∃ token ∈ tokens, token.Tells (number + i) o) ∧
    ∀ token ∈ tokens, (∃ value, token.content = .text value) ∨
      ∃ i line, lines[i]? = some line ∧
        ∃ o : Occurrence, o.In line ∧ token.Tells (number + i) o := by
  induction lines generalizing number tokens with
  | nil =>
      cases h
      exact ⟨nofun, nofun⟩
  | cons line lines ih =>
      obtain ⟨here, rest, hhere, hrest, rfl⟩ := exists_of_ofLines_cons h
      obtain ⟨hoccurs, htold⟩ := tells_of_ofPieces (tiles_ofLine line) hhere
      obtain ⟨hoccurs', htold'⟩ := ih hrest
      constructor
      · rintro (_ | i) line' hline o ho
        · cases hline
          obtain ⟨hm, token, hmem, htells⟩ := hoccurs o ((mem_occurrences_ofLine line).mpr ho)
          exact ⟨hm, token, List.mem_append_left _ (List.mem_append_right _ hmem), htells⟩
        · obtain ⟨hm, token, hmem, htells⟩ := hoccurs' i line' hline o ho
          rw [Nat.add_assoc, Nat.add_comm 1] at htells
          exact ⟨hm, token, List.mem_append_right _ hmem, htells⟩
      · intro token hmem
        rw [List.mem_append, List.mem_append] at hmem
        rcases hmem with (hmem | hmem) | hmem
        · obtain ⟨slice, hslice, rfl⟩ := List.mem_map.mp hmem
          rw [breakBefore] at hslice
          split at hslice
          · cases List.mem_singleton.mp hslice
            exact .inl ⟨_, rfl⟩
          · cases hslice
        · refine (htold token hmem).imp_right ?_
          rintro ⟨o, ho, htells⟩
          exact ⟨0, line, rfl, o, (mem_occurrences_ofLine line).mp ho, htells⟩
        · refine (htold' token hmem).imp_right ?_
          rintro ⟨i, line', hline, o, ho, htells⟩
          rw [Nat.add_assoc, Nat.add_comm 1] at htells
          exact ⟨i + 1, line', hline, o, ho, htells⟩

theorem firstMisspelt_of_ofLines (h : ofLines keepNewlines number lines = .error e) :
    ∃ keyword, FirstMisspelt lines keyword ∧ e = .unknownKeyword keyword.lower := by
  induction lines generalizing number with
  | nil => cases h
  | cons line lines ih =>
      rw [ofLines] at h
      -- This line fails, or it is read, and is spelt then, and a later line fails.
      rcases Traced.bind_eq_error.mp h with h | ⟨here, hhere, h⟩
      · obtain ⟨o, ho, keyword, hm, rfl, hfirst⟩ := misspelt_of_ofPieces (tiles_ofLine line) h
        refine ⟨keyword, .here ((mem_occurrences_ofLine line).mp ho) hm fun o' ho' => ?_, rfl⟩
        exact hfirst o' ((mem_occurrences_ofLine line).mpr ho')
      rcases Traced.bind_eq_error.mp h with h | ⟨_, _, h⟩
      · obtain ⟨keyword, hfirst, rfl⟩ := ih h
        refine ⟨keyword, .later (fun o ho => ?_) hfirst, rfl⟩
        have hread := (tells_of_ofPieces (tiles_ofLine line) hhere).1
        exact (hread o ((mem_occurrences_ofLine line).mpr ho)).1
      · cases h

/-- **A template is read just if no tag with a name has a misspelt keyword**, and it is the first
misspelt keyword that reading fails with.  What is read covers the template: each tag of the
grammar has its token, that of a tag with a name is of the type that the keyword spells, and all
else is literal text.  A token that closes a block has a word of the grammar just if the keyword
of its tag is in ASCII. -/
theorem ofSource_ok_iff_spelt (keepNewlines : Bool) (source : Text) :
    ((∃ tokens, ofSource keepNewlines source = .ok tokens) ↔
      ∀ line ∈ source.normalizeNewlines.lines, Spelt line) ∧
    (∀ e, ofSource keepNewlines source = .error e →
      ∃ keyword, FirstMisspelt source.normalizeNewlines.lines keyword ∧
        e = .unknownKeyword keyword.lower) ∧
    ∀ tokens, ofSource keepNewlines source = .ok tokens →
      (∃ slices, slices.map Slice.token = tokens ∧
        Covers keepNewlines 1 slices source.normalizeNewlines.lines) ∧
      (∀ i line, source.normalizeNewlines.lines[i]? = some line → ∀ o : Occurrence, o.In line →
        ∃ token ∈ tokens, token.Tells (1 + i) o ∧
          ∀ keyword name escape, o.tag = .named keyword name escape →
            token.content.type ∈ Tag.namedKeywords ∧ keyword.IsWord token.content.type) ∧
      ∀ token ∈ tokens, ∀ word, token.content = .closing word →
        ∃ keyword, (word ∈ Tag.closingKeywords ↔ keyword.IsAscii) ∧
          ∃ i line, source.normalizeNewlines.lines[i]? = some line ∧
            ∃ o : Occurrence, o.In line ∧ o.tag = .closing keyword ∧ token.Tells (1 + i) o := by
  refine ⟨⟨?_, fun hspelt => ?_⟩, fun e => firstMisspelt_of_ofLines, fun tokens htokens => ?_⟩
  · rintro ⟨tokens, htokens⟩ line hline o ho
    obtain ⟨i, hi⟩ := List.mem_iff_getElem?.mp hline
    exact ((tells_of_ofLines htokens).1 i line hi o ho).1
  · cases hread : ofSource keepNewlines source with
    | ok tokens => exact ⟨tokens, rfl⟩
    | error e =>
        obtain ⟨keyword, hfirst, -⟩ := firstMisspelt_of_ofLines hread
        obtain ⟨line, hline, hmisspelt⟩ := hfirst.exists_not_spelt
        exact absurd (hspelt line hline) hmisspelt
  · obtain ⟨hoccurs, htold⟩ := tells_of_ofLines htokens
    refine ⟨exists_covers htokens fun _ => Text.not_mem_of_mem_splitOn, ?_, ?_⟩
    · intro i line hline o ho
      obtain ⟨-, token, hmem, htells⟩ := hoccurs i line hline o ho
      refine ⟨token, hmem, htells, fun keyword name escape htag => ?_⟩
      exact Content.Carries.isWord_type (htag ▸ htells.carries)
    · intro token hmem word hword
      rcases htold token hmem with ⟨value, hvalue⟩ | ⟨i, line, hline, o, ho, htells⟩
      · rw [hword] at hvalue
        cases hvalue
      · obtain ⟨keyword, htag, hiff⟩ := Content.Carries.closing_iff (hword ▸ htells.carries)
        exact ⟨keyword, hiff, i, line, hline, o, ho, htag, htells⟩

/-- An opening tag written with the dotless small i is one of the grammar, and its keyword is `if`;
but it cannot be read. -/
theorem dotless_opening_unread :
    let keyword : Text := [⟨0x131, by decide⟩, .ofChar 'f']
    let lexeme : Text := ("<tmpl_" : Text) ++ (keyword ++ (" x>" : Text))
    (Tag.named keyword "x" none).WrittenAs lexeme ∧ keyword.IsWord "if" ∧
      ∀ keepNewlines, ofSource keepNewlines lexeme = .error (.unknownKeyword keyword) := by
  intro keyword lexeme
  have hread : ∀ keepNewlines, ofSource keepNewlines lexeme = .error (.unknownKeyword keyword) := by
    decide +kernel +zetaReduce +revert
  have hkeyword : keyword.IsWord "if" := rfl
  have hgap : Text.IsBlank " " := by
    show ∀ c ∈ ((" " : Text)), c.isBlank = true
    decide
  refine ⟨?_, hkeyword, hread⟩
  exact @Tag.WrittenAs.named "<tmpl_" keyword " " [] [] "x" [] [] [] [] ">" none rfl
    ⟨"if", by decide, hkeyword⟩ (by decide) hgap (.inl rfl) (.inl rfl) (by decide) (by decide)
    (.inl rfl) nofun .absent nofun rfl

end Token

end TagTemplate
