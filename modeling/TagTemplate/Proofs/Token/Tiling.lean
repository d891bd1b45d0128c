/-
# Nothing is lost in reading

The tokens of a template cover it.  A slice is a token with the part of the template
that it covers, and two relations say how slices lie:

    Slice.Fill      the slices of a line: each token stands where its slice begins, a
                    text is its slice and follows no text, a tag is one of the grammar
                    whose words the token carries
    Slice.Covers    the slices of all lines, with a line break between each two or not

Reading a template gives tokens that have such slices, so with line breaks kept the
slices put together are the template (`covers_ofSource`).  A text holds no tag either:
reading it again gives it back.

A token carries the keyword of its tag with one exception.  A closing tag whose keyword
is not written in ASCII is recognised, but its token has the keyword in lower case,
which then is not the word of the grammar.
-/
import TagTemplate.Proofs.Tag.Occurrence
import TagTemplate.Proofs.Token.Keyword
import TagTemplate.Proofs.Token.Lines
import TagTemplate.Proofs.Traced

namespace TagTemplate

/-! ## Pieces lie side by side -/

namespace Piece

open Tag

/-- The pieces put together are the line; no tag is in a literal, and no literal follows one. -/
inductive Tiles : List Piece → Text → Prop
  | nil : Tiles [] []
  | literal {text rest : Text} {ps : List Piece} : text ≠ [] → ofLine text = [.literal text] →
      (∀ text' ps', ps ≠ .literal text' :: ps') → Tiles ps rest →
      Tiles (.literal text :: ps) (text ++ rest)
  | tag {lexeme rest : Text} {found : Tag} {ps : List Piece} : found.WrittenAs lexeme →
      Tiles ps rest → Tiles (.tag lexeme found :: ps) (lexeme ++ rest)

theorem atStart?_eq_none_of_append {t r : Text} (h : atStart? (t ++ r) = none) :
    atStart? t = none := by
  rw [Option.eq_none_iff_forall_ne_some]
  rintro ⟨tag, length⟩ hread
  obtain ⟨lexeme, rest, rfl, hwritten, -⟩ := atStart?_eq_some.mp hread
  rw [List.append_assoc, atStart?_eq_some.mpr ⟨lexeme, rest ++ r, rfl, hwritten, rfl⟩] at h
  cases h

theorem ofLine_singleton {c : CodePoint} {r : Text} (h : atStart? (c :: r) = none) :
    ofLine [c] = [.literal [c]] := ofLine_cons (atStart?_eq_none_of_append (t := [c]) h)

theorem Tiles.consLiteral {c : CodePoint} {r : Text} {ps : List Piece} (h : Tiles ps r)
    (hread : atStart? (c :: r) = none) : Tiles (consLiteral c ps) (c :: r) := by
  cases h with
  | nil => exact .literal (List.cons_ne_nil _ _) (ofLine_singleton hread) nofun .nil
  | @literal text rest ps hne hagain happart hrest =>
      refine .literal (List.cons_ne_nil _ _) ?_ happart hrest
      rw [ofLine_cons (atStart?_eq_none_of_append (t := c :: text) hread), hagain]
      rfl
  | tag hwritten hrest =>
      exact .literal (List.cons_ne_nil _ _) (ofLine_singleton hread) nofun (.tag hwritten hrest)

theorem tiles_ofLine (line : Text) : Tiles (ofLine line) line := by
  induction line using ofLine_induction with
  | nil => exact .nil
  | literal c r hread ih => exact ih.consLiteral hread
  | tag found lexeme rest hwritten ih => exact .tag hwritten ih

theorem Tiles.of_mem {ps : List Piece} {line text : Text} (h : Tiles ps line)
    (hmem : .literal text ∈ ps) : (∀ c ∈ text, c ∈ line) ∧ ofLine text = [.literal text] := by
  induction h with
  | nil => cases hmem
  | literal hne hagain happart hrest ih =>
      rcases List.mem_cons.mp hmem with heq | hmem
      · cases heq
        exact ⟨fun c hc => List.mem_append_left _ hc, hagain⟩
      · obtain ⟨hsub, hagain⟩ := ih hmem
        exact ⟨fun c hc => List.mem_append_right _ (hsub c hc), hagain⟩
  | tag hwritten hrest ih =>
      rcases List.mem_cons.mp hmem with heq | hmem
      · cases heq
      · obtain ⟨hsub, hagain⟩ := ih hmem
        exact ⟨fun c hc => List.mem_append_right _ (hsub c hc), hagain⟩

end Piece

/-! ## What a token carries -/

/-- The content is that of the tag: its keyword and its name. -/
inductive Token.Content.Carries : Token.Content → Tag → Prop
  | named {word keyword name : Text} {opener : Text → Token.Content} {escape : Option Text} :
      (word, opener) ∈ Tag.openers → keyword.IsWord word →
      Carries (opener name) (.named keyword name escape)
  | closing {word keyword : Text} : word ∈ Tag.closingKeywords → keyword.IsWord word →
      keyword.IsAscii → Carries (.closing word) (.closing keyword)
  | closingOdd {word keyword : Text} : word ∈ Tag.closingKeywords → keyword.IsWord word →
      ¬ keyword.IsAscii → Carries (.closing keyword.lower) (.closing keyword)
  | otherwise : Carries .otherwise .otherwise
  | nameless : Carries (.opening .unlessBlock []) .nameless

/-- The mode is the one that the tag asks for. -/
inductive EscapeMode.AskedBy : EscapeMode → Tag → Prop
  | word {mode : EscapeMode} {keyword name word : Text} : word.IsWord mode.word →
      AskedBy mode (.named keyword name (some word))
  | absent {keyword name : Text} : AskedBy .plain (.named keyword name none)
  | closing {keyword : Text} : AskedBy .plain (.closing keyword)
  | otherwise : AskedBy .plain .otherwise
  | nameless : AskedBy .plain .nameless

namespace Tag

variable {tag : Tag} {lexeme : Text}

theorem letters_of_mem_namedKeywords : ∀ word ∈ namedKeywords, ∀ d ∈ word,
    (0x61 ≤ d.val ∧ d.val ≤ 0x7a) ∧ d ≠ CodePoint.ofChar 'k' := by
  decide

theorem letters_of_mem_closingKeywords : ∀ word ∈ closingKeywords, ∀ d ∈ word,
    (0x61 ≤ d.val ∧ d.val ≤ 0x7a) ∧ d ≠ CodePoint.ofChar 'k' := by
  decide

/-- A word of the grammar that is among the openers in lower case is so as it is. -/
theorem mem_openers_of_lookup {keyword word : Text} {opener : Text → Token.Content}
    (hword : word ∈ namedKeywords) (h : keyword.IsWord word)
    (hlookup : openers.lookup keyword.lower = some opener) : (word, opener) ∈ openers := by
  have hmem : (keyword.lower, opener) ∈ openers := by
    obtain ⟨front, back, heq, -⟩ := List.lookup_eq_some_iff.mp hlookup
    rw [heq]
    exact List.mem_append_right _ List.mem_cons_self
  have hascii : keyword.lower.IsAscii := by
    have hkeys : ∀ key ∈ openers.map Prod.fst, Text.IsAscii key := by decide
    exact hkeys _ (List.mem_map_of_mem hmem)
  have hletters := letters_of_mem_namedKeywords word hword
  have hlower := (h.lower_eq_iff hletters).mpr (h.isAscii_of_lower hletters hascii)
  rwa [hlower] at hmem

theorem carries_of_content {content : Token.Content} (h : tag.WrittenAs lexeme)
    (hcontent : tag.content = .ok content) : content.Carries tag := by
  cases h with
  | @named _ keyword _ _ _ name _ _ _ _ _ escape _ hkeyword =>
      obtain ⟨word, hword, hkeyword⟩ := hkeyword
      rw [Tag.content] at hcontent
      split at hcontent
      · next opener hlookup =>
          cases hcontent
          exact .named (mem_openers_of_lookup hword hkeyword hlookup) hkeyword
      · cases hcontent
  | @closing _ keyword _ _ hkeyword _ =>
      obtain ⟨word, hword, hkeyword⟩ := hkeyword
      cases hcontent
      by_cases hascii : keyword.IsAscii
      · rw [hascii.lower_eq, show keyword.map CodePoint.fold = word from hkeyword]
        exact .closing hword hkeyword hascii
      · exact .closingOdd hword hkeyword hascii
  | otherwise => cases hcontent; exact .otherwise
  | nameless => cases hcontent; exact .nameless

theorem askedBy_escape (h : tag.WrittenAs lexeme) : tag.escape.AskedBy tag := by
  cases h with
  | @named _ _ _ _ _ _ _ _ _ _ _ escape _ _ _ _ _ _ _ _ _ _ hescape _ _ =>
      cases hescape with
      | absent => exact .absent
      | @present _ _ word _ _ _ hword _ =>
          obtain ⟨w, hw, hword⟩ := hword
          have hplain : ∀ w ∈ escapeWords, ∀ d ∈ w,
              (0x61 ≤ d.val ∧ d.val ≤ 0x7a) ∧ d ∉ ("isk" : Text) := by decide
          have hmode : ∀ w ∈ escapeWords, ((EscapeMode.ofWord? w).getD .plain).word = w := by decide
          have hlower : word.lower = w := (hword.isAscii (hplain w hw)).lower_eq.trans hword
          refine .word ?_
          rw [Tag.escape, hlower, hmode w hw]
          exact hword
  | closing => exact .closing
  | otherwise => exact .otherwise
  | nameless => exact .nameless

end Tag

theorem Token.Content.Carries.ne_text {content : Token.Content} {tag : Tag} {value : Text}
    (h : content.Carries tag) : content ≠ .text value := by
  cases h with
  | named hmem _ =>
      simp only [Tag.openers, List.mem_cons, Prod.mk.injEq, List.not_mem_nil, or_false] at hmem
      rcases hmem with ⟨-, rfl⟩ | ⟨-, rfl⟩ | ⟨-, rfl⟩ | ⟨-, rfl⟩ | ⟨-, rfl⟩ <;> nofun
  | closing _ _ _ => nofun
  | closingOdd _ _ _ => nofun
  | otherwise => nofun
  | nameless => nofun

/-! ## Slices -/

/-- A token and what it covers of the template. -/
structure Slice where
  token : Token
  text : Text

namespace Slice

/-- The slices begin with literal text. -/
def BeginWithText (slices : List Slice) : Prop :=
  ∃ s rest value, slices = s :: rest ∧ s.token.content = .text value

/-- The slices fill a line, numbered `number`, from a column on. -/
inductive Fill (number : Nat) : (column : Nat) → List Slice → Text → Prop
  | nil {column : Nat} : Fill number column [] []
  | text {column : Nat} {value rest : Text} {slices : List Slice} : value ≠ [] →
      ¬ BeginWithText slices → Fill number (column + value.length) slices rest →
      Fill number column (⟨⟨.text value, ⟨number, column⟩, .plain⟩, value⟩ :: slices)
        (value ++ rest)
  | tag {column : Nat} {lexeme rest : Text} {tag : Tag} {content : Token.Content}
      {mode : EscapeMode} {slices : List Slice} : tag.WrittenAs lexeme → content.Carries tag →
      mode.AskedBy tag → Fill number (column + lexeme.length) slices rest →
      Fill number column (⟨⟨content, ⟨number, column⟩, mode⟩, lexeme⟩ :: slices)
        (lexeme ++ rest)

/-- The line break before a line, if line breaks are kept and it is not the first. -/
def breakBefore (keepNewlines : Bool) (number : Nat) : List Slice :=
  if keepNewlines && 1 < number then [⟨Token.lineBreak number, [Text.lineFeed]⟩] else []

/-- The slices fill the lines, the first of which is numbered `number`; no line goes on after a
line feed. -/
inductive Covers (keepNewlines : Bool) : (number : Nat) → List Slice → List Text → Prop
  | nil {number : Nat} : Covers keepNewlines number [] []
  | cons {number : Nat} {row slices : List Slice} {line : Text} {lines : List Text} :
      Text.lineFeed ∉ line → Fill number 0 row line →
      Covers keepNewlines (number + 1) slices lines →
      Covers keepNewlines number (breakBefore keepNewlines number ++ row ++ slices) (line :: lines)

variable {number column : Nat} {slices : List Slice} {line : Text} {lines : List Text}

/-- The slice is literal text, or a tag whose token carries what is written. -/
def IsTextOrTag (s : Slice) : Prop :=
  (∃ value, s.token.content = .text value) ∨
    ∃ tag, tag.WrittenAs s.text ∧ s.token.content.Carries tag

theorem Fill.isTextOrTag (h : Fill number column slices line) : ∀ s ∈ slices, s.IsTextOrTag := by
  induction h with
  | nil => exact nofun
  | text _ _ _ ih => exact List.forall_mem_cons.mpr ⟨.inl ⟨_, rfl⟩, ih⟩
  | tag hwritten hcarries _ _ ih =>
      exact List.forall_mem_cons.mpr ⟨.inr ⟨_, hwritten, hcarries⟩, ih⟩

theorem Covers.isTextOrTag {keepNewlines : Bool} (h : Covers keepNewlines number slices lines) :
    ∀ s ∈ slices, s.IsTextOrTag := by
  induction h with
  | nil => exact nofun
  | cons _ hfill _ ih =>
      refine List.forall_mem_append.mpr ⟨List.forall_mem_append.mpr ⟨?_, hfill.isTextOrTag⟩, ih⟩
      unfold breakBefore
      split
      · exact List.forall_mem_singleton.mpr (.inl ⟨_, rfl⟩)
      · exact nofun

theorem Fill.flatMap_text (h : Fill number column slices line) :
    slices.flatMap Slice.text = line := by
  induction h with
  | nil => rfl
  | text _ _ _ ih => rw [List.flatMap_cons, ih]
  | tag _ _ _ _ ih => rw [List.flatMap_cons, ih]

theorem Covers.flatMap_text_of_lt (h : Covers true number slices lines) (hnumber : 1 < number) :
    slices.flatMap Slice.text = lines.flatMap (Text.lineFeed :: ·) := by
  induction h with
  | nil => rfl
  | @cons number row slices line lines _ hrow hrest ih =>
      rw [List.flatMap_append, List.flatMap_append, hrow.flatMap_text, ih (by omega), breakBefore,
        if_pos (by simp [hnumber])]
      rfl

theorem Covers.flatMap_text (h : Covers true 1 slices lines) :
    slices.flatMap Slice.text = Text.join [Text.lineFeed] lines := by
  cases h with
  | nil => rfl
  | cons _ hrow hrest =>
      rw [List.flatMap_append, List.flatMap_append, hrow.flatMap_text,
        hrest.flatMap_text_of_lt (by omega), Text.join_cons]
      rfl

end Slice

/-! ## Reading -/

namespace Token

open Slice

variable {keepNewlines : Bool} {number column : Nat} {line source : Text} {lines : List Text}
  {ps : List Piece} {tokens : List Token}

theorem exists_of_ofPieces_tag {lexeme : Text} {tag : Tag}
    (h : ofPieces number column (.tag lexeme tag :: ps) = .ok tokens) :
    ∃ content rest, tag.content = .ok content ∧
      ofPieces number (column + lexeme.length) ps = .ok rest ∧
      tokens = ⟨content, ⟨number, column⟩, tag.escape⟩ :: rest := by
  simp only [ofPieces, ofPiece, Piece.lexeme] at h
  cases hcontent : tag.content with
  | error e => rw [hcontent] at h; cases h
  | ok content =>
      cases hrest : ofPieces number (column + lexeme.length) ps with
      | error e => rw [hcontent, hrest] at h; cases h
      | ok rest =>
          rw [hcontent, hrest] at h
          cases h
          exact ⟨content, rest, rfl, rfl, rfl⟩

theorem exists_of_ofPieces_literal {text : Text}
    (h : ofPieces number column (.literal text :: ps) = .ok tokens) :
    ∃ rest, ofPieces number (column + text.length) ps = .ok rest ∧
      tokens = ⟨.text text, ⟨number, column⟩, .plain⟩ :: rest := by
  simp only [ofPieces, ofPiece, Piece.lexeme] at h
  cases hrest : ofPieces number (column + text.length) ps with
  | error e => rw [hrest] at h; cases h
  | ok rest =>
      rw [hrest] at h
      cases h
      exact ⟨rest, rfl, rfl⟩

/-- The tokens of pieces that lie side by side fill their line. -/
theorem exists_fill (h : Piece.Tiles ps line) (htokens : ofPieces number column ps = .ok tokens) :
    ∃ slices, slices.map Slice.token = tokens ∧ Fill number column slices line ∧
      (BeginWithText slices → ∃ text ps', ps = .literal text :: ps') := by
  induction h generalizing column tokens with
  | nil =>
      cases htokens
      exact ⟨[], rfl, .nil, nofun⟩
  | @literal text rest ps hne _ happart _ ih =>
      obtain ⟨tokens, hrest, rfl⟩ := exists_of_ofPieces_literal htokens
      obtain ⟨slices, rfl, hfill, hbegin⟩ := ih hrest
      refine ⟨_ :: slices, rfl, .text hne ?_ hfill, fun _ => ⟨text, ps, rfl⟩⟩
      intro hslices
      obtain ⟨text', ps', hps⟩ := hbegin hslices
      exact happart text' ps' hps
  | tag hwritten _ ih =>
      obtain ⟨content, tokens, hcontent, hrest, rfl⟩ := exists_of_ofPieces_tag htokens
      obtain ⟨slices, rfl, hfill, -⟩ := ih hrest
      have hcarries := Tag.carries_of_content hwritten hcontent
      refine ⟨_ :: slices, rfl, .tag hwritten hcarries (Tag.askedBy_escape hwritten) hfill, ?_⟩
      rintro ⟨s, _, value, heq, hs⟩
      cases heq
      exact absurd hs hcarries.ne_text

theorem exists_of_ofLines_cons
    (h : ofLines keepNewlines number (line :: lines) = .ok tokens) :
    ∃ here rest, ofPieces number 0 (Piece.ofLine line) = .ok here ∧
      ofLines keepNewlines (number + 1) lines = .ok rest ∧
      tokens = (breakBefore keepNewlines number).map Slice.token ++ here ++ rest := by
  rw [ofLines] at h
  cases hhere : ofPieces number 0 (Piece.ofLine line) with
  | error e => rw [hhere] at h; cases h
  | ok here =>
      cases hrest : ofLines keepNewlines (number + 1) lines with
      | error e => rw [hhere, hrest] at h; cases h
      | ok rest =>
          rw [hhere, hrest] at h
          cases h
          refine ⟨here, rest, rfl, rfl, ?_⟩
          rw [breakBefore]
          split <;> rfl

theorem exists_covers (h : ofLines keepNewlines number lines = .ok tokens)
    (hlines : ∀ line ∈ lines, Text.lineFeed ∉ line) :
    ∃ slices, slices.map Slice.token = tokens ∧ Covers keepNewlines number slices lines := by
  induction lines generalizing number tokens with
  | nil =>
      cases h
      exact ⟨[], rfl, .nil⟩
  | cons line lines ih =>
      obtain ⟨here, rest, hhere, hrest, rfl⟩ := exists_of_ofLines_cons h
      obtain ⟨row, rfl, hfill, -⟩ := exists_fill (Piece.tiles_ofLine line) hhere
      obtain ⟨hline, hlines⟩ := List.forall_mem_cons.mp hlines
      obtain ⟨slices, rfl, hcovers⟩ := ih hrest hlines
      exact ⟨_, by rw [List.map_append, List.map_append], .cons hline hfill hcovers⟩

/-- A token of a template is literal text, or carries what a tag is written with. -/
theorem exists_tag_of_mem {token : Token} (h : ofSource keepNewlines source = .ok tokens)
    (hmem : token ∈ tokens) : (∃ value, token.content = .text value) ∨
      ∃ tag lexeme, Tag.WrittenAs tag lexeme ∧ token.content.Carries tag := by
  obtain ⟨slices, rfl, hcovers⟩ := exists_covers h fun _ => Text.not_mem_of_mem_splitOn
  obtain ⟨s, hs, rfl⟩ := List.mem_map.mp hmem
  exact (hcovers.isTextOrTag s hs).imp_right fun ⟨tag, hwritten⟩ => ⟨tag, s.text, hwritten⟩

theorem mem_of_mem_ofPieces {token : Token} {value : Text} (h : Piece.Tiles ps line)
    (htokens : ofPieces number column ps = .ok tokens) (hmem : token ∈ tokens)
    (hvalue : token.content = .text value) : .literal value ∈ ps := by
  induction h generalizing column tokens with
  | nil =>
      cases htokens
      cases hmem
  | literal _ _ _ _ ih =>
      obtain ⟨tokens, hrest, rfl⟩ := exists_of_ofPieces_literal htokens
      rcases List.mem_cons.mp hmem with rfl | hmem
      · cases hvalue
        exact List.mem_cons_self
      · exact List.mem_cons_of_mem _ (ih hrest hmem)
  | tag hwritten _ ih =>
      obtain ⟨content, tokens, hcontent, hrest, rfl⟩ := exists_of_ofPieces_tag htokens
      rcases List.mem_cons.mp hmem with rfl | hmem
      · exact absurd hvalue (Tag.carries_of_content hwritten hcontent).ne_text
      · exact List.mem_cons_of_mem _ (ih hrest hmem)

theorem exists_of_mem_ofLines {token : Token} {value : Text}
    (h : ofLines keepNewlines number lines = .ok tokens) (hmem : token ∈ tokens)
    (hvalue : token.content = .text value) :
    value = [Text.lineFeed] ∨ ∃ line ∈ lines, .literal value ∈ Piece.ofLine line := by
  induction lines generalizing number tokens with
  | nil =>
      cases h
      cases hmem
  | cons line lines ih =>
      obtain ⟨here, rest, hhere, hrest, rfl⟩ := exists_of_ofLines_cons h
      rw [List.mem_append, List.mem_append] at hmem
      rcases hmem with (hmem | hmem) | hmem
      · rw [breakBefore] at hmem
        split at hmem
        · cases List.mem_singleton.mp hmem
          cases hvalue
          exact .inl rfl
        · cases hmem
      · exact .inr ⟨line, List.mem_cons_self,
          mem_of_mem_ofPieces (Piece.tiles_ofLine line) hhere hmem hvalue⟩
      · rcases ih hrest hmem with hbreak | ⟨line', hline', hliteral⟩
        · exact .inl hbreak
        · exact .inr ⟨line', List.mem_cons_of_mem _ hline', hliteral⟩

theorem ofSource_of_literal {value : Text} (hreturn : Text.carriageReturn ∉ value)
    (hfeed : Text.lineFeed ∉ value) (hvalue : Piece.ofLine value = [.literal value]) :
    ofSource keepNewlines value = .ok [⟨.text value, ⟨1, 0⟩, .plain⟩] := by
  rw [ofSource, Text.normalizeNewlines_of_not_mem hreturn, Text.lines,
    Text.splitOn_of_not_mem hfeed, ofLines, hvalue, if_neg (by simp)]
  rfl

theorem ofSource_of_writtenAs {tag : Tag} {lexeme : Text} {content : Content}
    (h : tag.WrittenAs lexeme) (hreturn : Text.carriageReturn ∉ lexeme)
    (hfeed : Text.lineFeed ∉ lexeme) (hcontent : tag.content = .ok content) :
    ofSource keepNewlines lexeme = .ok [⟨content, ⟨1, 0⟩, tag.escape⟩] := by
  have hline : Piece.ofLine lexeme = [.tag lexeme tag] := by
    rw [← List.append_nil lexeme, Piece.ofLine_append h, List.append_nil]
    rfl
  rw [ofSource, Text.normalizeNewlines_of_not_mem hreturn, Text.lines,
    Text.splitOn_of_not_mem hfeed, ofLines, hline, if_neg (by simp), ofPieces, ofPiece, hcontent]
  rfl

/-- Reading loses nothing.  The tokens of a template have slices that fill its lines, with a line
break before each line but the first if line breaks are kept, and then the slices put together are
the template.  A text of one line, read again, is that one text. -/
theorem covers_ofSource (h : ofSource keepNewlines source = .ok tokens) :
    (∃ slices, slices.map Slice.token = tokens ∧
      Covers keepNewlines 1 slices source.normalizeNewlines.lines ∧
      (keepNewlines = true → slices.flatMap Slice.text = source.normalizeNewlines)) ∧
    ∀ token ∈ tokens, ∀ value, token.content = .text value → Text.lineFeed ∉ value →
      ∀ keepNewlines', ofSource keepNewlines' value = .ok [⟨.text value, ⟨1, 0⟩, .plain⟩] := by
  constructor
  · obtain ⟨slices, htokens, hcovers⟩ := exists_covers h fun _ => Text.not_mem_of_mem_splitOn
    refine ⟨slices, htokens, hcovers, ?_⟩
    rintro rfl
    exact hcovers.flatMap_text.trans (Text.join_splitOn _ _)
  · intro token hmem value hvalue hfeed keepNewlines'
    rcases exists_of_mem_ofLines h hmem hvalue with rfl | ⟨line, hline, hliteral⟩
    · exact absurd List.mem_cons_self hfeed
    · obtain ⟨hsub, hagain⟩ := (Piece.tiles_ofLine line).of_mem hliteral
      refine ofSource_of_literal (fun hreturn => ?_) hfeed hagain
      exact Text.carriageReturn_not_mem_normalizeNewlines source
        (Text.mem_of_mem_splitOn hline (hsub _ hreturn))

/-- Two lines; the second is like a tag, but has no name and is text. -/
theorem covers_two_lines :
    let source : Text := "a<tmpl_var b escape=url>\r\n<tmpl_if>"
    let tokens : List Token := [⟨.text "a", ⟨1, 0⟩, .plain⟩, ⟨.output "b", ⟨1, 1⟩, .url⟩,
      lineBreak 2, ⟨.text "<tmpl_if>", ⟨2, 0⟩, .plain⟩]
    (∃ slices : List Slice, slices.map Slice.token = tokens ∧
      Covers true 1 slices ["a<tmpl_var b escape=url>", "<tmpl_if>"] ∧
      slices.flatMap Slice.text = source.normalizeNewlines) ∧
    ofSource false "<tmpl_if>" = .ok [⟨.text "<tmpl_if>", ⟨1, 0⟩, .plain⟩] := by
  intro source tokens
  have htokens : ofSource true source = .ok tokens := by decide +kernel +zetaReduce +revert
  have hlines : source.normalizeNewlines.lines =
      [("a<tmpl_var b escape=url>" : Text), ("<tmpl_if>" : Text)] := by
    decide +kernel +zetaReduce +revert
  obtain ⟨⟨slices, hslices, hcovers, htext⟩, hagain⟩ := covers_ofSource htokens
  refine ⟨⟨slices, hslices, hlines ▸ hcovers, htext rfl⟩, ?_⟩
  exact hagain _ (List.mem_of_getElem? (i := 3) rfl) "<tmpl_if>" rfl (by decide) false

/-- A closing tag written with a dotted capital I is one of the grammar, and its keyword is `if`;
but its token carries another word. -/
theorem dotted_closing_not_carried :
    let keyword : Text := [⟨0x130, by decide⟩, .ofChar 'f']
    let lexeme : Text := ("</tmpl_" : Text) ++ (keyword ++ (">" : Text))
    (Tag.closing keyword).WrittenAs lexeme ∧ keyword.IsWord "if" ∧
      ofSource false lexeme =
        .ok [⟨.closing [.ofChar 'i', ⟨0x307, by decide⟩, .ofChar 'f'], ⟨1, 0⟩, .plain⟩] := by
  intro keyword lexeme
  refine ⟨.closing rfl ⟨"if", by decide, rfl⟩ rfl, rfl, ?_⟩
  decide +kernel +zetaReduce +revert

end Token

end TagTemplate
