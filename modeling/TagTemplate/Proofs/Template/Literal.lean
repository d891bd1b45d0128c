/-
# Text without tags

A source whose lines have no tags puts out itself, whatever the data.  On the way there it is
taken apart and put together again:

    lines       each is one piece, or none if it is empty
    tokens      one text for each piece, and one for each line break that is kept
    program     one text, or none if nothing is left

So what counts is what the texts of the tokens are together (`Token.Literally`).  Tags are looked
for in lines: what would be a tag only in two lines put together is text like the rest.
-/
import TagTemplate.Proofs.Include.Basic
import TagTemplate.Proofs.Meaning.Correct
import TagTemplate.Proofs.Template.History
import TagTemplate.Proofs.Token.Joined

namespace TagTemplate

/-! ## Lines without tags -/

/-- No tag is written anywhere in the line. -/
def Text.Tagless (line : Text) : Prop := ∀ o : Occurrence, ¬ o.In line

theorem Piece.ofLine_of_tagless {line : Text} (h : line.Tagless) :
    ofLine line = if line = [] then [] else [.literal line] := by
  have htiles := tiles_ofLine line
  generalize ofLine line = ps at htiles ⊢
  cases htiles with
  | nil => rfl
  | @tag lexeme rest found _ hwritten =>
      exact absurd ⟨[], lexeme, rest, rfl, rfl, rfl, hwritten⟩ (h ⟨0, 0 + lexeme.length, found⟩)
  | @literal text _ _ hne _ happart hrest =>
      cases hrest with
      | nil => simp [hne]
      | literal => exact absurd rfl (happart _ _)
      | @tag lexeme rest found _ hwritten =>
          exact absurd ⟨text, lexeme, rest, rfl, rfl, rfl, hwritten⟩
            (h ⟨0 + text.length, 0 + text.length + lexeme.length, found⟩)

/-! ## Tokens that are text -/

namespace Token

/-- The tokens are literal texts, which put together are the text. -/
inductive Literally : List Token → Text → Prop
  | nil : Literally [] []
  | cons {t : Token} {ts : List Token} {value rest : Text} : t.content = .text value →
      Literally ts rest → Literally (t :: ts) (value ++ rest)

variable {ts us : List Token} {a b : Text}

theorem Literally.single {t : Token} (h : t.content = .text a) : Literally [t] a := by
  simpa using Literally.cons h .nil

theorem Literally.append (h : Literally ts a) (h' : Literally us b) :
    Literally (ts ++ us) (a ++ b) := by
  induction h with
  | nil => exact h'
  | cons ht _ ih =>
      rw [List.cons_append, List.append_assoc]
      exact .cons ht ih

/-- What stands between two lines in the tokens. -/
def between (keepNewlines : Bool) : Text := if keepNewlines then [Text.lineFeed] else []

theorem ofPieces_of_tagless (number : Nat) {line : Text} (h : line.Tagless) :
    ∃ ts, ofPieces number 0 (Piece.ofLine line) = .ok ts ∧ Literally ts line := by
  rw [Piece.ofLine_of_tagless h]
  split
  · next hline => exact ⟨[], rfl, hline ▸ .nil⟩
  · exact ⟨[⟨.text line, ⟨number, 0⟩, .plain⟩], rfl, .single rfl⟩

theorem ofLines_of_tagless (keepNewlines : Bool) {number : Nat} {lines : List Text}
    (h : ∀ line ∈ lines, line.Tagless) (hnumber : 1 < number) :
    ∃ ts, ofLines keepNewlines number lines = .ok ts ∧
      Literally ts (lines.flatMap (between keepNewlines ++ ·)) := by
  induction lines generalizing number with
  | nil => exact ⟨[], rfl, .nil⟩
  | cons line lines ih =>
      obtain ⟨hline, hlines⟩ := List.forall_mem_cons.mp h
      obtain ⟨here, hhere, hliteral⟩ := ofPieces_of_tagless number hline
      obtain ⟨rest, hrest, hliterals⟩ := ih hlines (Nat.lt_succ_of_lt hnumber)
      rw [ofLines, hhere, hrest]
      refine ⟨_, rfl, ?_⟩
      rw [List.flatMap_cons]
      refine (Literally.append ?_ hliteral).append hliterals
      cases keepNewlines with
      | false => exact .nil
      | true =>
          rw [Bool.true_and, if_pos (decide_eq_true hnumber)]
          exact .single rfl

/-- A source without tags is read as text: its lines, with what stands between two of them. -/
theorem ofSource_of_tagless (keepNewlines : Bool) {source : Text}
    (h : ∀ line ∈ source.normalizeNewlines.lines, line.Tagless) :
    ∃ ts, ofSource keepNewlines source = .ok ts ∧
      Literally ts (Text.join (between keepNewlines) source.normalizeNewlines.lines) := by
  rw [ofSource]
  cases hlines : source.normalizeNewlines.lines with
  | nil => exact ⟨[], rfl, .nil⟩
  | cons line lines =>
      rw [hlines] at h
      obtain ⟨hline, hrest⟩ := List.forall_mem_cons.mp h
      obtain ⟨here, hhere, hliteral⟩ := ofPieces_of_tagless 1 hline
      obtain ⟨rest, hrest, hliterals⟩ := ofLines_of_tagless keepNewlines hrest Nat.one_lt_two
      rw [ofLines, hhere, hrest, Text.join_cons]
      refine ⟨_, rfl, ?_⟩
      simpa using hliteral.append hliterals

end Token

/-! ## Programs of one text -/

theorem Body.exists_append_append (b : Body) (place place' : Position) (value value' : Text) :
    ∃ start, (b.append place value).append place' value' = b.append start (value ++ value') := by
  by_cases hvalue : value = []
  · refine ⟨place', ?_⟩
    rw [hvalue]
    rfl
  by_cases hvalue' : value' = []
  · refine ⟨place, ?_⟩
    rw [hvalue', List.append_nil]
    rfl
  refine ⟨place, ?_⟩
  cases b <;> simp [append, hvalue, hvalue']

namespace Compilation

open Outline Token

variable {c : Compilation} {ts : List Token} {value : Text}

/-- Tokens that are text put it at the end of the body, after what has been put there. -/
theorem steps_of_literally (h : Literally ts value) (ps : List Pending) (b : Body)
    (place : Position) (before : Text) :
    ∃ start, (c.steps (draft ⟨ps, b.append place before⟩) ts).result =
      .ok (draft ⟨ps, b.append start (before ++ value)⟩) := by
  induction h generalizing place before with
  | nil => exact ⟨place, by rw [List.append_nil]; rfl⟩
  | @cons t ts value rest ht _ ih =>
      obtain ⟨start, happend⟩ := b.exists_append_append place t.position before value
      obtain ⟨start', hrest⟩ := ih start (before ++ value)
      refine ⟨start', ?_⟩
      rw [result_steps_cons (step_text ht), happend, hrest, List.append_assoc]

variable [Traits]

/-- Tokens that are text compile to one operation, or to none, and the program puts the text out. -/
theorem exists_compile_of_literally (h : Literally ts value) :
    ∃ p, (c.compile ts).result = .ok p ∧ p.size = (if value = [] then 0 else 1) ∧
      ∀ (data : Value) (escapers : EscapeTable), p.execute data escapers = .ok value := by
  obtain ⟨start, hsteps⟩ := steps_of_literally (c := c) h [] .empty ⟨1, 0⟩ []
  rw [List.nil_append] at hsteps
  let b : Body := Body.empty.append start value
  refine ⟨_, result_compile_of_steps (b := b) hsteps, ?_, ?_⟩
  · show (b.code 0 .root).toArray.size = _
    by_cases hvalue : value = [] <;> simp [b, Body.append, hvalue, Body.code]
  · intro data escapers
    rw [Program.execute_eq_meaning (b := b) rfl, Body.meaning, Body.meaningBy_append]
    rfl

end Compilation

/-! ## Templates without tags -/

namespace Environment

section

variable [Traits]

/-- **Text without tags puts out itself**, with line feeds for its line breaks if they are kept, and
without them otherwise. -/
theorem render_of_tagless (loader : Option Loader) (strict keepNewlines : Bool)
    (maxIncludeDepth : Int) (escapers : EscapeTable) {r : Request} {source : Text}
    (hsource : r.source = some source) (hne : source ≠ [])
    (htags : ∀ line ∈ source.normalizeNewlines.lines, line.Tagless) :
    let shown : Text := if keepNewlines then source.normalizeNewlines
      else source.normalizeNewlines.filter (· != Text.lineFeed)
    ∃ t, ((make loader strict keepNewlines maxIncludeDepth escapers).template r).result = .ok t ∧
      t.program.size = (if shown = [] then 0 else 1) ∧
      ∀ data, (t.render data []).2 = .ok shown := by
  intro shown
  let env := make loader strict keepNewlines maxIncludeDepth escapers
  obtain ⟨ts, hread, hliteral⟩ := Token.ofSource_of_tagless keepNewlines htags
  have hshown : Text.join (Token.between keepNewlines) source.normalizeNewlines.lines = shown := by
    cases keepNewlines with
    | true => exact Text.join_splitOn Text.lineFeed _
    | false => exact Text.join_nil_splitOn Text.lineFeed _
  rw [hshown] at hliteral
  obtain ⟨p, hp, hsize, hexecute⟩ := Compilation.exists_compile_of_literally hliteral
    (c := env.compilation (env.context r.name).room (env.context r.name) r.data source)
  have hcompile : (env.compile (env.context r.name) r.data source).result = .ok p := by
    rw [compile, compileWithin_eq, show Token.ofSource env.readsNewlines source = .ok ts from hread]
    exact hp
  refine ⟨_, (env.result_template_of_source hsource hne).trans (by rw [hcompile]; rfl), hsize, ?_⟩
  intro data
  rw [Template.render_of_ok (v := data) rfl]
  exact hexecute _ _

end

attribute [local instance] Traits.bare

/-- What would be a tag, if it stood in one line: without the line break it is put out as it is. -/
theorem render_of_tagless_broken_tag :
    let source : Text := "<tmpl_var \r\nx>\r</tmpl_if"
    let r : Request := ⟨some source, none, .null, none, false⟩
    (∀ line ∈ source.normalizeNewlines.lines, line.Tagless) ∧
      ∃ t, ((make none true false 50 .standard).template r).result = .ok t ∧
        t.program.size = 1 ∧ ∀ data, (t.render data []).2 = .ok "<tmpl_var x></tmpl_if" := by
  intro source r
  have htags : ∀ line ∈ source.normalizeNewlines.lines, line.Tagless := by
    have hlines : ∀ line ∈ source.normalizeNewlines.lines,
        Piece.occurrences 0 (Piece.ofLine line) = [] := by decide +kernel
    intro line hline o ho
    have hmem := (Piece.mem_occurrences_ofLine line).mpr ho
    rw [hlines line hline] at hmem
    cases hmem
  obtain ⟨t, ht, hsize, hrender⟩ :=
    render_of_tagless none true false 50 .standard (show r.source = some source from rfl)
      (by decide) htags
  have hshown : source.normalizeNewlines.filter (· != Text.lineFeed) = "<tmpl_var x></tmpl_if" := by
    decide +kernel
  exact ⟨htags, t, ht, hsize, fun data => hshown ▸ hrender data⟩

end Environment

end TagTemplate
