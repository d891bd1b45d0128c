/-
# Merging — how literal text is cut up leaves no trace

Text that comes after text joins the operation before it, and empty text makes none.  So what is
compiled is a normal form: no text operation is empty and none follows another
(`Program.Merged`), whatever texts, tags and includes it comes from.

    d.texts               what each operation puts out literally, if it does
    push an operation     one entry more, and it is none unless text is added
    link an operation     its entry stays as it is
    append text           an entry more, or the last entry longer

It also means that pieces of a text, one after the other, compile as the text does
(`steps_pieces`).  Between them there may be tags that a tolerant compilation ignores: these leave
the draft as it is, so the next piece still finds the text before it at the end.  What is compiled
afterwards starts from the same draft, with the same blocks and indices.
-/
import Mathlib.Data.List.Chain
import TagTemplate.Proofs.Compile.Settled

namespace TagTemplate

/-! ## What is put out literally -/

/-- The literal text that the operation puts out. -/
def Action.text? : Action → Option Text
  | text value => some value
  | _ => none

def Op.texts (ops : List Op) : List (Option Text) := ops.map (·.action.text?)

def Program.texts (p : Program) : List (Option Text) := Op.texts p.ops.toList

/-- No text is empty, and none comes right after another. -/
structure Merged (texts : List (Option Text)) : Prop where
  not_empty : some [] ∉ texts
  apart : texts.IsChain fun before after => before = none ∨ after = none

def Program.Merged (p : Program) : Prop := TagTemplate.Merged p.texts

theorem Action.text?_link (elseIndex : Option Int) (endIndex : Int) (a : Action) :
    (a.link elseIndex endIndex).text? = a.text? := by
  cases a <;> rfl

theorem Action.text?_opener (kind : BlockKind) (ref : Ref) (slot : Int) :
    (Action.opener kind ref slot).text? = none := by
  cases kind <;> rfl

namespace Merged

variable {texts : List (Option Text)} {before value : Text}

theorem empty : Merged [] := ⟨List.not_mem_nil, .nil⟩

theorem snoc_none (h : Merged texts) : Merged (texts ++ [none]) where
  not_empty hmem := by
    rcases List.mem_append.mp hmem with hmem | hmem
    · exact h.not_empty hmem
    · cases List.mem_singleton.mp hmem
  apart := by
    refine h.apart.append (.singleton _) fun t _ u hu => .inr ?_
    exact (Option.some.inj hu).symm

theorem snoc_some (h : Merged texts) (hvalue : value ≠ [])
    (hlast : ∀ last, texts.getLast? ≠ some (some last)) : Merged (texts ++ [some value]) where
  not_empty hmem := by
    rcases List.mem_append.mp hmem with hmem | hmem
    · exact h.not_empty hmem
    · exact hvalue (Option.some.inj (List.mem_singleton.mp hmem)).symm
  apart := by
    refine h.apart.append (.singleton _) fun t ht u _ => .inl ?_
    cases t with
    | none => rfl
    | some last => exact absurd ht (hlast last)

theorem replace_last (h : Merged (texts ++ [some before])) (hvalue : value ≠ []) :
    Merged (texts ++ [some value]) := by
  obtain ⟨happart, -, hseam⟩ := List.isChain_append.mp h.apart
  refine snoc_some ⟨fun hmem => h.not_empty (List.mem_append_left _ hmem), happart⟩ hvalue ?_
  intro last hlast
  cases hseam _ hlast _ rfl <;> contradiction

end Merged

namespace Draft

variable {d : Draft}

/-- What each operation of the draft puts out literally, if it does. -/
def texts (d : Draft) : List (Option Text) := Op.texts d.ops.toList

theorem texts_push (ops : Array Op) (op : Op) :
    Op.texts (ops.push op).toList = Op.texts ops.toList ++ [op.action.text?] := by
  rw [Array.toList_push, Op.texts, List.map_append]
  rfl

theorem texts_linkAt (index : Nat) (elseIndex : Option Nat) (endIndex : Nat) (ops : Array Op) :
    Op.texts (linkAt index elseIndex endIndex ops).toList = Op.texts ops.toList :=
  map_linkAt Action.text?_link index elseIndex endIndex ops

theorem texts_emit (d : Draft) (place : Position) (action : Action) :
    (d.emit place action).texts = d.texts ++ [action.text?] := texts_push _ _

theorem texts_openBlock (d : Draft) (place : Position) (kind : BlockKind) (name : Text) :
    (d.openBlock place kind name).texts = d.texts ++ [none] := by
  refine (texts_push _ _).trans ?_
  rw [Action.text?_opener]
  rfl

/-- The draft has a text at its end that grows by what is appended, or begins with it. -/
theorem exists_appendText (d : Draft) (place : Position) :
    ∃ (ops : Array Op) (start : Position) (before : Text), ∀ value, value ≠ [] →
      d.appendText place value = { d with ops := ops.push ⟨start, .text (before ++ value)⟩ } := by
  by_cases hback : ∃ start before, d.ops.back? = some ⟨start, .text before⟩
  · obtain ⟨start, before, hback⟩ := hback
    refine ⟨d.ops.pop, start, before, fun value hvalue => ?_⟩
    rw [appendText, if_neg (by simpa using hvalue), hback]
  · refine ⟨d.ops, place, [], fun value hvalue => ?_⟩
    rw [appendText, if_neg (by simpa using hvalue)]
    split
    · next start before heq => exact absurd ⟨start, before, heq⟩ hback
    · rfl

theorem appendText_nil (d : Draft) (place : Position) : d.appendText place [] = d := rfl

/-- Text appended after text is one text, in the place of the first. -/
theorem appendText_appendText (d : Draft) (place later : Position) {value : Text}
    (hvalue : value ≠ []) (more : Text) :
    (d.appendText place value).appendText later more = d.appendText place (value ++ more) := by
  obtain ⟨ops, start, before, hd⟩ := d.exists_appendText place
  cases more with
  | nil => rw [appendText_nil, List.append_nil]
  | cons c more =>
      rw [hd _ hvalue, hd _ (List.append_ne_nil_of_left_ne_nil hvalue _), appendText,
        List.isEmpty_cons, if_neg Bool.false_ne_true]
      simp only [Array.back?_push, Array.pop_push, List.append_assoc]

/-! ## The normal form -/

theorem merged_appendText (h : Merged d.texts) (place : Position) (value : Text) :
    Merged (d.appendText place value).texts := by
  unfold appendText
  split
  · exact h
  · next hvalue =>
      have hvalue : value ≠ [] := by simpa using hvalue
      split
      · next start before hback =>
          obtain ⟨ops, hops⟩ : ∃ ops : Array Op, d.ops = ops.push ⟨start, .text before⟩ :=
            Array.back?_eq_some_iff.mp hback
          simp only [texts, hops, Array.pop_push, texts_push] at h ⊢
          exact h.replace_last (List.append_ne_nil_of_right_ne_nil _ hvalue)
      · next hback =>
          rw [texts_emit]
          refine h.snoc_some hvalue fun last hlast => ?_
          rw [texts, Op.texts, List.getLast?_map, Option.map_eq_some_iff] at hlast
          obtain ⟨⟨start, action⟩, hop, haction⟩ := hlast
          cases action with
          | text before => exact hback start before ((Array.getLast?_toList _).symm.trans hop)
          | _ => cases haction

theorem merged_openElse (h : Merged d.texts) (place : Position) :
    Merged (d.openElse place).texts := by
  unfold openElse
  split
  · exact h
  · exact (d.texts_emit place _).symm ▸ h.snoc_none

theorem merged_closeBlock (h : Merged d.texts) (place : Position) :
    Merged (d.closeBlock place).texts := by
  unfold closeBlock
  split
  · exact h
  · simp only [texts]
    split
    · rw [texts_linkAt, texts_linkAt, texts_push]
      exact h.snoc_none
    · rw [texts_linkAt, texts_push]
      exact h.snoc_none

end Draft

namespace Compilation

variable {c : Compilation} {d d' : Draft} {t : Token} {ts tokens : List Token}

theorem merged_of_apply (h : Merged d.texts) (happly : (c.apply d t).result = .ok d') :
    Merged d'.texts := by
  unfold apply at happly
  cases ht : t.content with
  | text value =>
      rw [ht] at happly
      cases happly
      exact d.merged_appendText h _ _
  | output name =>
      rw [ht] at happly
      cases happly
      exact (d.texts_emit _ _).symm ▸ h.snoc_none
  | opening kind name =>
      rw [ht] at happly
      cases happly
      exact (d.texts_openBlock _ _ _).symm ▸ h.snoc_none
  | otherwise =>
      rw [ht] at happly
      cases happly
      split
      · exact h
      · exact d.merged_openElse h _
  | closing word =>
      rw [ht] at happly
      cases happly
      exact d.merged_closeBlock h _
  | inclusion name =>
      rw [ht] at happly
      obtain ⟨text, -, happly⟩ := Traced.result_bind_eq_ok.mp happly
      cases happly
      exact d.merged_appendText h _ _

theorem merged_of_steps (h : Merged d.texts) (hsteps : (c.steps d ts).result = .ok d') :
    Merged d'.texts := by
  induction ts generalizing d with
  | nil =>
      cases hsteps
      exact h
  | cons t ts ih =>
      obtain ⟨d₁, hstep, hsteps⟩ := Traced.result_bind_eq_ok.mp hsteps
      exact ih (merged_of_apply h (result_apply_of_step hstep)) hsteps

theorem merged_of_closeAll {blocks : List OpenBlock} (h : Merged d.texts)
    (hclose : (c.closeAll d blocks).result = .ok d') : Merged d'.texts := by
  induction blocks generalizing d with
  | nil =>
      cases hclose
      exact h
  | cons block blocks ih =>
      obtain ⟨-, -, hclose⟩ := Traced.result_bind_eq_ok.mp hclose
      exact ih (d.merged_closeBlock h _) hclose

theorem merged_of_compile {p : Program} (h : (c.compile tokens).result = .ok p) : p.Merged := by
  obtain ⟨d₁, hsteps, h⟩ := Traced.result_bind_eq_ok.mp h
  obtain ⟨d₂, hclose, h⟩ := Traced.result_bind_eq_ok.mp h
  cases h
  exact merged_of_closeAll (merged_of_steps (d := .empty) .empty hsteps) hclose

/-! ## Pieces of a text -/

/-- The compilation ignores the token in open blocks: it tolerates the tag, and its repair is to
leave it out. -/
def Ignores (c : Compilation) (blocks : List Opened) (t : Token) : Prop :=
  c.strict = false ∧ ∃ issue, t.edit blocks = .delete t issue

theorem result_step_of_ignores (h : c.Ignores d.opened t) : (c.step d t).result = .ok d := by
  obtain ⟨hc, issue, hedit⟩ := h
  cases hissue : t.issue? d.opened with
  | none =>
      rw [Token.edit_of_fits hissue] at hedit
      cases hedit
  | some issue' =>
      rw [step_of_tolerant hc hissue, Traced.result_bind, Traced.result_emit, Traced.ok_bind]
      obtain ⟨-, -, ht | ht⟩ | ⟨_, _, _, -, -, hreplace⟩ := Token.edit_of_issue hissue
      · have hstray : (Opened.elseIssue? d.opened).isSome := by
          rw [Token.issue?, ht] at hissue
          exact Option.isSome_of_eq_some hissue
        rw [apply_of_deleted (.inl ⟨ht, hstray⟩)]
        rfl
      · rw [apply_of_deleted (.inr ht)]
        rfl
      · cases hreplace.symm.trans hedit

end Compilation

/-- The tokens are pieces of a text, of which the first that is not empty is at a place, and in
between tokens that are idle. -/
inductive Token.Pieces (idle : Token → Prop) : Position → Text → List Token → Prop
  | nil {place : Position} : Pieces idle place [] []
  | idle {place : Position} {text : Text} {t : Token} {ts : List Token} :
      idle t → Pieces idle place text ts → Pieces idle place text (t :: ts)
  | empty {place : Position} {text : Text} {t : Token} {ts : List Token} :
      t.content = .text [] → Pieces idle place text ts → Pieces idle place text (t :: ts)
  | piece {later : Position} {value rest : Text} {t : Token} {ts : List Token} :
      t.content = .text value → value ≠ [] → Pieces idle later rest ts →
      Pieces idle t.position (value ++ rest) (t :: ts)

namespace Compilation

variable {c : Compilation} {d : Draft} {t : Token} {ts tokens : List Token} {place : Position}
  {text : Text}

theorem step_of_text (h : t.content = .text text) :
    c.step d t = pure (d.appendText t.position text) := by
  rw [step, h]

/-- Pieces of a text have the effect of the text. -/
theorem steps_pieces (h : Token.Pieces (c.Ignores d.opened) place text ts) :
    (c.steps d ts).result = .ok (d.appendText place text) := by
  generalize hidle : c.Ignores d.opened = idle at h
  induction h generalizing d with
  | nil => rfl
  | idle hignored _ ih =>
      rw [steps, Traced.result_bind, result_step_of_ignores (hidle ▸ hignored)]
      exact ih hidle
  | empty hempty _ ih =>
      rw [steps, step_of_text hempty]
      exact ih hidle
  | piece hvalue hne _ ih =>
      rw [steps, step_of_text hvalue, ← d.appendText_appendText _ _ hne]
      exact ih ((congrArg c.Ignores (d.opened_appendText _ _)).trans hidle)

/-- **Texts are merged into a normal form.**  In a program no text operation is empty and none
comes right after another, and it makes no difference to the result of a compilation if a text
stands among the tokens as it is or in pieces, with tags between them that are ignored there. -/
theorem merged_normal_form (c : Compilation) :
    (∀ tokens p, (c.compile tokens).result = .ok p → p.Merged) ∧
    ∀ before t after text pieces, t.content = .text text →
      Token.Pieces (c.Ignores (Token.openAfter [] before)) t.position text pieces →
      (c.compile (before ++ pieces ++ after)).result =
        (c.compile (before ++ t :: after)).result := by
  refine ⟨fun tokens p => merged_of_compile, fun before t after text pieces ht hpieces => ?_⟩
  rw [result_compile, result_compile, List.append_assoc, steps_append, steps_append,
    Traced.result_bind, Traced.result_bind]
  cases hbefore : (c.steps .empty before).result with
  | error e => rfl
  | ok d =>
      have hopened : d.opened = Token.openAfter [] before := opened_of_steps hbefore
      rw [Traced.ok_bind, Traced.ok_bind, steps_append, Traced.result_bind,
        steps_pieces (hopened ▸ hpieces), steps, step_of_text ht]
      rfl

/-- A text in an empty piece and two more, with an else between them that comes too late. -/
theorem merged_around_second_else :
    let c : Compilation := ⟨false, none, .outermost none, .null⟩
    let before : List Token := [⟨.opening .ifBlock "a", ⟨1, 0⟩, .plain⟩,
      ⟨.otherwise, ⟨1, 11⟩, .plain⟩]
    let t : Token := ⟨.text "bc", ⟨1, 22⟩, .plain⟩
    let pieces : List Token := [⟨.text "", ⟨1, 21⟩, .plain⟩, ⟨.text "b", ⟨1, 22⟩, .plain⟩,
      ⟨.otherwise, ⟨1, 23⟩, .plain⟩, ⟨.text "c", ⟨1, 34⟩, .plain⟩]
    let p : Program :=
      ⟨#[⟨⟨1, 0⟩, .branch false ⟨[], ["a"]⟩ (some 1) 3⟩, ⟨⟨1, 11⟩, .alternative 3⟩,
        ⟨⟨1, 22⟩, .text "bc"⟩, ⟨⟨1, 0⟩, .finish "if" 0⟩], none⟩
    Token.Pieces (c.Ignores (Token.openAfter [] before)) t.position "bc" pieces ∧
    (c.compile (before ++ pieces ++ [])).result = .ok p ∧ p.Merged := by
  intro c before t pieces p
  have hlast : Token.Pieces (c.Ignores (Token.openAfter [] before)) ⟨1, 34⟩ "c" (pieces.drop 2) :=
    .idle ⟨rfl, .secondElse .ifBlock 1, rfl⟩
      (@Token.Pieces.piece _ ⟨1, 34⟩ "c" [] ⟨.text "c", ⟨1, 34⟩, .plain⟩ [] rfl (by decide) .nil)
  have hpieces : Token.Pieces (c.Ignores (Token.openAfter [] before)) t.position "bc" pieces :=
    .empty rfl (@Token.Pieces.piece _ ⟨1, 34⟩ "b" "c" ⟨.text "b", ⟨1, 22⟩, .plain⟩ _ rfl
      (by decide) hlast)
  have hwhole : (c.compile (before ++ t :: [])).result = .ok p := rfl
  have hcut := (merged_normal_form c).2 before t [] "bc" pieces rfl hpieces
  exact ⟨hpieces, hcut.trans hwhole, (merged_normal_form c).1 _ p hwhole⟩

end Compilation

end TagTemplate
