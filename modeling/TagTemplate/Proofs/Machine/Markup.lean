/-
# Markup — no value puts any out

The characters that mean something in markup are the brackets and the two quotation
marks.  Escaped for HTML a text has none of them.  So, where every variable of a
program is escaped for HTML, those in its output stand in its own texts, whatever the
data:

    a run               as it is
    the same run, for   the same steps, with the same loops;
    values that put     what is put out comes from texts of the program,
    out nothing         and its markup is that of the other

The second run follows the first step by step (`m.Follows s s'`), though the two put out
different texts, because no step looks at what was put out before.
-/
import TagTemplate.Proofs.Machine.Moves
import TagTemplate.Proofs.Meaning.Run

namespace TagTemplate

/-! ## Markup of texts -/

/-- A bracket or a quotation mark. -/
def CodePoint.isMarkup (c : CodePoint) : Bool :=
  [ofChar '<', ofChar '>', ofChar '\x22', ofChar '\x27'].contains c

namespace Text

/-- The brackets and quotation marks of a text, in order. -/
def markup (t : Text) : Text := t.filter CodePoint.isMarkup

theorem markup_append (t u : Text) : (t ++ u).markup = t.markup ++ u.markup :=
  List.filter_append ..

theorem isMarkup_of_mem_htmlEscaped {c d : CodePoint} (h : d ∈ c.htmlEscaped) :
    d.isMarkup = false := by
  rw [CodePoint.htmlEscaped] at h
  cases hentity : htmlEntities.lookup c with
  | some entity =>
      rw [hentity] at h
      obtain ⟨front, back, heq, -⟩ := List.lookup_eq_some_iff.mp hentity
      have hentities : ∀ e ∈ htmlEntities, ∀ d ∈ e.2, CodePoint.isMarkup d = false := by decide
      exact hentities (c, entity) (heq ▸ List.mem_append_right _ List.mem_cons_self) d h
  | none =>
      rw [hentity] at h
      obtain rfl := List.mem_singleton.mp h
      rw [Bool.eq_false_iff]
      intro hmarkup
      have hescaped : ∀ c ∈ [CodePoint.ofChar '<', .ofChar '>', .ofChar '\x22', .ofChar '\x27'],
          htmlEntities.lookup c ≠ none := by decide
      exact hescaped d (List.contains_iff_mem.mp hmarkup) hentity

/-- A text as it is written in markup has no markup of its own. -/
theorem markup_htmlEscaped (t : Text) : t.htmlEscaped.markup = [] := by
  refine List.filter_eq_nil_iff.mpr fun d hd => ?_
  obtain ⟨c, -, hd⟩ := List.mem_flatMap.mp hd
  rw [isMarkup_of_mem_htmlEscaped hd]
  exact Bool.false_ne_true

end Text

/-! ## Runs side by side -/

/-- The table whose one escaper, for HTML, always gives the empty text. -/
def EscapeTable.silent : EscapeTable where
  plain := none
  html := some fun _ => .ok []
  url := none

/-- Every variable of the program is escaped for HTML. -/
def Program.EscapesHtml (p : Program) : Prop :=
  ∀ op ∈ p.ops, ∀ ref escape, op.action = .output ref escape → escape = .html

namespace Machine.Setup

variable {m : Setup} {s s₁ s' : State} {a : Action} {fuel : Nat} {text : Text}

theorem mem_of_opAt? {i : Int} {op : Op} (h : m.opAt? i = some op) : op ∈ m.program.ops := by
  unfold opAt? at h
  dsimp only at h
  generalize (if i < 0 then i + (m.program.size : Int) else i) = index at h
  split at h
  · exact Array.mem_of_getElem? h
  · cases h

/-- The same program and data, for variables that put out nothing. -/
def silent (m : Setup) : Setup := { m with escapers := .silent }

/-- A state of the silent run follows one of the other: it is at the same position in the same
loops, with the same markup put out, and that by texts of the program. -/
structure Follows (m : Setup) (s s' : State) : Prop where
  pc : s'.pc = s.pc
  loops : s'.loops = s.loops
  markup : s'.written.markup = s.written.markup
  own : ∀ piece ∈ s'.output, piece = [] ∨ ∃ op ∈ m.program.ops, op.action = .text piece

theorem follows_initial (m : Setup) : m.Follows .initial .initial := ⟨rfl, rfl, rfl, nofun⟩

theorem Follows.put (h : m.Follows s s') {t t' : Text} (ht : t'.markup = t.markup)
    (hown : t' = [] ∨ ∃ op ∈ m.program.ops, op.action = .text t') :
    m.Follows (s.put t).advance (s'.put t').advance where
  pc := congrArg (· + 1) h.pc
  loops := h.loops
  markup := by
    show (s'.put t').written.markup = (s.put t).written.markup
    rw [State.written_put, State.written_put, Text.markup_append, Text.markup_append, h.markup, ht]
  own := List.forall_mem_cons.mpr ⟨hown, h.own⟩

/-! What puts nothing out looks at nothing that was put out, nor at the escapers. -/

variable [Traits]

theorem startLoop_silent {ref : Ref} {slot endIndex : Int}
    (hs : m.startLoop s ref slot endIndex = .ok s₁) (output : List Text) :
    m.silent.startLoop { s with output } ref slot endIndex = .ok { s₁ with output } ∧
      s₁.output = s.output := by
  obtain ⟨value, hvalue, hs⟩ := Traced.bind_eq_ok.mp hs
  have hvalue' : m.silent.resolve { s with output } ref = .ok value := hvalue
  simp only [startLoop, hvalue', Traced.ok_bind]
  split at hs
  · next items hitems =>
      by_cases hlength : items.length = 0 <;> simp only [hlength, if_true, if_false] at hs ⊢ <;>
        cases hs <;> exact ⟨rfl, rfl⟩
  · cases hs
    exact ⟨rfl, rfl⟩

omit [Traits] in
theorem endLoop_silent {start : Int} (hs : m.endLoop s start = .ok s₁) (output : List Text) :
    m.silent.endLoop { s with output } start = .ok { s₁ with output } ∧
      s₁.output = s.output := by
  have hop : m.silent.opAt? start = m.opAt? start := rfl
  have hloop (slot : Int) : State.loop? { s with output } slot = s.loop? slot := rfl
  unfold endLoop at hs ⊢
  simp only [hop, hloop]
  split at hs
  · cases hs
  · split at hs
    · cases hs
    · next l hl =>
        obtain ⟨n, hn, hs⟩ := Traced.bind_eq_ok.mp hs
        simp only [hn, Traced.ok_bind]
        by_cases hindex : l.index + 1 < n <;> simp only [hindex, if_true, if_false] at hs ⊢ <;>
          cases hs <;> exact ⟨rfl, rfl⟩
  · cases hs

theorem perform_silent (htext : ∀ value, a ≠ .text value)
    (houtput : ∀ ref escape, a ≠ .output ref escape) (hs : m.perform s a = .ok s₁)
    (output : List Text) :
    m.silent.perform { s with output } a = .ok { s₁ with output } ∧ s₁.output = s.output := by
  cases a with
  | text value => exact absurd rfl (htext value)
  | output ref escape => exact absurd rfl (houtput ref escape)
  | branch negated ref elseIndex endIndex =>
      obtain ⟨passes, hpasses, hs⟩ := Traced.bind_eq_ok.mp hs
      have hpasses' : m.silent.passes { s with output } negated ref = .ok passes := hpasses
      simp only [Setup.perform, hpasses', Traced.ok_bind]
      cases passes <;> cases hs <;> exact ⟨rfl, rfl⟩
  | alternative endIndex =>
      cases hs
      exact ⟨rfl, rfl⟩
  | loop ref slot endIndex => exact startLoop_silent hs output
  | finish word start =>
      simp only [Setup.perform] at hs ⊢
      split at hs
      · next hword =>
          rw [if_pos hword]
          exact endLoop_silent hs output
      · next hword =>
          rw [if_neg hword]
          cases hs
          exact ⟨rfl, rfl⟩
  | inert => cases hs

/-- What an operation does is done in the silent run too. -/
theorem Follows.perform (hm : m.escapers = .standard) (h : m.Follows s s')
    (htext : ∀ value, a = .text value → ∃ op ∈ m.program.ops, op.action = a)
    (hhtml : ∀ ref escape, a = .output ref escape → escape = .html)
    (hs : m.perform s a = .ok s₁) : ∃ s₁', m.silent.perform s' a = .ok s₁' ∧ m.Follows s₁ s₁' := by
  obtain ⟨pc, output', loops⟩ := s'
  obtain rfl : pc = s.pc := h.pc
  obtain rfl : loops = s.loops := h.loops
  -- Only a text and a variable put something out; the rest is the same whatever was put out.
  by_cases hout : (∃ value, a = .text value) ∨ ∃ ref escape, a = .output ref escape
  · rcases hout with ⟨value, rfl⟩ | ⟨ref, escape, rfl⟩
    · cases hs
      exact ⟨_, rfl, h.put rfl (.inr (htext value rfl))⟩
    · obtain rfl := hhtml ref escape rfl
      obtain ⟨value, hvalue, hs⟩ := Traced.bind_eq_ok.mp hs
      obtain ⟨t, ht, hs⟩ := Traced.bind_eq_ok.mp hs
      rw [hm] at hs
      cases hs
      have hvalue' : m.silent.resolve { s with output := output' } ref = .ok value := hvalue
      have hmarkup : Text.markup [] = t.htmlEscaped.markup := t.markup_htmlEscaped.symm
      refine ⟨_, ?_, h.put hmarkup (.inl rfl)⟩
      simp only [Setup.perform, Setup.output, hvalue', ht, Traced.ok_bind]
      rfl
  · simp only [not_or, not_exists] at hout
    obtain ⟨hperform, houtput⟩ := perform_silent hout.1 hout.2 hs output'
    refine ⟨_, hperform, rfl, rfl, ?_, h.own⟩
    rw [State.written, State.written, houtput]
    exact h.markup

theorem Follows.step (hm : m.escapers = .standard) (hp : m.program.EscapesHtml)
    (h : m.Follows s s') (hs : m.step s = .running s₁) :
    ∃ s₁', m.silent.step s' = .running s₁' ∧ m.Follows s₁ s₁' := by
  have hop' : m.silent.opAt? s'.pc = m.opAt? s.pc := by rw [h.pc]; rfl
  have hsize : m.silent.program.size = m.program.size := rfl
  unfold Setup.step at hs ⊢
  rw [hop', hsize, h.pc]
  split at hs
  · cases hs
  · next hpc =>
      rw [if_neg hpc]
      split at hs
      · cases hs
      · next op hop =>
          have hmem : op ∈ m.program.ops := mem_of_opAt? hop
          split at hs
          · next s₂ hperform =>
              cases hs
              obtain ⟨s₁', hperform', hfollows⟩ := h.perform hm (fun _ _ => ⟨op, hmem, rfl⟩)
                (hp op hmem) hperform
              exact ⟨s₁', by simp only [hperform'], hfollows⟩
          · cases hs

/-- A run that ends is followed by one that ends. -/
theorem Follows.run (hm : m.escapers = .standard) (hp : m.program.EscapesHtml)
    (h : m.Follows s s') (hs : m.run fuel s = some (.ok text)) :
    ∃ pieces : List Text, m.silent.run fuel s' = some (.ok pieces.flatten) ∧
      Text.markup pieces.flatten = text.markup ∧
      ∀ piece ∈ pieces, piece = [] ∨ ∃ op ∈ m.program.ops, op.action = .text piece := by
  induction fuel generalizing s s' with
  | zero => cases hs
  | succ fuel ih =>
      unfold Setup.run at hs ⊢
      split at hs
      · next s₁ hstep =>
          obtain ⟨s₁', hstep', h₁⟩ := h.step hm hp hstep
          simp only [hstep']
          exact ih h₁ hs
      · next t hstep =>
          cases hs
          -- Both are past the last operation, and give what they have put out.
          have hend : m.program.size ≤ s.pc := size_le_of_finished hstep
          have hend' : m.silent.program.size ≤ s'.pc := by rw [h.pc]; exact hend
          have hstep' : m.silent.step s' = .finished s'.output.reverse.flatten := if_pos hend'
          obtain rfl : s.output.reverse.flatten = text := by
            have hfinished : m.step s = .finished s.output.reverse.flatten := if_pos hend
            rw [hfinished] at hstep
            cases hstep
            rfl
          refine ⟨s'.output.reverse, by simp only [hstep'], h.markup, fun piece hpiece => ?_⟩
          exact h.own piece (List.mem_reverse.mp hpiece)
      · cases hs

end Machine.Setup

namespace Program

open Machine Machine.Setup

section

variable [Traits]

/-- **No value puts markup out.**  Where every variable of a program is escaped for HTML, and the
program puts out a text for some data, it also does so with an escaper that always gives the empty
text; what it then puts out are texts of its own, and their brackets and quotation marks, in number
and order, are those of the first text. -/
theorem markup_execute {p : Program} (hp : p.EscapesHtml) {data : Value} {text : Text}
    (h : p.execute data .standard = .ok text) :
    ∃ pieces : List Text,
      (∀ piece ∈ pieces, piece = [] ∨ ∃ op ∈ p.ops, op.action = .text piece) ∧
      p.execute data .silent = .ok pieces.flatten ∧
      Text.markup pieces.flatten = text.markup := by
  let m : Setup := ⟨p, data, .standard⟩
  have hrun : m.run m.stepBound .initial = some (.ok text) := by
    have houtcome : (m.run m.stepBound .initial).getD (.error .endless) = .ok text := h
    revert houtcome
    cases m.run m.stepBound .initial with
    | none => exact nofun
    | some outcome => exact congrArg some
  obtain ⟨pieces, hsilent, hmarkup, hown⟩ := (follows_initial m).run rfl hp hrun
  refine ⟨pieces, hown, ?_, hmarkup⟩
  show (m.silent.run m.stepBound .initial).getD _ = _
  rw [hsilent]
  rfl

end

attribute [local instance] Traits.bare

/-- A row whose value is markup, and a row without one. -/
theorem markup_two_rows :
    let c : Compilation := ⟨false, none, .outermost none, .null⟩
    let tokens : List Token :=
      [⟨.opening .loopBlock "rows", ⟨1, 0⟩, .plain⟩, ⟨.text "<i>", ⟨1, 17⟩, .plain⟩,
        ⟨.output "v", ⟨1, 20⟩, .html⟩, ⟨.text "</i>", ⟨1, 44⟩, .plain⟩,
        ⟨.closing "loop", ⟨1, 48⟩, .plain⟩]
    let rows : List Value := [.dict [(.text "v", .text "<b class='x'>")], .dict []]
    let data : Value := .dict [(.text "rows", .list rows)]
    let p : Program :=
      ⟨#[⟨⟨1, 0⟩, .loop ⟨[], ["rows"]⟩ 1 4⟩, ⟨⟨1, 17⟩, .text "<i>"⟩,
        ⟨⟨1, 20⟩, .output ⟨[⟨["rows"], 1⟩], ["v"]⟩ .html⟩, ⟨⟨1, 44⟩, .text "</i>"⟩,
        ⟨⟨1, 48⟩, .finish "loop" 0⟩], none⟩
    let text : Text := "<i>&lt;b class=&#39;x&#39;&gt;</i><i></i>"
    (c.compile tokens).result = .ok p ∧ p.EscapesHtml ∧ p.execute data .standard = .ok text ∧
      ∃ pieces : List Text,
        (∀ piece ∈ pieces, piece = [] ∨ ∃ op ∈ p.ops, op.action = .text piece) ∧
        p.execute data .silent = .ok pieces.flatten ∧
        Text.markup pieces.flatten = "<><><><>" := by
  intro c tokens rows data p text
  have hcompile : (c.compile tokens).result = .ok p := by rfl
  have hhtml : p.EscapesHtml := by
    intro op hop ref escape hact
    simp only [p, List.mem_toArray, List.mem_cons, List.not_mem_nil, or_false] at hop
    rcases hop with rfl | rfl | rfl | rfl | rfl <;> cases hact
    rfl
  have htext : p.execute data .standard = .ok text := by rfl
  have hmarkup : text.markup = "<><><><>" := by decide
  exact ⟨hcompile, hhtml, htext, hmarkup ▸ markup_execute hhtml htext⟩

end Program

end TagTemplate
