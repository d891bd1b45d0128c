/-
# Repair — what tolerance does, as a change of the tokens

A tolerant compilation gives the program that a strict one gives for repaired
tokens.  The repair goes through the tokens with a stack of open blocks and
edits them one by one:

    token         open blocks                        edit
    else          none, or the innermost is a loop   deleted
    else          the innermost has an else          deleted
    closing tag   none                               deleted
    closing tag   the innermost is of another kind   replaced by its closing tag
    any other                                        kept
    the end       one closing tag for each, innermost first, at its opening tag

What a tolerant compilation reports is one warning for each edit that is not
`keep`, in the order of the edits (`Compilation.trail`).
-/
import TagTemplate.Proofs.Compile.Matching

namespace TagTemplate

/-- What becomes of a token. -/
inductive Edit where
  | keep (t : Token)
  | delete (t : Token) (issue : Issue)
  | replace (t new : Token) (issue : Issue)
  | append (new : Token) (issue : Issue)

/-- What stands in place of the token. -/
def Edit.token? : Edit → Option Token
  | keep t => some t
  | delete _ _ => none
  | replace _ new _ => some new
  | append new _ => some new

namespace Token

/-- What becomes of a token in open blocks, which are given innermost first. -/
def edit (t : Token) (blocks : List Opened) : Edit :=
  match t.content, blocks with
  | .otherwise, [] => .delete t .strayElse
  | .otherwise, block :: _ =>
    if block.kind = .loopBlock then .delete t .strayElse
    else if block.hasElse then .delete t (.secondElse block.kind block.place.line)
    else .keep t
  | .closing word, [] => .delete t (.strayClose word)
  | .closing word, block :: _ =>
    if block.kind.word = word then .keep t
    else .replace t { t with content := .closing block.kind.word }
      (.wrongClose word block.kind block.place.line)
  | _, _ => .keep t

/-- The closing tag that is missing for a block. -/
def missingClose (block : Opened) : Token := ⟨.closing block.kind.word, block.place, .plain⟩

/-- What becomes of tokens within open blocks. -/
def edits (blocks : List Opened) : List Token → List Edit
  | [] => blocks.map fun block => .append (missingClose block) (.unclosed block.kind)
  | t :: ts => t.edit blocks :: edits (t.pass blocks) ts

def repairWithin (blocks : List Opened) (ts : List Token) : List Token :=
  (edits blocks ts).filterMap Edit.token?

def repair (ts : List Token) : List Token := repairWithin [] ts

theorem repairWithin_cons (blocks : List Opened) (t : Token) (ts : List Token) :
    repairWithin blocks (t :: ts) =
      (t.edit blocks).token?.toList ++ repairWithin (t.pass blocks) ts := by
  simp only [repairWithin, edits, List.filterMap_cons]
  cases (t.edit blocks).token? <;> rfl

/-! ## One token -/

theorem edit_of_fits {t : Token} {blocks : List Opened} (h : t.issue? blocks = none) :
    t.edit blocks = .keep t := by
  unfold issue? at h
  unfold edit
  cases hc : t.content with
  | otherwise =>
      cases blocks with
      | nil => rw [hc] at h; cases h
      | cons block blocks =>
          obtain ⟨hk, he⟩ := Opened.elseIssue?_eq_none.mp (by simpa [hc] using h)
          simp [hk, he]
  | closing word =>
      cases blocks with
      | nil => rw [hc] at h; cases h
      | cons block blocks =>
          have hw := Opened.closeIssue?_eq_none.mp (show Opened.closeIssue? word _ = none by
            simpa [hc] using h)
          simp [hw]
  | _ => rfl

theorem edit_of_issue {t : Token} {blocks : List Opened} {issue : Issue}
    (h : t.issue? blocks = some issue) :
    (t.edit blocks = .delete t issue ∧ t.pass blocks = blocks ∧
      (t.content = .otherwise ∨ ∃ word, t.content = .closing word ∧ blocks = [])) ∨
    ∃ word block outer, t.content = .closing word ∧ blocks = block :: outer ∧
      t.edit blocks = .replace t { t with content := .closing block.kind.word } issue := by
  unfold issue? at h
  unfold edit pass
  cases hc : t.content with
  | otherwise =>
      have hi : Opened.elseIssue? blocks = some issue := by simpa [hc] using h
      refine .inl ⟨?_, by simp [hi], .inl rfl⟩
      cases blocks with
      | nil => cases hi; rfl
      | cons block blocks =>
          simp only [Opened.elseIssue?] at hi
          split at hi
          · next hk => cases hi; simp [hk]
          · next hk =>
              split at hi <;> cases hi
              next he => simp [hk, he]
  | closing word =>
      cases blocks with
      | nil =>
          rw [hc] at h
          cases h
          exact .inl ⟨rfl, rfl, .inr ⟨word, rfl, rfl⟩⟩
      | cons block blocks =>
          have hi : Opened.closeIssue? word (block :: blocks) = some issue := by simpa [hc] using h
          simp only [Opened.closeIssue?] at hi
          split at hi <;> cases hi
          next hw => exact .inr ⟨word, block, blocks, rfl, rfl, by simp [hw]⟩
  | _ => rw [hc] at h; cases h

end Token

namespace Compilation

open Token

variable (c : Compilation)

/-- The compilation that reports issues and goes on. -/
def tolerant : Compilation := { c with strict := false }

/-- The compilation that stops at the first issue. -/
def stopping : Compilation := { c with strict := true }

/-- What is left of a compilation: tokens, then the end. -/
def rest (d : Draft) (ts : List Token) : Traced Draft :=
  c.steps d ts >>= fun d => c.closeAll d d.blocks

/-- What a tolerant compilation reports on an edit; an include reports what it meets. -/
def trail : Edit → List Event
  | .keep t => match t.content with
    | .inclusion name => (c.fetchText name).events
    | _ => []
  | .delete t issue | .replace t _ issue | .append t issue =>
    [.tolerated c.context.name t.position.line issue]

variable {c} {d d' : Draft} {t : Token} {ts : List Token}

theorem rest_nil : c.rest d [] = c.closeAll d d.blocks := rfl

theorem rest_cons : c.rest d (t :: ts) = c.step d t >>= fun d => c.rest d ts :=
  Traced.bind_assoc ..

theorem rest_append (us : List Token) :
    c.rest d (ts ++ us) = c.steps d ts >>= fun d => c.rest d us := by
  rw [rest, steps_append, Traced.bind_assoc]
  rfl

theorem result_rest_append {us : List Token} (h : (c.steps d ts).result = .ok d') :
    (c.rest d (ts ++ us)).result = (c.rest d' us).result := by
  rw [rest_append, Traced.result_bind, h]
  rfl

theorem apply_of_deleted (h : t.content = .otherwise ∧ (Opened.elseIssue? d.opened).isSome ∨
    ∃ word, t.content = .closing word ∧ d.opened = []) : c.apply d t = pure d := by
  unfold apply
  obtain ⟨ht, hi⟩ | ⟨word, ht, ho⟩ := h
  · rw [← d.elseIssue?_eq] at hi
    simp [ht, hi]
  · have hb : d.blocks = [] := List.map_eq_nil_iff.mp ho
    simp [ht, Draft.closeBlock, hb]

theorem apply_closing {word : Text} (ht : t.content = .closing word) (word' : Text) :
    c.apply d { t with content := .closing word' } = c.apply d t := by
  simp [apply, ht]

theorem events_apply : (c.apply d t).events = c.trail (.keep t) := by
  cases ht : t.content with
  | inclusion name =>
      simp only [apply, trail, ht]
      show ((c.fetchText name).andThen _).events = _
      cases h : (c.fetchText name).result <;> simp [Traced.andThen, h]
  | _ => simp only [apply, trail, ht]; rfl

theorem result_step_tolerant : (c.tolerant.step d t).result = (c.apply d t).result := by
  cases ht : t.issue? d.opened with
  | none => rw [step_of_fits ht]; rfl
  | some issue => rw [step_of_tolerant rfl ht]; rfl

theorem result_apply_eq_error {e : Error} (h : (c.apply d t).result = .error e) :
    ∃ name, t.content = .inclusion name ∧ (c.fetchText name).result = .error e := by
  unfold apply at h
  cases ht : t.content with
  | inclusion name =>
      simp only [ht, Traced.result_bind] at h
      cases hf : (c.fetchText name).result with
      | error e' => rw [hf] at h; cases h; exact ⟨name, rfl, hf⟩
      | ok text => rw [hf] at h; cases h
  | _ => rw [ht] at h; cases h

/-! ## The end -/

theorem rest_tolerant_nil :
    ∃ d', (c.tolerant.rest d []).result = .ok d' ∧
      (c.stopping.rest d (repairWithin d.opened [])).result = .ok d' ∧
      (c.tolerant.rest d []).events = (edits d.opened []).flatMap c.trail := by
  generalize hb : d.blocks = blocks
  induction blocks generalizing d with
  | nil =>
      have ho : d.opened = [] := by simp [Draft.opened, hb]
      simp only [rest_nil, ho, repairWithin, edits, List.map_nil, List.filterMap_nil,
        closeAll_of_closed ho]
      exact ⟨d, rfl, rfl, rfl⟩
  | cons block blocks ih =>
      have hb' : (d.closeBlock block.position).blocks = blocks := by simp [hb]
      obtain ⟨d', h₁, h₂, h₃⟩ := ih hb'
      have ho : d.opened = block.opened :: (d.closeBlock block.position).opened := by
        simp [Draft.opened, hb]
      have hs : c.stopping.step d (missingClose block.opened) =
          pure (d.closeBlock block.position) := by
        rw [step_of_fits (ho ▸ issue?_closing rfl)]
        rfl
      have hr : c.tolerant.rest d [] =
          Traced.emit (.tolerated c.context.name block.position.line (.unclosed block.kind)) >>=
            fun _ => c.tolerant.rest (d.closeBlock block.position) [] := by
        simp only [rest_nil, hb, hb']
        rfl
      refine ⟨d', by rw [hr]; exact h₁, ?_, ?_⟩
      · rw [ho]
        show (c.stopping.rest d (missingClose block.opened :: repairWithin _ [])).result = _
        rw [rest_cons, hs]
        exact h₂
      · rw [hr, ho, Traced.events_bind_of_ok _ rfl, h₃]
        rfl

/-! ## The tokens -/

/-- A strict compilation takes what stands in place of a token with the effect of the token. -/
theorem result_rest_edit :
    (c.stopping.rest d (repairWithin d.opened (t :: ts))).result =
      (c.apply d t).result >>= fun d' =>
        (c.stopping.rest d' (repairWithin (t.pass d.opened) ts)).result := by
  rw [repairWithin_cons]
  cases ht : t.issue? d.opened with
  | none =>
      rw [edit_of_fits ht]
      show (c.stopping.rest d (t :: _)).result = _
      rw [rest_cons, step_of_fits ht, Traced.result_bind]
      rfl
  | some issue =>
      obtain ⟨hedit, hpass, hwhy⟩ | ⟨word, block, outer, hw, ho, hedit⟩ := edit_of_issue ht
      · have happly : c.apply d t = pure d := by
          refine apply_of_deleted (hwhy.imp_left fun h => ⟨h, ?_⟩)
          simp only [issue?, h] at ht
          simp [ht]
        rw [hedit, hpass, happly]
        rfl
      · rw [hedit]
        show (c.stopping.rest d ({ t with content := .closing block.kind.word } :: _)).result = _
        rw [rest_cons, step_of_fits (ho ▸ issue?_closing rfl), Traced.result_bind,
          apply_closing hw]
        rfl

/-- A tolerant compilation of tokens has the result of a strict one of the repaired ones. -/
theorem result_rest_repair :
    (c.tolerant.rest d ts).result = (c.stopping.rest d (repairWithin d.opened ts)).result := by
  induction ts generalizing d with
  | nil =>
      obtain ⟨d', h₁, h₂, -⟩ := rest_tolerant_nil (c := c) (d := d)
      rw [h₁, h₂]
  | cons t ts ih =>
      rw [rest_cons, Traced.result_bind, result_step_tolerant, result_rest_edit]
      cases h : (c.apply d t).result with
      | error e => rfl
      | ok d' =>
          rw [Traced.ok_bind, Traced.ok_bind, ih, opened_of_apply h]

/-- What a tolerant compilation reports, if it gives a program. -/
theorem events_rest_tolerant (h : (c.tolerant.rest d ts).result = .ok d') :
    (c.tolerant.rest d ts).events = (edits d.opened ts).flatMap c.trail := by
  induction ts generalizing d with
  | nil =>
      obtain ⟨-, -, -, h⟩ := rest_tolerant_nil (c := c) (d := d)
      exact h
  | cons t ts ih =>
      rw [rest_cons] at h ⊢
      obtain ⟨d₁, h₁, h₂⟩ := Traced.result_bind_eq_ok.mp h
      rw [Traced.events_bind_of_ok _ h₁, ih h₂]
      show _ = c.trail (t.edit d.opened) ++ (edits (t.pass d.opened) ts).flatMap c.trail
      cases ht : t.issue? d.opened with
      | none =>
          rw [step_of_fits ht] at h₁ ⊢
          rw [edit_of_fits ht, opened_of_apply h₁, events_apply]
          rfl
      | some issue =>
          rw [step_of_tolerant rfl ht] at h₁ ⊢
          have happly : (c.tolerant.apply d t).result = .ok d₁ := h₁
          have hev : (c.tolerant.apply d t).events = [] := by
            rw [events_apply, trail]
            obtain ⟨-, -, hc | ⟨_, hc, -⟩⟩ | ⟨_, _, _, hc, -⟩ := edit_of_issue ht <;> simp [hc]
          rw [Traced.events_bind_of_ok _ rfl, hev, opened_of_apply happly]
          obtain ⟨hedit, -⟩ | ⟨_, _, _, -, -, hedit⟩ := edit_of_issue ht <;> rw [hedit] <;> rfl

theorem result_rest_tolerant_eq_error {e : Error} (h : (c.tolerant.rest d ts).result = .error e) :
    ∃ t ∈ ts, ∃ name, t.content = .inclusion name ∧ (c.fetchText name).result = .error e := by
  induction ts generalizing d with
  | nil =>
      obtain ⟨d', h', -⟩ := rest_tolerant_nil (c := c) (d := d)
      rw [h] at h'
      cases h'
  | cons t ts ih =>
      rw [rest_cons, Traced.result_bind, result_step_tolerant] at h
      cases happly : (c.apply d t).result with
      | error e' =>
          rw [happly] at h
          cases h
          obtain ⟨name, ht, hf⟩ := result_apply_eq_error happly
          exact ⟨t, List.mem_cons_self, name, ht, hf⟩
      | ok d' =>
          rw [happly] at h
          obtain ⟨u, hu, huf⟩ := ih h
          exact ⟨u, List.mem_cons_of_mem _ hu, huf⟩

/-! ## Whole compilations -/

theorem compile_eq_rest (c : Compilation) (tokens : List Token) :
    c.compile tokens = c.rest .empty tokens >>= fun d =>
      Traced.emit (.compiled c.context.name tokens.length d.ops.size) >>= fun _ =>
        pure ⟨d.ops, c.context.name⟩ :=
  (Traced.bind_assoc ..).symm

/-- **Tolerance is strictness after repair.**  A tolerant compilation has the result of the
strict one of the repaired tokens; that one fails only with an include; and a tolerant
compilation that gives a program has reported its includes and one warning for each edit. -/
theorem compile_tolerant_eq_compile_repair (c : Compilation) (tokens : List Token) :
    (c.tolerant.compile tokens).result = (c.stopping.compile (repair tokens)).result ∧
    (∀ e, (c.stopping.compile (repair tokens)).result = .error e →
      ∃ t ∈ tokens, ∃ name, t.content = .inclusion name ∧ (c.fetchText name).result = .error e) ∧
    ∀ p, (c.tolerant.compile tokens).result = .ok p →
      (c.tolerant.compile tokens).events =
        (edits [] tokens).flatMap c.trail ++ [.compiled c.context.name tokens.length p.size] := by
  have same : (c.tolerant.compile tokens).result = (c.stopping.compile (repair tokens)).result := by
    rw [compile_eq_rest, compile_eq_rest, Traced.result_bind, Traced.result_bind,
      result_rest_repair]
    rfl
  refine ⟨same, ?_, ?_⟩
  · intro e he
    rw [← same, compile_eq_rest, Traced.result_bind] at he
    cases hr : (c.tolerant.rest .empty tokens).result with
    | error e' =>
        rw [hr] at he
        cases he
        exact result_rest_tolerant_eq_error hr
    | ok d => rw [hr] at he; cases he
  · intro p hp
    rw [compile_eq_rest] at hp ⊢
    obtain ⟨d, hd, hp⟩ := Traced.result_bind_eq_ok.mp hp
    cases hp
    rw [Traced.events_bind_of_ok _ hd, events_rest_tolerant hd]
    rfl

end Compilation

end TagTemplate
