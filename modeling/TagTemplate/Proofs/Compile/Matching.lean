/-
# Block matching — what decides whether a tag fits

Whether a tag fits depends on little of a draft: the open blocks, and of each
its kind, the place of its opening tag and whether it has an else (`Opened`).
This module reads the compilation of one token as two actions, of which the
first looks at nothing else:

    c.step d t  =  c.reportAny t.position (t.issue? d.opened)  >>  c.apply d t

`apply` is the same for strict and tolerant compilations, and what it makes of
the open blocks is again a function of the open blocks and the token (`pass`).
-/
import TagTemplate.Compile
import TagTemplate.Proofs.Traced

namespace TagTemplate

/-- An open block, as far as the tags after it depend on it. -/
structure Opened where
  kind : BlockKind
  /-- The place of its opening tag. -/
  place : Position
  hasElse : Bool
deriving DecidableEq

namespace Opened

/-- What keeps an else from standing in open blocks, which are given innermost first. -/
def elseIssue? : List Opened → Option Issue
  | [] => some .strayElse
  | block :: _ =>
    if block.kind = .loopBlock then some .strayElse
    else if block.hasElse then some (.secondElse block.kind block.place.line)
    else none

/-- What is wrong with a closing tag in open blocks. -/
def closeIssue? (word : Text) : List Opened → Option Issue
  | [] => some (.strayClose word)
  | block :: _ =>
    if block.kind.word = word then none
    else some (.wrongClose word block.kind block.place.line)

/-- The open blocks after an else that fits them. -/
def withElse : List Opened → List Opened
  | [] => []
  | block :: blocks => { block with hasElse := true } :: blocks

theorem elseIssue?_eq_none {block : Opened} {blocks : List Opened} :
    elseIssue? (block :: blocks) = none ↔ block.kind ≠ .loopBlock ∧ block.hasElse = false := by
  by_cases hk : block.kind = .loopBlock
  · simp [elseIssue?, hk]
  · simp [elseIssue?, hk]

theorem closeIssue?_eq_none {word : Text} {block : Opened} {blocks : List Opened} :
    closeIssue? word (block :: blocks) = none ↔ block.kind.word = word := by
  simp [closeIssue?]

end Opened

namespace Token

/-- What is wrong with a token in open blocks. -/
def issue? (t : Token) (blocks : List Opened) : Option Issue :=
  match t.content with
  | .otherwise => Opened.elseIssue? blocks
  | .closing word => Opened.closeIssue? word blocks
  | _ => none

/-- The open blocks after a token, whether or not it fits them. -/
def pass (t : Token) (blocks : List Opened) : List Opened :=
  match t.content with
  | .opening kind _ => ⟨kind, t.position, false⟩ :: blocks
  | .otherwise =>
    if (Opened.elseIssue? blocks).isSome then blocks else Opened.withElse blocks
  | .closing _ => blocks.tail
  | _ => blocks

/-- The blocks that are open after tokens, whether or not each of them fits. -/
def openAfter (blocks : List Opened) (tokens : List Token) : List Opened :=
  tokens.foldl (fun blocks t => t.pass blocks) blocks

theorem issue?_closing {t : Token} {block : Opened} {blocks : List Opened}
    (ht : t.content = .closing block.kind.word) : t.issue? (block :: blocks) = none := by
  simp [issue?, ht, Opened.closeIssue?]

end Token

/-- An open block of a draft, without its indices. -/
def OpenBlock.opened (b : OpenBlock) : Opened := ⟨b.kind, b.position, b.elseIndex.isSome⟩

namespace Draft

def opened (d : Draft) : List Opened := d.blocks.map OpenBlock.opened

/-! ## The open blocks after each operation on drafts -/

@[simp] theorem opened_empty : empty.opened = [] := rfl

@[simp] theorem opened_emit (d : Draft) (position : Position) (action : Action) :
    (d.emit position action).opened = d.opened := rfl

@[simp] theorem blocks_appendText (d : Draft) (position : Position) (value : Text) :
    (d.appendText position value).blocks = d.blocks := by
  unfold appendText
  split
  · rfl
  · split <;> rfl

@[simp] theorem opened_appendText (d : Draft) (position : Position) (value : Text) :
    (d.appendText position value).opened = d.opened := by
  rw [opened, blocks_appendText, opened]

@[simp] theorem opened_openBlock (d : Draft) (position : Position) (kind : BlockKind)
    (name : Text) :
    (d.openBlock position kind name).opened = ⟨kind, position, false⟩ :: d.opened := rfl

@[simp] theorem blocks_closeBlock (d : Draft) (position : Position) :
    (d.closeBlock position).blocks = d.blocks.tail := by
  unfold closeBlock
  cases h : d.blocks with
  | nil => simp [h]
  | cons block blocks => simp

@[simp] theorem opened_closeBlock (d : Draft) (position : Position) :
    (d.closeBlock position).opened = d.opened.tail := by
  simp [opened]

@[simp] theorem opened_openElse (d : Draft) (position : Position) :
    (d.openElse position).opened = Opened.withElse d.opened := by
  unfold openElse
  cases h : d.blocks with
  | nil => simp [opened, h, Opened.withElse]
  | cons block blocks => simp [opened, h, Opened.withElse, OpenBlock.opened]

/-! ## The issues of a draft are those of its open blocks -/

theorem elseIssue?_eq (d : Draft) : d.elseIssue? = Opened.elseIssue? d.opened := by
  unfold elseIssue? Opened.elseIssue? opened
  cases d.blocks <;> rfl

theorem closeIssue?_eq (d : Draft) (word : Text) :
    d.closeIssue? word = Opened.closeIssue? word d.opened := by
  unfold closeIssue? Opened.closeIssue? opened
  cases d.blocks <;> rfl

end Draft

namespace Compilation

/-- The draft after a token, once its issue has been dealt with. -/
def apply (c : Compilation) (d : Draft) (t : Token) : Traced Draft :=
  match t.content with
  | .text value => pure (d.appendText t.position value)
  | .output name => pure (d.emit t.position (.output (d.scope.resolve name) t.escape))
  | .opening kind name => pure (d.openBlock t.position kind name)
  | .otherwise => pure (if d.elseIssue?.isSome then d else d.openElse t.position)
  | .closing _ => pure (d.closeBlock t.position)
  | .inclusion name => do
    let text ← c.fetchText name
    return d.appendText t.position text

/-- One token: its issue is reported, then it takes effect. -/
theorem step_eq (c : Compilation) (d : Draft) (t : Token) :
    c.step d t = c.reportAny t.position (t.issue? d.opened) >>= fun _ => c.apply d t := by
  unfold step apply Token.issue?
  cases t.content with
  | text value => rfl
  | output name => rfl
  | opening kind name => rfl
  | otherwise =>
      simp only [← d.elseIssue?_eq]
      cases d.elseIssue? <;> rfl
  | closing word => simp only [← d.closeIssue?_eq]
  | inclusion name => rfl

theorem step_of_fits {c : Compilation} {d : Draft} {t : Token} (h : t.issue? d.opened = none) :
    c.step d t = c.apply d t := by
  rw [step_eq, h]; rfl

theorem step_of_strict {c : Compilation} {d : Draft} {t : Token} {issue : Issue}
    (hc : c.strict = true) (h : t.issue? d.opened = some issue) :
    c.step d t = .fail (issue.error c.context t.position) := by
  rw [step_eq, h]
  simp only [reportAny, report, if_pos hc]
  rfl

theorem step_of_tolerant {c : Compilation} {d : Draft} {t : Token} {issue : Issue}
    (hc : c.strict = false) (h : t.issue? d.opened = some issue) :
    c.step d t =
      Traced.emit (.tolerated c.context.name t.position.line issue) >>= fun _ => c.apply d t := by
  rw [step_eq, h]
  simp only [reportAny, report, hc, Bool.false_eq_true, if_false]

theorem result_apply_of_step {c : Compilation} {d d' : Draft} {t : Token}
    (h : (c.step d t).result = .ok d') : (c.apply d t).result = .ok d' := by
  rw [step_eq] at h
  obtain ⟨-, -, h⟩ := Traced.result_bind_eq_ok.mp h
  exact h

theorem opened_of_apply {c : Compilation} {d d' : Draft} {t : Token}
    (h : (c.apply d t).result = .ok d') : d'.opened = t.pass d.opened := by
  unfold apply at h
  unfold Token.pass
  cases ht : t.content with
  | text value => rw [ht] at h; cases h; simp
  | output name => rw [ht] at h; cases h; simp
  | opening kind name => rw [ht] at h; cases h; simp
  | otherwise =>
      rw [ht] at h
      cases h
      rw [Draft.elseIssue?_eq]
      split <;> simp
  | closing word => rw [ht] at h; cases h; simp
  | inclusion name =>
      rw [ht] at h
      obtain ⟨text, -, h⟩ := Traced.result_bind_eq_ok.mp h
      cases h; simp

theorem exists_apply_of_not_inclusion {c : Compilation} {d : Draft} {t : Token}
    (h : ∀ name, t.content ≠ .inclusion name) : ∃ d', (c.apply d t).result = .ok d' := by
  unfold apply
  cases ht : t.content with
  | inclusion name => exact absurd ht (h name)
  | _ => exact ⟨_, rfl⟩

/-! ## Sequences of tokens, and the end -/

theorem steps_append (c : Compilation) (d : Draft) (ts us : List Token) :
    c.steps d (ts ++ us) = c.steps d ts >>= fun d => c.steps d us := by
  induction ts generalizing d with
  | nil => rfl
  | cons t ts ih =>
      show (c.step d t >>= fun d => c.steps d (ts ++ us)) = _
      simp only [ih]
      exact (Traced.bind_assoc ..).symm

/-- The blocks open after tokens are a matter of the tokens alone. -/
theorem opened_of_steps {c : Compilation} {d d' : Draft} {ts : List Token}
    (h : (c.steps d ts).result = .ok d') : d'.opened = Token.openAfter d.opened ts := by
  induction ts generalizing d with
  | nil => cases h; rfl
  | cons t ts ih =>
      obtain ⟨d₁, h₁, h⟩ := Traced.result_bind_eq_ok.mp h
      rw [ih h, opened_of_apply (result_apply_of_step h₁)]
      rfl

theorem result_compile (c : Compilation) (tokens : List Token) :
    (c.compile tokens).result = (c.steps .empty tokens).result >>= fun d =>
      (c.closeAll d d.blocks).result >>= fun d => .ok ⟨d.ops, c.context.name⟩ := by
  simp [compile]

theorem closeAll_of_closed {c : Compilation} {d : Draft} (h : d.opened = []) :
    c.closeAll d d.blocks = pure d := by
  rw [List.map_eq_nil_iff.mp h]; rfl

/-- A strict compilation fails at the end at the innermost open block. -/
theorem closeAll_of_strict {c : Compilation} {d : Draft} {block : Opened} {blocks : List Opened}
    (hc : c.strict = true) (h : d.opened = block :: blocks) :
    c.closeAll d d.blocks = .fail ((Issue.unclosed block.kind).error c.context block.place) := by
  obtain ⟨b, bs, hd, rfl, -⟩ := List.map_eq_cons_iff.mp h
  rw [hd]
  show (c.report b.position (.unclosed b.kind) >>= _) = _
  simp only [report, if_pos hc]
  rfl

end Compilation

end TagTemplate
