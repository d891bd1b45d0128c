/-
# Bare programs — what is left of a program without its texts

    program                      bare program

    0  text                      0  branch … 1
    1  branch … 3                1  finish … 0
    2  text
    3  finish … 1

A program without its texts is a program again: the other operations keep their order, and each
index becomes the place that its operation moves up to (`Program.bare`).  In the same way tokens
are bare if they are neither texts nor includes, and the bare tokens compile to the bare program
(`bare_of_compile`).  So no text has a part in what the other operations are or where they jump.

The proof goes by trees.  A bare body is a body without its texts, and leaving texts out of a body
or out of its layout is the same (`Body.bareWith_code`): an index within the layout counts the
operations before it, whose texts are the texts of the tree before it.  Outlines are followed side
by side with their bare ones.
-/
import TagTemplate.Proofs.Layout.Outline

namespace TagTemplate

/-! ## Bare programs and bare tokens -/

def Op.isText (op : Op) : Bool :=
  match op.action with
  | .text _ => true
  | _ => false

def Action.move (place : Int → Int) : Action → Action
  | branch negated ref elseIndex endIndex =>
    branch negated ref (elseIndex.map place) (place endIndex)
  | alternative endIndex => alternative (place endIndex)
  | loop ref slot endIndex => loop ref slot (place endIndex)
  | finish word startIndex => finish word (place startIndex)
  | action => action

def Op.move (place : Int → Int) (op : Op) : Op := ⟨op.position, op.action.move place⟩

/-- The operations that are no texts, with their indices moved. -/
def bareWith (place : Int → Int) (ops : List Op) : List Op :=
  (ops.filter (!·.isText)).map (Op.move place)

/-- How many of the operations are no texts. -/
def bareCount (ops : List Op) : Nat := ops.countP (!·.isText)

/-- Where an index of operations is once the texts before it are left out. -/
def bareIndex (ops : List Op) : Int → Int
  | .ofNat i => bareCount (ops.take i)
  | .negSucc i => .negSucc i

def Program.bare (p : Program) : Program :=
  ⟨(bareWith (bareIndex p.ops.toList) p.ops.toList).toArray, p.name⟩

/-- The token is neither a text nor an include. -/
def Token.isBare (t : Token) : Bool :=
  match t.content with
  | .text _ | .inclusion _ => false
  | _ => true

def Body.bare : Body → Body
  | empty => .empty
  | text before _ _ => before.bare
  | output before place name escape => .output before.bare place name escape
  | branch before place negated name body close =>
    .branch before.bare place negated name body.bare close
  | choice before place negated name body turn other close =>
    .choice before.bare place negated name body.bare turn other.bare close
  | loop before place name body close => .loop before.bare place name body.bare close

variable {place : Int → Int} {start start' : Nat} {op : Op} {xs ys ops : List Op}

/-! ## Indices of a layout -/

@[simp] theorem bareWith_append :
    bareWith place (xs ++ ys) = bareWith place xs ++ bareWith place ys := by
  simp only [bareWith, List.filter_append, List.map_append]

@[simp] theorem bareWith_nil : bareWith place [] = [] := rfl

theorem bareWith_of_isText (h : op.isText = true) :
    bareWith place (op :: ops) = bareWith place ops := by
  simp only [bareWith, List.filter_cons, h, Bool.not_true, Bool.false_eq_true, if_false]

theorem bareWith_cons (h : op.isText = false) :
    bareWith place (op :: ops) = op.move place :: bareWith place ops := by
  simp only [bareWith, List.filter_cons, h, Bool.not_false, if_true, List.map_cons]

@[simp] theorem bareCount_append : bareCount (xs ++ ys) = bareCount xs + bareCount ys :=
  List.countP_append

@[simp] theorem bareCount_nil : bareCount [] = 0 := rfl

theorem bareCount_cons (h : op.isText = false) :
    bareCount (op :: ops) = bareCount ops + 1 := by
  rw [bareCount, List.countP_cons, h]
  rfl

/-- Operations that start at an index are moved to start at another, with each index in them moved
over the texts before it. -/
def Moves (place : Int → Int) (start start' : Nat) (ops : List Op) : Prop :=
  ∀ i, i ≤ ops.length → place ↑(start + i) = ↑(start' + bareCount (ops.take i))

namespace Moves

theorem left (h : Moves place start start' (xs ++ ys)) : Moves place start start' xs := by
  intro i hi
  rw [h i (by rw [List.length_append]; omega), List.take_append_of_le_length hi]

theorem right (h : Moves place start start' (xs ++ ys)) :
    Moves place (start + xs.length) (start' + bareCount xs) ys := by
  intro i hi
  rw [Nat.add_assoc, h _ (by rw [List.length_append]; omega), List.take_length_add_append,
    bareCount_append, Nat.add_assoc]

theorem head (h : Moves place start start' ops) : place ↑start = ↑start' := h 0 (Nat.zero_le _)

theorem tail (h : Moves place start start' (op :: ops)) (hop : op.isText = false) :
    Moves place (start + 1) (start' + 1) ops := by
  have hright := right (show Moves place start start' ([op] ++ ops) from h)
  rw [bareCount_cons hop] at hright
  exact hright

theorem whole (ops : List Op) : Moves (bareIndex ops) 0 0 ops := by
  intro i _
  rw [Nat.zero_add, Nat.zero_add]
  rfl

end Moves

namespace Body

theorem bareCount_code (b : Body) :
    ∀ (start : Nat) (scope : Scope), bareCount (b.code start scope) = b.bare.size := by
  induction b with
  | empty => intro _ _; rfl
  | text before _ _ ih => intro start scope; rw [code, bareCount_append, ih]; rfl
  | output before _ _ _ ih => intro start scope; rw [code, bareCount_append, ih]; rfl
  | branch before _ _ _ body _ ih₁ ih₂ | loop before _ _ body _ ih₁ ih₂ =>
      intro start scope
      rw [code, bareCount_append, ih₁, bareCount_cons rfl, bareCount_append, ih₂,
        bareCount_cons rfl, bareCount_nil, bare, size]
      omega
  | choice before _ _ _ body _ other _ ih₁ ih₂ ih₃ =>
      intro start scope
      rw [code, bareCount_append, ih₁, bareCount_cons rfl, bareCount_append, ih₂,
        bareCount_cons rfl, bareCount_append, ih₃, bareCount_cons rfl, bareCount_nil, bare, size]
      omega

/-- What stands after a body in a layout is moved over the texts of the body. -/
theorem moves_after {b : Body} {scope : Scope}
    (h : Moves place start start' (b.code start scope ++ ys)) :
    Moves place (start + b.size) (start' + b.bare.size) ys := by
  simpa only [length_code, bareCount_code] using h.right

/-- A layout without its texts is the layout of the body without its texts. -/
theorem bareWith_code (b : Body) {start start' : Nat} {scope : Scope}
    (h : Moves place start start' (b.code start scope)) :
      bareWith place (b.code start scope) = b.bare.code start' scope := by
  induction b generalizing start start' scope with
  | empty => rfl
  | text before _ _ ih =>
      rw [code, bareWith_append, ih h.left, bareWith_of_isText rfl, bareWith_nil, List.append_nil,
        bare]
  | output before _ _ _ ih =>
      rw [code, bareWith_append, ih h.left, bareWith_cons rfl, bareWith_nil]
      rfl
  | branch before _ _ _ body _ ih₁ ih₂ | loop before _ _ body _ ih₁ ih₂ =>
      have hopener := moves_after h
      have hbody := hopener.tail rfl
      have hfinish := moves_after hbody
      rw [code, bareWith_append, ih₁ h.left, bareWith_cons rfl, bareWith_append, ih₂ hbody.left,
        bareWith_cons rfl, bareWith_nil]
      simp only [Op.move, Action.move, Option.map_none, hopener.head, hfinish.head]
      rfl
  | choice before _ _ _ body _ other _ ih₁ ih₂ ih₃ =>
      have hopener := moves_after h
      have hbody := hopener.tail rfl
      have hturn := moves_after hbody
      have hother := hturn.tail rfl
      have hfinish := moves_after hother
      rw [code, bareWith_append, ih₁ h.left, bareWith_cons rfl, bareWith_append, ih₂ hbody.left,
        bareWith_cons rfl, bareWith_append, ih₃ hother.left, bareWith_cons rfl, bareWith_nil]
      simp only [Op.move, Action.move, Option.map_some, hopener.head, hturn.head, hfinish.head]
      rfl

@[simp] theorem bare_append (b : Body) (place : Position) (value : Text) :
    (b.append place value).bare = b.bare := by
  unfold append
  split
  · rfl
  · cases b <;> rfl

end Body

theorem Program.bare_of_code {p : Program} {b : Body} (h : p.ops.toList = b.code 0 .root) :
    p.bare = ⟨(b.bare.code 0 .root).toArray, p.name⟩ := by
  rw [Program.bare, h, Body.bareWith_code b (Moves.whole _)]

/-! ## Outlines without texts -/

def Pending.bare : Pending → Pending
  | first before place kind name => .first before.bare place kind name
  | second before place negated name body turn =>
    .second before.bare place negated name body.bare turn

def Outline.bare (o : Outline) : Outline := ⟨o.pending.map Pending.bare, o.current.bare⟩

namespace Outline

variable {c : Compilation} {o : Outline} {t : Token} {ts : List Token} {d : Draft}
  {ps : List Pending} {b : Body}

theorem bare_close (p : Pending) (close : Position) :
    (p.close b close).bare = p.bare.close b.bare close := by
  cases p with
  | first before place kind name => cases kind <;> rfl
  | second before place negated name body turn => rfl

theorem closeBlock_bare (p : Pending) (ps : List Pending) (b : Body) (close : Position) :
    (bare ⟨p :: ps, b⟩).draft.closeBlock close = (bare ⟨ps, p.close b close⟩).draft := by
  rw [bare, bare, bare_close]
  exact draft_closeBlock ..

theorem opened_bare (o : Outline) : o.bare.draft.opened = o.draft.opened := by
  rw [opened_draft, opened_draft, bare, List.map_map]
  refine List.map_congr_left fun p _ => ?_
  cases p <;> rfl

@[simp] theorem bare_append (o : Outline) (place : Position) (value : Text) :
    (o.append place value).bare = o.bare :=
  congrArg (Outline.mk _) (Body.bare_append ..)

/-- A bare token does to an outline without texts what it does to the outline; any other token
adds text at most. -/
theorem exists_bare_of_apply (h : (c.apply o.draft t).result = .ok d) :
    ∃ o' : Outline, d = o'.draft ∧
      if t.isBare then (c.apply o.bare.draft t).result = .ok o'.bare.draft
      else o'.bare = o.bare := by
  unfold Token.isBare
  unfold Compilation.apply at h ⊢
  cases ht : t.content with
  | text value =>
      rw [ht] at h
      cases h
      exact ⟨o.append t.position value, (draft_append ..).symm, bare_append ..⟩
  | output name =>
      rw [ht] at h
      cases h
      exact ⟨o.output t.position name t.escape, (draft_output ..).symm,
        congrArg Except.ok (draft_output o.bare ..).symm⟩
  | opening kind name =>
      rw [ht] at h
      cases h
      exact ⟨o.openBlock t.position kind name, (draft_openBlock ..).symm,
        congrArg Except.ok (draft_openBlock o.bare ..).symm⟩
  | otherwise =>
      rw [ht] at h
      cases h
      have hissue : o.bare.draft.elseIssue? = o.draft.elseIssue? := by
        rw [Draft.elseIssue?_eq, Draft.elseIssue?_eq, opened_bare]
      rw [hissue]
      cases hi : o.draft.elseIssue? with
      | some issue => exact ⟨o, rfl, rfl⟩
      | none =>
          obtain ⟨before, place, negated, name, ps, hp⟩ := exists_first_of_elseIssue? hi
          obtain ⟨pending, body⟩ := o
          subst hp
          exact ⟨⟨.second before place negated name body t.position :: ps, .empty⟩,
            draft_openElse.symm, congrArg Except.ok draft_openElse.symm⟩
  | closing word =>
      rw [ht] at h
      cases h
      obtain ⟨ps, body⟩ := o
      cases ps with
      | nil => exact ⟨⟨[], body⟩, closeBlock_of_nil .., congrArg Except.ok (closeBlock_of_nil ..)⟩
      | cons p ps =>
          exact ⟨⟨ps, p.close body t.position⟩, draft_closeBlock ..,
            congrArg Except.ok (closeBlock_bare ..)⟩
  | inclusion name =>
      rw [ht] at h
      obtain ⟨text, -, h⟩ := Traced.result_bind_eq_ok.mp h
      cases h
      exact ⟨o.append t.position text, (draft_append ..).symm, bare_append ..⟩

theorem exists_bare_of_steps (h : (c.steps o.draft ts).result = .ok d) :
    ∃ o' : Outline, d = o'.draft ∧
      (c.steps o.bare.draft (ts.filter Token.isBare)).result = .ok o'.bare.draft := by
  induction ts generalizing o with
  | nil =>
      cases h
      exact ⟨o, rfl, rfl⟩
  | cons t ts ih =>
      obtain ⟨d₁, h₁, h⟩ := Traced.result_bind_eq_ok.mp h
      rw [Compilation.step_eq] at h₁
      obtain ⟨u, hreport, happly⟩ := Traced.result_bind_eq_ok.mp h₁
      obtain ⟨o₁, rfl, hbare⟩ := exists_bare_of_apply happly
      obtain ⟨o', rfl, hrest⟩ := ih h
      refine ⟨o', rfl, ?_⟩
      rw [List.filter_cons]
      cases ht : t.isBare with
      | true =>
          rw [ht] at hbare
          rw [← opened_bare] at hreport
          have hstep : (c.step o.bare.draft t).result = .ok o₁.bare.draft := by
            rw [Compilation.step_eq]
            exact Traced.result_bind_eq_ok.mpr ⟨_, hreport, hbare⟩
          exact Traced.result_bind_eq_ok.mpr ⟨_, hstep, hrest⟩
      | false =>
          rw [ht] at hbare
          have hbare : o₁.bare = o.bare := hbare
          rwa [hbare] at hrest

theorem exists_bare_of_closeAll (h : (c.closeAll (draft ⟨ps, b⟩) (blocksOf ps)).result = .ok d) :
    ∃ body, d = draft ⟨[], body⟩ ∧
      (c.closeAll (bare ⟨ps, b⟩).draft (blocksOf (ps.map Pending.bare))).result =
        .ok (draft ⟨[], body.bare⟩) := by
  induction ps generalizing b with
  | nil =>
      cases h
      exact ⟨b, rfl, rfl⟩
  | cons p ps ih =>
      obtain ⟨u, hreport, h⟩ := Traced.result_bind_eq_ok.mp h
      rw [draft_closeBlock] at h
      obtain ⟨body, rfl, hrest⟩ := ih h
      refine ⟨body, rfl, Traced.result_bind_eq_ok.mpr ⟨u, ?_, ?_⟩⟩
      · cases p <;> exact hreport
      · rw [closeBlock_bare]
        cases p <;> exact hrest

end Outline

/-- **The bare tokens compile to the bare program.** -/
theorem Compilation.bare_of_compile {c : Compilation} {tokens : List Token} {p : Program}
    (h : (c.compile tokens).result = .ok p) :
    (c.compile (tokens.filter Token.isBare)).result = .ok p.bare := by
  obtain ⟨d₁, h₁, h⟩ := Traced.result_bind_eq_ok.mp h
  obtain ⟨d₂, h₂, h⟩ := Traced.result_bind_eq_ok.mp h
  cases h
  obtain ⟨⟨ps, b⟩, rfl, hsteps⟩ := Outline.exists_bare_of_steps (o := .empty) h₁
  obtain ⟨body, rfl, hclose⟩ := Outline.exists_bare_of_closeAll h₂
  have hbare := Program.bare_of_code (p := ⟨(Outline.draft ⟨[], body⟩).ops, c.context.name⟩) rfl
  rw [hbare]
  exact Traced.result_bind_eq_ok.mpr ⟨_, hsteps, Traced.result_bind_eq_ok.mpr ⟨_, hclose, rfl⟩⟩

end TagTemplate
