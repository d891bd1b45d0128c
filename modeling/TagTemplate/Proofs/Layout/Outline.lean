/-
# Outlines — a body that is still being read

An outline is the body read so far, and for each open block what stands before
it.  Its draft (`Outline.draft`) is the layout of a body whose open blocks do not
know their ends yet.  Each operation on drafts is one on outlines:

    text, output     added to the current body
    opening          the current body is put aside, an empty one begins
    else             the body of the block is put aside too
    closing          the block becomes one more item of the body around it

So closing a block, which patches the indices of a flat list, is the adding of
one node to a tree, and what a compilation makes of any tokens is the layout of
some body (`exists_body_of_compile`).
-/
import TagTemplate.Proofs.Compile.Matching
import TagTemplate.Proofs.Layout.Code

namespace TagTemplate

/-! ## Text at the end -/

/-- The body with literal text at its end; text after text is one text. -/
def Body.append (b : Body) (place : Position) (value : Text) : Body :=
  if value.isEmpty then b
  else match b with
    | text before start already => text before start (already ++ value)
    | b => text b place value

theorem Body.append_eq_text {b : Body} {place : Position} {value : Text} (hv : ¬ value.isEmpty)
    (h : ∀ before start already, b ≠ .text before start already) :
    b.append place value = .text b place value := by
  cases b with
  | text before start already => exact absurd rfl (h before start already)
  | _ => simp [append, hv]

theorem Draft.appendText_eq_emit {d : Draft} {place : Position} {value : Text}
    (hv : ¬ value.isEmpty) (h : ∀ start already, d.ops.back? ≠ some ⟨start, .text already⟩) :
    d.appendText place value = d.emit place (.text value) := by
  rw [Draft.appendText, if_neg hv]
  split
  · next start already hb => exact absurd hb (h start already)
  · rfl

theorem Scope.pop_push (s : Scope) (name : Text) : (s.push name).pop = s := by
  simp [Scope.push, Scope.pop]

/-! ## Linking -/

def Op.link (op : Op) (elseIndex : Option Nat) (endIndex : Nat) : Op :=
  ⟨op.position, op.action.link (elseIndex.map Int.ofNat) endIndex⟩

namespace Draft

theorem linkAt_append_cons (xs ys : List Op) (op : Op) (elseIndex : Option Nat) (endIndex : Nat) :
    linkAt xs.length elseIndex endIndex (xs ++ op :: ys).toArray =
      (xs ++ op.link elseIndex endIndex :: ys).toArray := by
  rw [linkAt, List.modify_toArray]
  exact congrArg List.toArray (List.modifyTailIdx_add _ 0 xs (op :: ys))

theorem closeBlock_of_first {xs ys : List Op} {op : Op} {kind : BlockKind} {place close : Position}
    {blocks : List OpenBlock} {scope : Scope} :
    closeBlock ⟨(xs ++ op :: ys).toArray, ⟨kind, xs.length, place, none⟩ :: blocks, scope⟩ close =
      ⟨(xs ++ op.link none (xs.length + 1 + ys.length) ::
          (ys ++ [⟨close, .finish kind.word xs.length⟩])).toArray,
        blocks, if kind = .loopBlock then scope.pop else scope⟩ := by
  have hn : (xs ++ op :: ys).length = xs.length + 1 + ys.length := by simp; omega
  simp only [closeBlock, List.push_toArray, List.size_toArray, hn, List.append_assoc,
    List.cons_append, linkAt_append_cons]

theorem closeBlock_of_second {xs ys zs : List Op} {op turn : Op} {kind : BlockKind}
    {place close : Position} {blocks : List OpenBlock} {scope : Scope} {e : Nat}
    (he : e = xs.length + 1 + ys.length) :
    closeBlock ⟨(xs ++ op :: (ys ++ turn :: zs)).toArray,
        ⟨kind, xs.length, place, some e⟩ :: blocks, scope⟩ close =
      ⟨(xs ++ op.link (some e) (e + 1 + zs.length) ::
          (ys ++ turn.link none (e + 1 + zs.length) ::
            (zs ++ [⟨close, .finish kind.word xs.length⟩]))).toArray,
        blocks, if kind = .loopBlock then scope.pop else scope⟩ := by
  have hn : (xs ++ op :: (ys ++ turn :: zs)).length = e + 1 + zs.length := by simp; omega
  have hturn := linkAt_append_cons (xs ++ op.link (some e) (e + 1 + zs.length) :: ys)
    (zs ++ [⟨close, .finish kind.word xs.length⟩]) turn none (e + 1 + zs.length)
  have hlen : (xs ++ op.link (some e) (e + 1 + zs.length) :: ys).length = e := by simp; omega
  rw [hlen] at hturn
  simp only [closeBlock, List.push_toArray, List.size_toArray, hn, List.append_assoc,
    List.cons_append, linkAt_append_cons]
  simpa only [List.append_assoc, List.cons_append, Draft.mk.injEq, and_true] using hturn

end Draft

/-! ## Outlines -/

/-- An open block, with what stands before it in the block around it. -/
inductive Pending where
  /-- A block without an else so far. -/
  | first (before : Body) (place : Position) (kind : BlockKind) (name : Text)
  /-- An if or unless block after its else at `turn`. -/
  | second (before : Body) (place : Position) (negated : Bool) (name : Text)
      (body : Body) (turn : Position)

namespace Pending

/-- The scope within a block, given the one around it. -/
def scope : Pending → Scope → Scope
  | first _ _ kind name, scope => if kind = .loopBlock then scope.push name else scope
  | second .., scope => scope

/-- The operations of an open block, up to where its last branch starts. -/
def ops : Pending → (start : Nat) → Scope → List Op
  | first before place kind name, start, scope =>
    before.code start scope ++
      [⟨place, .opener kind (scope.resolve name) (scope.frameFor name).slot⟩]
  | second before place negated name body turn, start, scope =>
    before.code start scope ++
      ⟨place, .opener (.guarded negated) (scope.resolve name) (scope.frameFor name).slot⟩ ::
        (body.code (start + before.size + 1) scope ++ [⟨turn, .alternative unlinked⟩])

def block : Pending → (start : Nat) → OpenBlock
  | first before place kind _, start => ⟨kind, start + before.size, place, none⟩
  | second before place negated _ body _, start =>
    ⟨.guarded negated, start + before.size, place, some (start + before.size + 1 + body.size)⟩

def close : Pending → Body → Position → Body
  | first before place .ifBlock name, body, close => .branch before place false name body close
  | first before place .unlessBlock name, body, close => .branch before place true name body close
  | first before place .loopBlock name, body, close => .loop before place name body close
  | second before place negated name body turn, other, close =>
    .choice before place negated name body turn other close

/-- The open block, as far as the tags after it depend on it. -/
def opened : Pending → Opened
  | first _ place kind _ => ⟨kind, place, false⟩
  | second _ place negated _ _ _ => ⟨.guarded negated, place, true⟩

end Pending

/-- A body that is being read: the open blocks, innermost first, and the body in them. -/
structure Outline where
  pending : List Pending
  current : Body

namespace Outline

def scopeIn : List Pending → Scope
  | [] => .root
  | p :: ps => p.scope (scopeIn ps)

def opsOf : List Pending → List Op
  | [] => []
  | p :: ps => opsOf ps ++ p.ops (opsOf ps).length (scopeIn ps)

def blocksOf : List Pending → List OpenBlock
  | [] => []
  | p :: ps => p.block (opsOf ps).length :: blocksOf ps

def ops (o : Outline) : List Op :=
  opsOf o.pending ++ o.current.code (opsOf o.pending).length (scopeIn o.pending)

def draft (o : Outline) : Draft := ⟨o.ops.toArray, blocksOf o.pending, scopeIn o.pending⟩

def empty : Outline := ⟨[], .empty⟩

theorem opened_draft (o : Outline) : o.draft.opened = o.pending.map Pending.opened := by
  obtain ⟨ps, b⟩ := o
  show (blocksOf ps).map OpenBlock.opened = _
  induction ps with
  | nil => rfl
  | cons p ps ih =>
      rw [blocksOf, List.map_cons, List.map_cons, ih]
      cases p <;> rfl

/-! ## Operations on outlines -/

def append (o : Outline) (place : Position) (value : Text) : Outline :=
  { o with current := o.current.append place value }

def output (o : Outline) (place : Position) (name : Text) (escape : EscapeMode) : Outline :=
  { o with current := .output o.current place name escape }

def openBlock (o : Outline) (place : Position) (kind : BlockKind) (name : Text) : Outline :=
  ⟨.first o.current place kind name :: o.pending, .empty⟩

theorem draft_output (o : Outline) (place : Position) (name : Text) (escape : EscapeMode) :
    (o.output place name escape).draft =
      o.draft.emit place (.output (o.draft.scope.resolve name) escape) := by
  simp [draft, ops, output, Draft.emit, Body.code]

theorem draft_openBlock (o : Outline) (place : Position) (kind : BlockKind) (name : Text) :
    (o.openBlock place kind name).draft = o.draft.openBlock place kind name := by
  simp [draft, ops, openBlock, Draft.openBlock, opsOf, scopeIn, blocksOf, Pending.ops,
    Pending.block, Pending.scope, Body.code]

theorem draft_openElse {before body : Body} {place turn : Position} {negated : Bool} {name : Text}
    {ps : List Pending} :
    draft ⟨.second before place negated name body turn :: ps, .empty⟩ =
      (draft ⟨.first before place (.guarded negated) name :: ps, body⟩).openElse turn := by
  have hk := BlockKind.guarded_ne_loopBlock negated
  simp [draft, ops, Draft.openElse, Draft.emit, opsOf, scopeIn, blocksOf, Pending.ops,
    Pending.block, Pending.scope, Body.code, hk]
  exact ⟨by rw [Nat.add_assoc], by omega⟩

/-- Unless the current body ends with a text, the last operation is none. -/
theorem back?_draft_ne_text (o : Outline)
    (h : ∀ before start already, o.current ≠ .text before start already)
    (start : Position) (already : Text) : o.draft.ops.back? ≠ some ⟨start, .text already⟩ := by
  obtain ⟨ps, b⟩ := o
  cases b with
  | text before start already => exact absurd rfl (h before start already)
  | empty =>
      cases ps with
      | nil => simp [draft, ops, opsOf, Body.code]
      | cons p ps =>
          cases p with
          | first before place kind name =>
              cases kind <;> simp [draft, ops, opsOf, Pending.ops, Body.code, Action.opener]
          | second before place negated name body turn =>
              simp [draft, ops, opsOf, Pending.ops, Body.code, List.getLast?_cons]
  | output before place name escape => simp [draft, ops, Body.code]
  | branch before place negated name body close =>
      simp [draft, ops, Body.code, List.getLast?_cons]
  | choice before place negated name body turn other close =>
      simp [draft, ops, Body.code, List.getLast?_cons]
  | loop before place name body close => simp [draft, ops, Body.code, List.getLast?_cons]

theorem draft_append (o : Outline) (place : Position) (value : Text) :
    (o.append place value).draft = o.draft.appendText place value := by
  by_cases hv : value.isEmpty
  · simp [append, Body.append, Draft.appendText, hv]
  -- text joins a text of the current body only: what is before that body ends with an opening
  -- operation or an else
  by_cases ht : ∃ before start already, o.current = .text before start already
  · obtain ⟨before, start, already, ht⟩ := ht
    simp [draft, ops, append, Body.append, Body.code, Draft.appendText, hv, ht]
  · have ht : ∀ before start already, o.current ≠ .text before start already :=
      fun before start already h => ht ⟨before, start, already, h⟩
    rw [Draft.appendText_eq_emit hv (o.back?_draft_ne_text ht)]
    simp [draft, ops, append, Body.append_eq_text hv ht, Body.code, Draft.emit]

/-! Closing a block, with its opener and its else singled out. -/

section
variable {before body b : Body} {place turn : Position} {kind : BlockKind} {negated : Bool}
  {name : Text} {ps : List Pending}

def opsBefore (ps : List Pending) (before : Body) : List Op :=
  opsOf ps ++ before.code (opsOf ps).length (scopeIn ps)

@[simp] theorem length_opsBefore :
    (opsBefore ps before).length = (opsOf ps).length + before.size := by
  simp [opsBefore]

/-- The operation that opens a block after some operations. -/
def openerOf (ps : List Pending) (place : Position) (kind : BlockKind) (name : Text) : Op :=
  ⟨place, .opener kind ((scopeIn ps).resolve name) ((scopeIn ps).frameFor name).slot⟩

theorem draft_first :
    let start := (opsBefore ps before).length
    let inner := scopeIn (.first before place kind name :: ps)
    draft ⟨.first before place kind name :: ps, b⟩ =
      ⟨(opsBefore ps before ++ openerOf ps place kind name :: b.code (start + 1) inner).toArray,
        ⟨kind, start, place, none⟩ :: blocksOf ps, inner⟩ := by
  simp [draft, ops, opsOf, blocksOf, Pending.ops, Pending.block, opsBefore, openerOf, Nat.add_assoc]

theorem draft_second :
    let start := (opsBefore ps before).length
    let other := start + 1 + body.size
    draft ⟨.second before place negated name body turn :: ps, b⟩ =
      ⟨(opsBefore ps before ++ openerOf ps place (.guarded negated) name ::
          (body.code (start + 1) (scopeIn ps) ++
            ⟨turn, .alternative unlinked⟩ :: b.code (other + 1) (scopeIn ps))).toArray,
        ⟨.guarded negated, start, place, some other⟩ :: blocksOf ps, scopeIn ps⟩ := by
  simp [draft, ops, opsOf, blocksOf, scopeIn, Pending.scope, Pending.ops, Pending.block, opsBefore,
    openerOf, Nat.add_assoc]
  exact congrArg (b.code · (scopeIn ps)) (by omega)

end

theorem draft_closeBlock (p : Pending) (ps : List Pending) (b : Body) (place : Position) :
    (draft ⟨p :: ps, b⟩).closeBlock place = draft ⟨ps, p.close b place⟩ := by
  cases p with
  | first before start kind name =>
      rw [draft_first, Draft.closeBlock_of_first]
      cases kind <;>
        simp [draft, ops, opsBefore, openerOf, Body.code, Pending.close, scopeIn, Pending.scope,
          Op.link, Action.link, Action.opener, BlockKind.guarded, Scope.pop_push]
  | second before start negated name body turn =>
      rw [draft_second, Draft.closeBlock_of_second (by simp)]
      cases negated <;>
        simp [draft, ops, opsBefore, openerOf, Body.code, Pending.close, Op.link, Action.link,
          Action.opener, BlockKind.guarded]

/-! ## Compilations keep to outlines -/

theorem closeBlock_of_nil (b : Body) (place : Position) :
    (draft ⟨[], b⟩).closeBlock place = draft ⟨[], b⟩ := rfl

theorem exists_first_of_elseIssue? {o : Outline} (h : o.draft.elseIssue? = none) :
    ∃ before place negated name ps,
      o.pending = .first before place (.guarded negated) name :: ps := by
  obtain ⟨ps, b⟩ := o
  cases ps with
  | nil => cases h
  | cons p ps =>
      cases p with
      | first before place kind name =>
          cases kind with
          | ifBlock => exact ⟨before, place, false, name, ps, rfl⟩
          | unlessBlock => exact ⟨before, place, true, name, ps, rfl⟩
          | loopBlock => cases h
      | second before place negated name body turn => cases negated <;> cases h

/-- A draft of an outline stays one, whatever the token. -/
theorem exists_of_apply {c : Compilation} {o : Outline} {t : Token} {d : Draft}
    (h : (c.apply o.draft t).result = .ok d) : ∃ o' : Outline, d = o'.draft := by
  unfold Compilation.apply at h
  cases ht : t.content with
  | text value => rw [ht] at h; cases h; exact ⟨_, (draft_append ..).symm⟩
  | output name => rw [ht] at h; cases h; exact ⟨_, (draft_output ..).symm⟩
  | opening kind name => rw [ht] at h; cases h; exact ⟨_, (draft_openBlock ..).symm⟩
  | otherwise =>
      rw [ht] at h
      cases h
      cases hi : o.draft.elseIssue? with
      | some issue => exact ⟨o, rfl⟩
      | none =>
          obtain ⟨before, place, negated, name, ps, hp⟩ := exists_first_of_elseIssue? hi
          obtain ⟨pending, body⟩ := o
          subst hp
          exact ⟨_, draft_openElse.symm⟩
  | closing word =>
      rw [ht] at h
      cases h
      obtain ⟨ps, body⟩ := o
      cases ps with
      | nil => exact ⟨_, closeBlock_of_nil ..⟩
      | cons p ps => exact ⟨_, draft_closeBlock ..⟩
  | inclusion name =>
      rw [ht] at h
      obtain ⟨text, -, h⟩ := Traced.result_bind_eq_ok.mp h
      cases h
      exact ⟨_, (draft_append ..).symm⟩

theorem exists_of_steps {c : Compilation} {o : Outline} {ts : List Token} {d : Draft}
    (h : (c.steps o.draft ts).result = .ok d) : ∃ o' : Outline, d = o'.draft := by
  induction ts generalizing o with
  | nil => cases h; exact ⟨o, rfl⟩
  | cons t ts ih =>
      obtain ⟨d₁, h₁, h⟩ := Traced.result_bind_eq_ok.mp h
      obtain ⟨o₁, rfl⟩ := exists_of_apply (Compilation.result_apply_of_step h₁)
      exact ih h

theorem exists_of_closeAll {c : Compilation} {ps : List Pending} {b : Body} {d : Draft}
    (h : (c.closeAll (draft ⟨ps, b⟩) (blocksOf ps)).result = .ok d) :
    ∃ body, d = draft ⟨[], body⟩ := by
  induction ps generalizing b with
  | nil => cases h; exact ⟨b, rfl⟩
  | cons p ps ih =>
      obtain ⟨-, -, h⟩ := Traced.result_bind_eq_ok.mp h
      rw [draft_closeBlock] at h
      exact ih h

end Outline

/-- **Every program is the layout of a body**, whatever the tokens were. -/
theorem Compilation.exists_body_of_compile {c : Compilation} {tokens : List Token} {p : Program}
    (h : (c.compile tokens).result = .ok p) : ∃ body : Body, p.ops.toList = body.code 0 .root := by
  obtain ⟨d₁, h₁, h⟩ := Traced.result_bind_eq_ok.mp h
  obtain ⟨d₂, h₂, h⟩ := Traced.result_bind_eq_ok.mp h
  cases h
  obtain ⟨⟨ps, b⟩, rfl⟩ := Outline.exists_of_steps (o := .empty) h₁
  obtain ⟨body, rfl⟩ := Outline.exists_of_closeAll h₂
  exact ⟨body, rfl⟩

end TagTemplate
