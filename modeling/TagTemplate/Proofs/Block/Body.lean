/-
# Bodies — the block structure of tokens

A body is what a template or a branch of a block consists of, as a tree.  It
grows to the right, as the tokens come: each constructor adds one item to the
body `before` it.

    body  =  ( text
             | output
             | if  body [ else body ] close-if
             | unless  body [ else body ] close-unless
             | loop  body  close-loop )*

`body.Spells tokens` says that the tokens are written by this grammar with
`body` as their tree, and `WellBracketed tokens` that they have a tree.  No word
is said about stacks: those are the business of a reader of tokens.
-/
import TagTemplate.Token.Basic

namespace TagTemplate

/-- The kind of a block with a guard. -/
def BlockKind.guarded : (negated : Bool) → BlockKind
  | false => ifBlock
  | true => unlessBlock

theorem BlockKind.guarded_ne_loopBlock (negated : Bool) : guarded negated ≠ .loopBlock := by
  cases negated <;> decide

/-- What a template or a branch of a block consists of. -/
inductive Body where
  | empty
  | text (before : Body) (place : Position) (value : Text)
  | output (before : Body) (place : Position) (name : Text) (escape : EscapeMode)
  /-- An if or unless block without an else. -/
  | branch (before : Body) (place : Position) (negated : Bool) (name : Text)
      (body : Body) (close : Position)
  /-- An if or unless block with an else at `turn`. -/
  | choice (before : Body) (place : Position) (negated : Bool) (name : Text)
      (body : Body) (turn : Position) (other : Body) (close : Position)
  | loop (before : Body) (place : Position) (name : Text) (body : Body) (close : Position)

namespace Body

/-- The tokens are those of a body. -/
inductive Spells : Body → List Token → Prop
  | empty : Spells .empty []
  | text {before : Body} {ts : List Token} {t : Token} {value : Text} :
      before.Spells ts → t.content = .text value →
      Spells (.text before t.position value) (ts ++ [t])
  | output {before : Body} {ts : List Token} {t : Token} {name : Text} :
      before.Spells ts → t.content = .output name →
      Spells (.output before t.position name t.escape) (ts ++ [t])
  | branch {before body : Body} {ts us : List Token} {o c : Token} {negated : Bool} {name : Text} :
      before.Spells ts → o.content = .opening (.guarded negated) name → body.Spells us →
      c.content = .closing (BlockKind.guarded negated).word →
      Spells (.branch before o.position negated name body c.position) (ts ++ o :: (us ++ [c]))
  | choice {before body other : Body} {ts us vs : List Token} {o e c : Token} {negated : Bool}
      {name : Text} :
      before.Spells ts → o.content = .opening (.guarded negated) name → body.Spells us →
      e.content = .otherwise → other.Spells vs →
      c.content = .closing (BlockKind.guarded negated).word →
      Spells (.choice before o.position negated name body e.position other c.position)
        (ts ++ o :: (us ++ e :: (vs ++ [c])))
  | loop {before body : Body} {ts us : List Token} {o c : Token} {name : Text} :
      before.Spells ts → o.content = .opening .loopBlock name → body.Spells us →
      c.content = .closing BlockKind.loopBlock.word →
      Spells (.loop before o.position name body c.position) (ts ++ o :: (us ++ [c]))

end Body

/-- The tokens are written by the grammar of bodies. -/
def WellBracketed (tokens : List Token) : Prop := ∃ body : Body, body.Spells tokens

/-- The tokens begin some well-bracketed list. -/
def Extendable (tokens : List Token) : Prop := ∃ rest, WellBracketed (tokens ++ rest)

def Token.isInclusion (t : Token) : Prop := ∃ name, t.content = .inclusion name

theorem WellBracketed.nil : WellBracketed [] := ⟨_, .empty⟩

theorem WellBracketed.snoc {ts : List Token} {t : Token} (h : WellBracketed ts)
    (ht : (∃ value, t.content = .text value) ∨ ∃ name, t.content = .output name) :
    WellBracketed (ts ++ [t]) := by
  obtain ⟨body, hb⟩ := h
  obtain ⟨value, ht⟩ | ⟨name, ht⟩ := ht
  · exact ⟨_, hb.text ht⟩
  · exact ⟨_, hb.output ht⟩

theorem WellBracketed.snocBlock {ts us : List Token} {o c : Token} {kind : BlockKind} {name : Text}
    (h : WellBracketed ts) (ho : o.content = .opening kind name) (hu : WellBracketed us)
    (hc : c.content = .closing kind.word) : WellBracketed (ts ++ o :: (us ++ [c])) := by
  obtain ⟨before, hb⟩ := h
  obtain ⟨body, hu⟩ := hu
  cases kind with
  | ifBlock => exact ⟨.branch _ _ false _ _ _, hb.branch ho hu hc⟩
  | unlessBlock => exact ⟨.branch _ _ true _ _ _, hb.branch ho hu hc⟩
  | loopBlock => exact ⟨_, hb.loop ho hu hc⟩

theorem WellBracketed.snocChoice {ts us vs : List Token} {o e c : Token} {kind : BlockKind}
    {name : Text} (h : WellBracketed ts) (hk : kind ≠ .loopBlock)
    (ho : o.content = .opening kind name) (hu : WellBracketed us) (he : e.content = .otherwise)
    (hv : WellBracketed vs) (hc : c.content = .closing kind.word) :
    WellBracketed (ts ++ o :: (us ++ e :: (vs ++ [c]))) := by
  obtain ⟨before, hb⟩ := h
  obtain ⟨body, hu⟩ := hu
  obtain ⟨other, hv⟩ := hv
  cases kind with
  | ifBlock => exact ⟨.choice _ _ false _ _ _ _ _, hb.choice ho hu he hv hc⟩
  | unlessBlock => exact ⟨.choice _ _ true _ _ _ _ _, hb.choice ho hu he hv hc⟩
  | loopBlock => exact absurd rfl hk

end TagTemplate
