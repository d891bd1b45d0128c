/-
# Scanning — a reader of block structure

`scan? blocks tokens` goes through tokens with a stack of open blocks and stops
at the first token that does not fit.  Without includes it decides the grammar:

    scan? [] tokens = some []           ↔  the tokens are well bracketed
    scan? [] tokens = some (b :: …)     ↔  they can be continued, `b` is open
    scan? [] tokens = none              ↔  they cannot be continued

The invariant behind the right-to-left reading is `Open blocks tokens`: the
tokens are bodies with the opening tags of the blocks between them.
-/
import TagTemplate.Proofs.Block.Body
import TagTemplate.Proofs.Compile.Matching

namespace TagTemplate

namespace Token

/-- The open blocks after tokens, if each of them fits. -/
def scan? (blocks : List Opened) : List Token → Option (List Opened)
  | [] => some blocks
  | t :: ts => if (t.issue? blocks).isSome then none else scan? (t.pass blocks) ts

theorem scan?_append (blocks : List Opened) (ts us : List Token) :
    scan? blocks (ts ++ us) = (scan? blocks ts).bind fun blocks => scan? blocks us := by
  induction ts generalizing blocks with
  | nil => rfl
  | cons t ts ih =>
      simp only [List.cons_append, scan?]
      split
      · rfl
      · exact ih (t.pass blocks)

theorem exists_misfit_of_scan?_eq_none {blocks : List Opened} {ts : List Token}
    (h : scan? blocks ts = none) :
    ∃ before t after blocks' issue, ts = before ++ t :: after ∧
      scan? blocks before = some blocks' ∧ t.issue? blocks' = some issue := by
  induction ts generalizing blocks with
  | nil => cases h
  | cons t ts ih =>
      cases ht : t.issue? blocks with
      | some issue => exact ⟨[], t, ts, blocks, issue, rfl, rfl, ht⟩
      | none =>
          have hts : scan? (t.pass blocks) ts = none := by simpa [scan?, ht] using h
          obtain ⟨before, u, after, blocks', issue, rfl, hb, hu⟩ := ih hts
          exact ⟨t :: before, u, after, blocks', issue, rfl, by simpa [scan?, ht] using hb, hu⟩

/-! ## Tokens of each kind, scanned -/

section
variable {t : Token} {blocks : List Opened}

theorem scan?_cons_of_fits {ts : List Token} (h : t.issue? blocks = none) :
    scan? blocks (t :: ts) = scan? (t.pass blocks) ts := by
  simp [scan?, h]

theorem scan?_opening {ts : List Token} {kind : BlockKind} {name : Text}
    (ht : t.content = .opening kind name) :
    scan? blocks (t :: ts) = scan? (⟨kind, t.position, false⟩ :: blocks) ts := by
  rw [scan?_cons_of_fits (by simp [issue?, ht])]
  simp [Token.pass, ht]

theorem scan?_otherwise {ts : List Token} {block : Opened} (ht : t.content = .otherwise)
    (hk : block.kind ≠ .loopBlock) (he : block.hasElse = false) :
    scan? (block :: blocks) (t :: ts) = scan? ({ block with hasElse := true } :: blocks) ts := by
  have hi : Opened.elseIssue? (block :: blocks) = none := Opened.elseIssue?_eq_none.mpr ⟨hk, he⟩
  rw [scan?_cons_of_fits (by simp [issue?, ht, hi])]
  simp [Token.pass, ht, hi, Opened.withElse]

theorem scan?_closing {ts : List Token} {block : Opened}
    (ht : t.content = .closing block.kind.word) :
    scan? (block :: blocks) (t :: ts) = scan? blocks ts := by
  rw [scan?_cons_of_fits (issue?_closing ht)]
  simp [Token.pass, ht]

end

end Token

open Token

/-! ## Well-bracketed tokens leave the open blocks as they are -/

theorem Body.Spells.scan? {body : Body} {ts : List Token} (h : body.Spells ts) :
    ∀ blocks, Token.scan? blocks ts = some blocks := by
  induction h with
  | empty => intro blocks; rfl
  | text _ ht ih | output _ ht ih =>
      intro blocks
      rw [scan?_append, ih]
      simp [Token.scan?, issue?, Token.pass, ht]
  | branch _ ho _ hc ih₁ ih₂ | loop _ ho _ hc ih₁ ih₂ =>
      intro blocks
      rw [scan?_append, ih₁, Option.bind_some, scan?_opening ho, scan?_append, ih₂,
        Option.bind_some, scan?_closing hc]
      rfl
  | choice _ ho _ he _ hc ih₁ ih₂ ih₃ =>
      intro blocks
      rw [scan?_append, ih₁, Option.bind_some, scan?_opening ho, scan?_append, ih₂,
        Option.bind_some, scan?_otherwise he (BlockKind.guarded_ne_loopBlock _) rfl,
        scan?_append, ih₃, Option.bind_some, scan?_closing hc]
      rfl

theorem WellBracketed.scan? {ts : List Token} (h : WellBracketed ts) (blocks : List Opened) :
    Token.scan? blocks ts = some blocks := by
  obtain ⟨body, h⟩ := h
  exact h.scan? blocks

/-! ## What a scan has read -/

/-- The tokens are bodies, with the opening tags of the open blocks between them: after the
last of those tags stands one body, or two with the block's else between them. -/
inductive Open : List Opened → List Token → Prop
  | closed {ts : List Token} : WellBracketed ts → Open [] ts
  | first {blocks : List Opened} {ts us : List Token} {o : Token} {kind : BlockKind} {name : Text} :
      Open blocks ts → o.content = .opening kind name → WellBracketed us →
      Open (⟨kind, o.position, false⟩ :: blocks) (ts ++ o :: us)
  | second {blocks : List Opened} {ts us vs : List Token} {o e : Token} {kind : BlockKind}
      {name : Text} :
      Open blocks ts → o.content = .opening kind name → kind ≠ .loopBlock → WellBracketed us →
      e.content = .otherwise → WellBracketed vs →
      Open (⟨kind, o.position, true⟩ :: blocks) (ts ++ o :: (us ++ e :: vs))

namespace Open

variable {blocks : List Opened} {ts : List Token} {t : Token}

theorem extend {us : List Token} (h : Open blocks ts)
    (hu : ∀ vs, WellBracketed vs → WellBracketed (vs ++ us)) : Open blocks (ts ++ us) := by
  cases h with
  | closed h => exact .closed (hu _ h)
  | first h ho hb =>
      simpa using Open.first h ho (hu _ hb)
  | second h ho hk hb he hc =>
      simpa using Open.second h ho hk hb he (hu _ hc)

theorem close {block : Opened} {c : Token} (h : Open (block :: blocks) ts)
    (hc : c.content = .closing block.kind.word) : Open blocks (ts ++ [c]) := by
  cases h with
  | first h ho hb =>
      simpa using h.extend fun vs hv => hv.snocBlock ho hb hc
  | second h ho hk hb he hd =>
      simpa using h.extend fun vs hv => hv.snocChoice hk ho hb he hd hc

theorem step (h : Open blocks ts) (ht : t.issue? blocks = none) (hn : ¬ t.isInclusion) :
    Open (t.pass blocks) (ts ++ [t]) := by
  unfold Token.pass
  cases hc : t.content with
  | text value => exact h.extend fun vs hv => hv.snoc (.inl ⟨value, hc⟩)
  | output name => exact h.extend fun vs hv => hv.snoc (.inr ⟨name, hc⟩)
  | opening kind name => exact .first h hc .nil
  | otherwise =>
      have hi : Opened.elseIssue? blocks = none := by simpa [issue?, hc] using ht
      simp only [hi, Option.isSome_none, Bool.false_eq_true, if_false]
      cases h with
      | closed h => simp [Opened.elseIssue?] at hi
      | first h ho hb =>
          have hk := (Opened.elseIssue?_eq_none.mp hi).1
          simpa [Opened.withElse] using Open.second h ho hk hb hc .nil
      | second h ho hk hb he hd => cases (Opened.elseIssue?_eq_none.mp hi).2
  | closing word =>
      cases blocks with
      | nil => simp [issue?, hc, Opened.closeIssue?] at ht
      | cons block blocks =>
          have hw : block.kind.word = word :=
            Opened.closeIssue?_eq_none.mp (by simpa [issue?, hc] using ht)
          exact h.close (hw ▸ hc)
  | inclusion name => exact absurd ⟨name, hc⟩ hn

theorem of_scan? {us : List Token} {blocks' : List Opened} (h : Open blocks ts)
    (hu : scan? blocks us = some blocks') (hn : ∀ t ∈ us, ¬ t.isInclusion) :
    Open blocks' (ts ++ us) := by
  induction us generalizing blocks ts with
  | nil => cases hu; simpa using h
  | cons t us ih =>
      cases ht : t.issue? blocks with
      | some issue => simp [scan?, ht] at hu
      | none =>
          rw [scan?_cons_of_fits ht] at hu
          have := ih (h.step ht (hn t (by simp))) hu fun u hu => hn u (by simp [hu])
          simpa using this

/-- Closing the open blocks one after the other completes the tokens. -/
theorem extendable (h : Open blocks ts) : Extendable ts := by
  induction blocks generalizing ts with
  | nil => cases h with | closed h => exact ⟨[], by simpa using h⟩
  | cons block blocks ih =>
      obtain ⟨rest, hr⟩ := ih (h.close (c := ⟨.closing block.kind.word, block.place, .plain⟩) rfl)
      exact ⟨_, by simpa using hr⟩

end Open

/-! ## The scan decides the grammar -/

theorem open_of_scan? {blocks : List Opened} {ts : List Token} (h : scan? [] ts = some blocks)
    (hn : ∀ t ∈ ts, ¬ t.isInclusion) : Open blocks ts := by
  simpa using (Open.closed .nil).of_scan? h hn

theorem wellBracketed_iff_scan? {ts : List Token} (hn : ∀ t ∈ ts, ¬ t.isInclusion) :
    WellBracketed ts ↔ scan? [] ts = some [] := by
  constructor
  · intro h; exact h.scan? []
  · intro h; cases open_of_scan? h hn with | closed h => exact h

theorem Extendable.scan? {ts : List Token} (h : Extendable ts) :
    ∃ blocks, Token.scan? [] ts = some blocks := by
  obtain ⟨rest, h⟩ := h
  have hs := h.scan? []
  rw [scan?_append] at hs
  obtain ⟨blocks, hb, -⟩ := Option.bind_eq_some_iff.mp hs
  exact ⟨blocks, hb⟩

/-- Within the innermost open block stands one body, or two with an else between them. -/
def WithinBlock (tokens : List Token) : Prop :=
  WellBracketed tokens ∨
    ∃ us e vs, tokens = us ++ e :: vs ∧ WellBracketed us ∧ e.content = .otherwise ∧ WellBracketed vs

/-- The innermost open block after a scan is the one whose opening tag is the last that is not
closed. -/
theorem Open.innermost {block : Opened} {blocks : List Opened} {ts : List Token}
    (h : Open (block :: blocks) ts) :
    ∃ us o vs name, ts = us ++ o :: vs ∧ o.content = .opening block.kind name ∧
      o.position = block.place ∧ WithinBlock vs := by
  cases h with
  | first h ho hb => exact ⟨_, _, _, _, rfl, ho, rfl, .inl hb⟩
  | second h ho hk hb he hc => exact ⟨_, _, _, _, rfl, ho, rfl, .inr ⟨_, _, _, rfl, hb, he, hc⟩⟩

theorem scan?_innermost {us vs : List Token} {o : Token} {kind : BlockKind} {name : Text}
    {blocks : List Opened} (h : scan? [] (us ++ o :: vs) = some blocks)
    (ho : o.content = .opening kind name) (hv : WithinBlock vs) :
    ∃ hasElse outer, blocks = ⟨kind, o.position, hasElse⟩ :: outer := by
  rw [scan?_append] at h
  obtain ⟨outer, -, h⟩ := Option.bind_eq_some_iff.mp h
  rw [scan?_opening ho] at h
  obtain hv | ⟨us', e, vs', rfl, hu, he, hv⟩ := hv
  · rw [hv.scan?] at h
    cases h
    exact ⟨false, outer, rfl⟩
  · rw [scan?_append, hu.scan?, Option.bind_some] at h
    cases hi : e.issue? (⟨kind, o.position, false⟩ :: outer) with
    | some issue => simp [scan?, hi] at h
    | none =>
        have he' : Opened.elseIssue? (⟨kind, o.position, false⟩ :: outer) = none := by
          simpa [issue?, he] using hi
        rw [scan?_cons_of_fits hi, hv.scan?] at h
        cases h
        exact ⟨true, outer, by simp [Token.pass, he, he', Opened.withElse]⟩

end TagTemplate
