/-
# Strict compilation accepts the block grammar

A strict compilation of tokens without includes gives a program exactly for the
well-bracketed ones.  The error it gives for others is a matter of the tokens
alone, and `Fault tokens code place` says which it is: the shortest beginning
of the tokens that cannot be continued ends at the place of the error,

    unexpected else      if that token is an else
    unexpected close     if it is a closing tag and no block is open before it
    structural mismatch  if it is a closing tag within a block
    unclosed block       if there is no such beginning; the place is that of
                         the innermost opening tag without its closing tag
-/
import TagTemplate.Proofs.Block.Scan

namespace TagTemplate

open Token

/-- The tokens begin with `before`, which can be continued, and `t`, after which they cannot. -/
structure FirstMisfit (tokens before : List Token) (t : Token) : Prop where
  isPrefix : before ++ [t] <+: tokens
  extendable : Extendable before
  not_extendable : ¬ Extendable (before ++ [t])

/-- What is wrong with tokens that are not well bracketed, and where. -/
inductive Fault (tokens : List Token) : ErrorCode → Position → Prop
  | strayElse {before : List Token} {t : Token} : FirstMisfit tokens before t →
      t.content = .otherwise → Fault tokens .unexpectedElse t.position
  | strayClose {before : List Token} {t : Token} {word : Text} : FirstMisfit tokens before t →
      t.content = .closing word → WellBracketed before → Fault tokens .unexpectedClose t.position
  | wrongClose {before : List Token} {t : Token} {word : Text} : FirstMisfit tokens before t →
      t.content = .closing word → ¬ WellBracketed before →
      Fault tokens .structuralMismatch t.position
  | unclosed {us vs : List Token} {o : Token} {kind : BlockKind} {name : Text} :
      Extendable tokens → tokens = us ++ o :: vs → o.content = .opening kind name →
      WithinBlock vs → Fault tokens .unclosedBlock o.position

/-! ## The scan finds the fault -/

section
variable {tokens before : List Token} {t : Token}

theorem FirstMisfit.issue? (h : FirstMisfit tokens before t) (hn : ∀ t ∈ tokens, ¬ t.isInclusion) :
    ∃ blocks issue, scan? [] before = some blocks ∧ t.issue? blocks = some issue := by
  obtain ⟨blocks, hb⟩ := h.extendable.scan?
  have hmem : ∀ u ∈ before ++ [t], ¬ u.isInclusion := fun u hu => hn u (h.isPrefix.subset hu)
  cases ht : t.issue? blocks with
  | some issue => exact ⟨blocks, issue, hb, ht⟩
  | none =>
      have ho := open_of_scan? hb fun u hu => hmem u (List.mem_append_left _ hu)
      exact absurd (ho.step ht (hmem t (by simp))).extendable h.not_extendable

theorem firstMisfit_of_issue {after : List Token} {blocks : List Opened} {issue : Issue}
    (h : tokens = before ++ t :: after) (hn : ∀ t ∈ tokens, ¬ t.isInclusion)
    (hb : scan? [] before = some blocks) (ht : t.issue? blocks = some issue) :
    FirstMisfit tokens before t := by
  have hpre : before ++ [t] <+: tokens := ⟨after, by simp [h]⟩
  refine ⟨hpre, ?_, ?_⟩
  · have hmem : ∀ u ∈ before, ¬ u.isInclusion := fun u hu => hn u (by simp [h, hu])
    exact (open_of_scan? hb hmem).extendable
  · intro he
    obtain ⟨blocks', hs⟩ := he.scan?
    simp [scan?_append, hb, scan?, ht] at hs

/-! The code of an issue is that of the token it is about. -/

theorem code_of_elseIssue? {blocks : List Opened} {issue : Issue}
    (h : Opened.elseIssue? blocks = some issue) : issue.code = .unexpectedElse := by
  unfold Opened.elseIssue? at h
  split at h
  · cases h; rfl
  · split at h
    · cases h; rfl
    · split at h <;> cases h
      rfl

theorem code_of_closeIssue? {word : Text} {block : Opened} {blocks : List Opened} {issue : Issue}
    (h : Opened.closeIssue? word (block :: blocks) = some issue) :
    issue.code = .structuralMismatch := by
  simp only [Opened.closeIssue?] at h
  split at h <;> cases h
  rfl

theorem FirstMisfit.fault {blocks : List Opened} {issue : Issue} (h : FirstMisfit tokens before t)
    (hn : ∀ t ∈ tokens, ¬ t.isInclusion) (hb : scan? [] before = some blocks)
    (ht : t.issue? blocks = some issue) : Fault tokens issue.code t.position := by
  have hmem : ∀ u ∈ before, ¬ u.isInclusion :=
    fun u hu => hn u (h.isPrefix.subset (List.mem_append_left _ hu))
  unfold Token.issue? at ht
  cases hc : t.content with
  | otherwise =>
      rw [hc] at ht
      exact code_of_elseIssue? ht ▸ .strayElse h hc
  | closing word =>
      rw [hc] at ht
      cases blocks with
      | nil =>
          cases ht
          exact .strayClose h hc ((wellBracketed_iff_scan? hmem).mpr hb)
      | cons block blocks =>
          refine code_of_closeIssue? ht ▸ .wrongClose h hc fun hw => ?_
          rw [hw.scan?] at hb
          cases hb
  | _ => rw [hc] at ht; cases ht

end

/-! ## A strict compilation follows the scan -/

namespace Compilation

variable {c : Compilation}

theorem steps_of_scan? {ts : List Token} {d : Draft} {blocks : List Opened}
    (h : scan? d.opened ts = some blocks) (hn : ∀ t ∈ ts, ¬ t.isInclusion) :
    ∃ d', (c.steps d ts).result = .ok d' ∧ d'.opened = blocks := by
  induction ts generalizing d with
  | nil => cases h; exact ⟨d, rfl, rfl⟩
  | cons t ts ih =>
      cases ht : t.issue? d.opened with
      | some issue => simp [scan?, ht] at h
      | none =>
          rw [scan?_cons_of_fits ht] at h
          obtain ⟨d₁, h₁⟩ := exists_apply_of_not_inclusion (c := c) (d := d) (t := t)
            fun name hname => hn t (by simp) ⟨name, hname⟩
          rw [← opened_of_apply h₁] at h
          obtain ⟨d', hd', ho⟩ := ih h fun u hu => hn u (by simp [hu])
          refine ⟨d', ?_, ho⟩
          show (c.step d t >>= fun d => c.steps d ts).result = _
          rw [Traced.result_bind_eq_ok]
          exact ⟨d₁, by rw [step_of_fits ht, h₁], hd'⟩

/-- The outcome of a strict compilation, by the outcome of the scan. -/
theorem result_compile_of_scan?_closed {tokens : List Token} (h : scan? [] tokens = some [])
    (hn : ∀ t ∈ tokens, ¬ t.isInclusion) : ∃ p, (c.compile tokens).result = .ok p := by
  obtain ⟨d, hd, ho⟩ := steps_of_scan? (c := c) (d := .empty) h hn
  refine ⟨⟨d.ops, c.context.name⟩, ?_⟩
  simp [result_compile, hd, closeAll_of_closed ho]

theorem result_compile_of_scan?_open {tokens : List Token} {block : Opened} {blocks : List Opened}
    (hc : c.strict = true) (h : scan? [] tokens = some (block :: blocks))
    (hn : ∀ t ∈ tokens, ¬ t.isInclusion) :
    (c.compile tokens).result =
      .error ((Issue.unclosed block.kind).error c.context block.place) := by
  obtain ⟨d, hd, ho⟩ := steps_of_scan? (c := c) (d := .empty) h hn
  simp [result_compile, hd, closeAll_of_strict hc ho]

theorem result_compile_of_misfit {before after : List Token} {t : Token} {blocks : List Opened}
    {issue : Issue} (hc : c.strict = true) (h : scan? [] before = some blocks)
    (ht : t.issue? blocks = some issue) (hn : ∀ t ∈ before, ¬ t.isInclusion) :
    (c.compile (before ++ t :: after)).result = .error (issue.error c.context t.position) := by
  obtain ⟨d, hd, rfl⟩ := steps_of_scan? (c := c) (d := .empty) h hn
  have hs : c.steps d (t :: after) = .fail (issue.error c.context t.position) := by
    show c.step d t >>= _ = _
    rw [step_of_strict hc ht]
    rfl
  simp [result_compile, steps_append, hd, hs]

/-! ## The two sides together -/

theorem exists_fault {tokens : List Token} (hc : c.strict = true)
    (hn : ∀ t ∈ tokens, ¬ t.isInclusion) (hw : ¬ WellBracketed tokens) :
    ∃ (issue : Issue) (place : Position),
      (c.compile tokens).result = .error (issue.error c.context place) ∧
      Fault tokens issue.code place := by
  cases hs : scan? [] tokens with
  | none =>
      obtain ⟨before, t, after, blocks, issue, rfl, hb, ht⟩ := exists_misfit_of_scan?_eq_none hs
      refine ⟨issue, t.position, ?_, ?_⟩
      · exact result_compile_of_misfit hc hb ht fun u hu => hn u (by simp [hu])
      · exact (firstMisfit_of_issue rfl hn hb ht).fault hn hb ht
  | some blocks =>
      cases blocks with
      | nil => exact absurd ((wellBracketed_iff_scan? hn).mpr hs) hw
      | cons block blocks =>
          have ho := open_of_scan? hs hn
          obtain ⟨us, o, vs, name, htok, hcont, hpos, hv⟩ := ho.innermost
          refine ⟨.unclosed block.kind, block.place, result_compile_of_scan?_open hc hs hn, ?_⟩
          exact hpos ▸ .unclosed ho.extendable htok hcont hv

theorem result_compile_of_fault {tokens : List Token} {code : ErrorCode} {place : Position}
    (hc : c.strict = true) (hn : ∀ t ∈ tokens, ¬ t.isInclusion) (h : Fault tokens code place) :
    ∃ issue : Issue, issue.code = code ∧
      (c.compile tokens).result = .error (issue.error c.context place) := by
  have misfit : ∀ {before : List Token} {t : Token}, FirstMisfit tokens before t →
      ∃ blocks issue, scan? [] before = some blocks ∧ t.issue? blocks = some issue ∧
        (c.compile tokens).result = .error (issue.error c.context t.position) := by
    intro before t h
    obtain ⟨blocks, issue, hb, ht⟩ := h.issue? hn
    obtain ⟨after, htok⟩ := h.isPrefix
    rw [List.append_assoc] at htok
    subst htok
    exact ⟨blocks, issue, hb, ht, result_compile_of_misfit hc hb ht fun u hu => hn u (by simp [hu])⟩
  cases h with
  | strayElse h ht =>
      obtain ⟨blocks, issue, -, hi, hr⟩ := misfit h
      exact ⟨issue, code_of_elseIssue? (by simpa [Token.issue?, ht] using hi), hr⟩
  | strayClose h ht hw =>
      obtain ⟨blocks, issue, hb, hi, hr⟩ := misfit h
      rw [hw.scan?] at hb
      cases hb
      simp only [Token.issue?, ht, Opened.closeIssue?, Option.some.injEq] at hi
      exact ⟨issue, hi ▸ rfl, hr⟩
  | @wrongClose before t word h ht hw =>
      obtain ⟨blocks, issue, hb, hi, hr⟩ := misfit h
      have hmem : ∀ u ∈ before, ¬ u.isInclusion :=
        fun u hu => hn u (h.isPrefix.subset (List.mem_append_left _ hu))
      cases blocks with
      | nil => exact absurd ((wellBracketed_iff_scan? hmem).mpr hb) hw
      | cons block blocks =>
          exact ⟨issue, code_of_closeIssue? (by simpa [Token.issue?, ht] using hi), hr⟩
  | unclosed he htok ho hv =>
      obtain ⟨blocks, hs⟩ := he.scan?
      obtain ⟨hasElse, outer, rfl⟩ := scan?_innermost (htok ▸ hs) ho hv
      exact ⟨_, rfl, result_compile_of_scan?_open hc hs hn⟩

/-- **Strict compilation accepts the block grammar.**  Tokens without includes give a program if
and only if they are well bracketed, and otherwise an error, whose code and place are the one
fault of the tokens. -/
theorem compile_strict_iff_wellBracketed {tokens : List Token} (hc : c.strict = true)
    (hn : ∀ t ∈ tokens, ¬ t.isInclusion) :
    ((∃ p, (c.compile tokens).result = .ok p) ↔ WellBracketed tokens) ∧
    (¬ WellBracketed tokens → ∃ (r : SyntaxReport) (place : Position),
      (c.compile tokens).result = .error (.mismatched r) ∧
      r.line = some place.line ∧ r.column = some place.column ∧
      ∀ code place', Fault tokens code place' ↔ code = r.code ∧ place' = place) := by
  refine ⟨⟨?_, ?_⟩, ?_⟩
  · rintro ⟨p, hp⟩
    by_cases hw : WellBracketed tokens
    · exact hw
    · obtain ⟨issue, place, hr, -⟩ := exists_fault hc hn hw
      rw [hr] at hp
      cases hp
  · intro hw
    exact result_compile_of_scan?_closed (hw.scan? []) hn
  · intro hw
    obtain ⟨issue, place, hr, hf⟩ := exists_fault hc hn hw
    refine ⟨_, place, hr, rfl, rfl, fun code place' => ⟨fun hf' => ?_, ?_⟩⟩
    · obtain ⟨issue', rfl, hr'⟩ := result_compile_of_fault hc hn hf'
      rw [hr] at hr'
      simp only [Issue.error, Except.error.injEq, Error.mismatched.injEq, SyntaxReport.mk.injEq,
        Option.some.injEq] at hr'
      obtain ⟨-, hline, -, -, hcolumn, hcode⟩ := hr'
      cases place
      cases place'
      simp_all
    · rintro ⟨rfl, rfl⟩
      exact hf

/-- An else directly in a loop, where the grammar has none. -/
theorem compile_strict_else_in_loop :
    let c : Compilation := ⟨true, none, .outermost none, .null⟩
    let tokens : List Token :=
      [⟨.opening .ifBlock "a", ⟨1, 0⟩, .plain⟩, ⟨.opening .loopBlock "rows", ⟨1, 16⟩, .plain⟩,
        ⟨.otherwise, ⟨2, 0⟩, .plain⟩, ⟨.closing "loop", ⟨2, 10⟩, .plain⟩,
        ⟨.closing "if", ⟨2, 22⟩, .plain⟩]
    c.strict = true ∧ (∀ t ∈ tokens, ¬ t.isInclusion) ∧ ¬ WellBracketed tokens ∧
    (¬ ∃ p, (c.compile tokens).result = .ok p) ∧
    ∃ (r : SyntaxReport) (place : Position), (c.compile tokens).result = .error (.mismatched r) ∧
      r.line = some place.line ∧ r.column = some place.column ∧
      ∀ code place', Fault tokens code place' ↔ code = r.code ∧ place' = place := by
  intro c tokens
  have hn : ∀ t ∈ tokens, ¬ t.isInclusion := by simp [tokens, Token.isInclusion]
  have hw : ¬ WellBracketed tokens := by
    rw [wellBracketed_iff_scan? hn]
    decide
  have h := compile_strict_iff_wellBracketed (c := c) rfl hn
  exact ⟨rfl, hn, hw, fun hp => hw (h.1.mp hp), h.2 hw⟩

end Compilation

end TagTemplate
