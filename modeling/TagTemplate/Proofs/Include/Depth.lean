/-
# The depth limit — exact, and met in document order

A tolerant compilation can only fail at an include, and it fails at the first of its
includes that does, with its error (`failsAt_compile`).  Suppose that every include finds
a template, that all of them can be read and that those included can be run.  Then the only
includes to fail are those at the limit, and those in which such an include is:

    main            depth 0      the stack at the failing include
      includes n₁         1        main
        includes n₂       2        main, n₁
          …
            includes nₖ    fails    main, n₁, …, nₖ₋₁          k is the limit and one more

So compiling fails just if there is a chain one longer than the limit, and says so of the
first of them in document order (`compile_tooDeep_iff_chain`).  Nothing is said of the data:
whether the output would show what is included does not matter.
-/
import TagTemplate.Proofs.Include.Calm
import TagTemplate.Proofs.Include.Chains

namespace TagTemplate

variable {α β γ : Type}

/-! ## Failing at the first -/

/-- The result fails, with its error, at the first of what may make it fail; if there is none it
does not fail. -/
def FailsAt (error : α → Error) : List α → Except Error β → Prop
  | [], r => ∃ b, r = .ok b
  | a :: _, r => r = .error (error a)

namespace FailsAt

variable {error error' : α → Error} {as bs : List α} {r : Except Error β} {f : β → Except Error γ}

theorem ok (b : β) : FailsAt error [] (.ok b) := ⟨b, rfl⟩

theorem bind (h : FailsAt error as r) (hf : ∀ b, r = .ok b → FailsAt error bs (f b)) :
    FailsAt error (as ++ bs) (r >>= f) := by
  cases as with
  | nil =>
      obtain ⟨b, rfl⟩ := h
      exact hf b rfl
  | cons a as =>
      cases h
      exact rfl

theorem bind_ok (h : FailsAt error as r) (hf : ∀ b, r = .ok b → ∃ c, f b = .ok c) :
    FailsAt error as (r >>= f) := by
  rw [← List.append_nil as]
  exact h.bind hf

theorem congr (h : FailsAt error as r) (heq : ∀ a ∈ as, error a = error' a) :
    FailsAt error' as r := by
  cases as with
  | nil => exact h
  | cons a as => exact Eq.trans h (by rw [heq a List.mem_cons_self])

theorem map {δ : Type} {g : δ → α} {ds : List δ} (h : FailsAt (fun d => error (g d)) ds r) :
    FailsAt error (ds.map g) r := by
  cases ds with
  | nil => exact h
  | cons d ds => exact h

end FailsAt

/-! ## One compilation -/

namespace Compilation

variable {c : Compilation} {chains : Text → List α} {error : α → Error}

theorem failsAt_step (hc : c.strict = false) (d : Draft) {t : Token}
    (hfetch : ∀ name, t.inclusion? = some name →
      FailsAt error (chains name) (c.fetchText name).result) :
    FailsAt error (t.inclusion?.toList.flatMap chains) (c.step d t).result := by
  rw [step_eq, Traced.result_bind, result_reportAny hc, Traced.ok_bind]
  by_cases hname : ∃ name, t.content = .inclusion name
  · obtain ⟨name, hname⟩ := hname
    have hinclusion := Token.inclusion?_eq_some.mpr hname
    simp only [hinclusion, Option.toList_some, List.flatMap_singleton, apply, hname,
      Traced.result_bind]
    exact (hfetch name hinclusion).bind_ok fun text _ => ⟨_, rfl⟩
  · have hnone : t.inclusion? = none := by
      rw [Option.eq_none_iff_forall_ne_some]
      exact fun name h => hname ⟨name, Token.inclusion?_eq_some.mp h⟩
    rw [hnone]
    exact exists_apply_of_not_inclusion fun name h => hname ⟨name, h⟩

theorem failsAt_steps (hc : c.strict = false) (d : Draft) {ts : List Token}
    (hfetch : ∀ name ∈ ts.filterMap Token.inclusion?,
      FailsAt error (chains name) (c.fetchText name).result) :
    FailsAt error ((ts.filterMap Token.inclusion?).flatMap chains) (c.steps d ts).result := by
  induction ts generalizing d with
  | nil => exact .ok d
  | cons t ts ih =>
      have hsplit : (t :: ts).filterMap Token.inclusion? =
          t.inclusion?.toList ++ ts.filterMap Token.inclusion? := by
        cases h : t.inclusion? <;> simp [h]
      rw [hsplit] at hfetch ⊢
      rw [List.flatMap_append, steps, Traced.result_bind]
      have hhere : ∀ name, t.inclusion? = some name →
          FailsAt error (chains name) (c.fetchText name).result := fun name h =>
        hfetch name (List.mem_append_left _ (by rw [h]; exact List.mem_cons_self))
      exact (failsAt_step hc d hhere).bind fun d' _ =>
        ih d' fun name h => hfetch name (List.mem_append_right _ h)

theorem exists_closeAll (hc : c.strict = false) (d : Draft) (blocks : List OpenBlock) :
    ∃ d', (c.closeAll d blocks).result = .ok d' := by
  induction blocks generalizing d with
  | nil => exact ⟨d, rfl⟩
  | cons block blocks ih =>
      rw [closeAll, Traced.result_bind, result_report hc]
      exact ih _

/-- A tolerant compilation fails at the first of its includes to fail. -/
theorem failsAt_compile (hc : c.strict = false) {ts : List Token}
    (hfetch : ∀ name ∈ ts.filterMap Token.inclusion?,
      FailsAt error (chains name) (c.fetchText name).result) :
    FailsAt error ((ts.filterMap Token.inclusion?).flatMap chains) (c.compile ts).result := by
  rw [result_compile]
  refine (failsAt_steps hc .empty hfetch).bind_ok fun d _ => ?_
  obtain ⟨d', hd'⟩ := exists_closeAll hc d d.blocks
  rw [hd']
  exact ⟨_, rfl⟩

end Compilation

/-! ## Templates that include templates -/

/-- The context after including one template after the other. -/
def Context.along (c : Context) (names : List Text) : Context := names.foldl Context.child c

namespace Context

variable (c : Context) (names : List Text)

theorem along_snoc (name : Text) : c.along (names ++ [name]) = (c.along names).child name := by
  rw [along, List.foldl_append]
  rfl

@[simp] theorem limit_along : (c.along names).limit = c.limit := by
  induction names generalizing c with
  | nil => rfl
  | cons name names ih => exact ih (c.child name)

@[simp] theorem depth_along : (c.along names).depth = c.depth + names.length := by
  induction names generalizing c with
  | nil => simp [along]
  | cons name names ih =>
      show ((c.child name).along names).depth = _
      rw [ih, List.length_cons]
      simp only [child]
      omega

theorem stack_child {name : Text} (h : name ≠ []) : (c.child name).stack = c.stack ++ [name] := by
  obtain ⟨d, r, rfl⟩ := List.exists_cons_of_ne_nil h
  rfl

end Context

namespace Environment

section

variable [Traits] {env : Environment} {templates : List (Text × Text)} {name : Option Text}
  {data : Value} {source : Text}

/-- All that a source includes, directly or not, is at hand: it is in the table and not empty, it
can be read, and what is included runs without a failure, wherever it is not too deep. -/
structure Supplies (env : Environment) (templates : List (Text × Text)) (name : Option Text)
    (data : Value) (source : Text) : Prop where
  loader : env.loader = some (.mapping templates)
  read : ∀ names text, env.Leads templates source names text →
    ∃ tokens, Token.ofSource env.readsNewlines text = .ok tokens
  stored : ∀ names text, env.Leads templates source names text → ∀ n ∈ env.inclusions text,
    ∃ text', templates.lookup n = some text' ∧ text' ≠ []
  runs : ∀ names text program, env.Leads templates source names text → names ≠ [] →
    names.length ≤ env.maxIncludeDepth.toNat →
    (env.compile ((env.context name).along names) data text).result = .ok program →
    ∃ output, program.execute data env.escapers = .ok output

omit [Traits] in
theorem limit_context_along (env : Environment) (name : Option Text) (names : List Text) :
    ((env.context name).along names).limit = env.maxIncludeDepth := Context.limit_along _ _

omit [Traits] in
theorem depth_context_along (env : Environment) (name : Option Text) (names : List Text) :
    ((env.context name).along names).depth = names.length :=
  (Context.depth_along _ _).trans (Int.zero_add _)

theorem failsAt_compile (hstrict : env.strict = false) {context : Context} {text : Text}
    (hread : ∃ tokens, Token.ofSource env.readsNewlines text = .ok tokens)
    {error : List Text → Error} {chains : Text → List (List Text)}
    (hfetch : ∀ n ∈ env.inclusions text, FailsAt error (chains n)
      ((env.compilation context.room context data text).fetchText n).result) :
    FailsAt error ((env.inclusions text).flatMap chains)
      (env.compile context data text).result := by
  obtain ⟨tokens, htokens⟩ := hread
  rw [inclusions_eq htokens] at hfetch ⊢
  rw [compile, compileWithin_eq, htokens, Traced.result_bind, Traced.result_of, Traced.ok_bind]
  exact Compilation.failsAt_compile hstrict hfetch

/-- A source of the table, compiled where a chain has led, fails at the first chain from there that
is too long.  The induction is on the includes that are left to the limit. -/
theorem Supplies.failsAt_compile (h : env.Supplies templates name data source)
    (hstrict : env.strict = false) {room : Nat} {names : List Text} {text : Text}
    (hleads : env.Leads templates source names text)
    (hroom : ((env.context name).along names).room = room) :
    FailsAt (fun chain => .tooDeep (chain.getLastD []) env.maxIncludeDepth
        (((env.context name).along names).stack ++ chain.dropLast))
      (env.chains templates (room + 1) text)
      (env.compile ((env.context name).along names) data text).result := by
  induction room generalizing names text with
  | zero =>
      refine Environment.failsAt_compile hstrict (h.read names text hleads) fun n hn => ?_
      obtain ⟨text', hlookup, -⟩ := h.stored names text hleads n hn
      have hle : ((env.context name).along names).limit ≤ ((env.context name).along names).depth :=
        Int.not_lt.mp fun hlt => by rw [Context.room_child hlt []] at hroom; cases hroom
      rw [hlookup, fetchText_of_limit_le hle, limit_context_along]
      show _ = _
      simp
  | succ room ih =>
      refine Environment.failsAt_compile hstrict (h.read names text hleads) fun n hn => ?_
      obtain ⟨text', hlookup, hne⟩ := h.stored names text hleads n hn
      have hlt : ((env.context name).along names).depth < ((env.context name).along names).limit :=
        Int.not_le.mp fun hle => by rw [Context.room_eq_zero hle] at hroom; cases hroom
      have hleads' := hleads.trans (.step hn hlookup .refl)
      have hchild := Context.along_snoc (env.context name) names n
      have hroom' : ((env.context name).along (names ++ [n])).room = room := by
        rw [Context.room_child hlt n, ← hchild] at hroom
        exact Nat.succ.inj hroom
      rw [hlookup, hroom, fetchText_of_depth_lt hlt, Traced.result_bind, Traced.result_emit,
        Traced.ok_bind, result_includeText_mapping h.loader hlookup hne, ← hchild,
        compileWithin_of_le (Nat.le_of_eq hroom')]
      refine FailsAt.map (FailsAt.congr ((ih hleads' hroom').bind_ok fun program hprogram => ?_) ?_)
      · refine h.runs _ _ program hleads' (by simp) ?_ hprogram
        rw [limit_context_along, depth_context_along] at hlt
        rw [List.length_append, List.length_singleton]
        omega
      · intro chain hchain
        obtain ⟨hlength, -⟩ := mem_chains.mp hchain
        obtain ⟨m, rest, rfl⟩ := List.exists_cons_of_length_eq_add_one hlength
        rw [hchild, Context.stack_child _ (isNamePart_of_mem_inclusions hn).1]
        simp

theorem Supplies.failsAt_chains (h : env.Supplies templates name data source)
    (hstrict : env.strict = false) :
    FailsAt (fun chain => .tooDeep (chain.getLastD []) env.maxIncludeDepth
        (displayName name :: chain.dropLast))
      (env.chains templates (env.maxIncludeDepth.toNat + 1) source)
      (env.compile (env.context name) data source).result := by
  have hroom : ((env.context name).along []).room = env.maxIncludeDepth.toNat := by
    rw [Context.room, limit_context_along, depth_context_along]
    simp
  exact h.failsAt_compile hstrict .refl hroom

theorem Supplies.tooDeep_iff_leads (h : env.Supplies templates name data source)
    (hstrict : env.strict = false) :
    (∃ n m stack, (env.compile (env.context name) data source).result =
        .error (.tooDeep n m stack)) ↔
      ∃ names last, env.Leads templates source names last ∧
        names.length = env.maxIncludeDepth.toNat + 1 := by
  have hfails := h.failsAt_chains hstrict
  constructor
  · rintro ⟨n, m, stack, herror⟩
    cases hchains : env.chains templates (env.maxIncludeDepth.toNat + 1) source with
    | nil =>
        rw [hchains] at hfails
        obtain ⟨program, hok⟩ := hfails
        cases herror.symm.trans hok
    | cons names others =>
        obtain ⟨hlength, last, hleads⟩ := mem_chains.mp (hchains ▸ List.mem_cons_self)
        exact ⟨names, last, hleads, hlength⟩
  · rintro ⟨names, last, hleads, hlength⟩
    have hmem := mem_chains.mpr ⟨hlength, last, hleads⟩
    obtain ⟨first, others, hchains⟩ := List.exists_cons_of_ne_nil (List.ne_nil_of_mem hmem)
    rw [hchains] at hfails
    exact ⟨_, _, _, hfails⟩

/-- **The depth limit is exact.**  Where all that a source includes is at hand, a tolerant
compilation ends, however much room for includes is counted; it fails just if there is a chain of
includes one longer than the limit, and then names the first such chain in document order; without
such a chain it gives a program.  So every circle that can be reached is refused. -/
theorem compile_tooDeep_iff_chain (h : env.Supplies templates name data source)
    (hstrict : env.strict = false) :
    let limit := env.maxIncludeDepth
    let compiled := env.compile (env.context name) data source
    (∀ room, (env.context name).room ≤ room →
      env.compileWithin room (env.context name) data source = compiled) ∧
    ((∃ n m stack, compiled.result = .error (.tooDeep n m stack)) ↔
      ∃ names last, env.Leads templates source names last ∧ names.length = limit.toNat + 1) ∧
    (∀ names others, env.chains templates (limit.toNat + 1) source = names :: others →
      compiled.result =
        .error (.tooDeep (names.getLastD []) limit (displayName name :: names.dropLast))) ∧
    ((∀ names last, env.Leads templates source names last → names.length ≤ limit.toNat) →
      ∃ program, compiled.result = .ok program) ∧
    ∀ names text circle, env.Leads templates source names text →
      env.Leads templates text circle text → circle ≠ [] →
        ∃ n m stack, compiled.result = .error (.tooDeep n m stack) := by
  intro limit compiled
  have hfails := h.failsAt_chains hstrict
  have hiff := h.tooDeep_iff_leads hstrict
  refine ⟨fun room => compileWithin_of_le, hiff, fun names others hchains => ?_, fun hshort => ?_,
    fun names text circle hleads hcircle hne => ?_⟩
  · rw [hchains] at hfails
    exact hfails
  · cases hchains : env.chains templates (limit.toNat + 1) source with
    | nil =>
        rw [hchains] at hfails
        exact hfails
    | cons names others =>
        obtain ⟨hlength, last, hleads⟩ := mem_chains.mp (hchains ▸ List.mem_cons_self)
        have := hshort names last hleads
        omega
  · obtain ⟨names', last, hlength, hleads'⟩ :=
      exists_leads_of_circle hleads hcircle hne (limit.toNat + 1)
    exact hiff.mpr ⟨names', last, hleads', hlength⟩

omit [Traits] in
/-- Among sources that include only one another, includes lead to no other source. -/
theorem Leads.mem_of_closed {sources names : List Text} {last : Text}
    (hclosed : ∀ text ∈ sources, ∀ n ∈ env.inclusions text,
      ∃ text' ∈ sources, templates.lookup n = some text' ∧ text' ≠ [])
    (h : env.Leads templates source names last) (hsource : source ∈ sources) : last ∈ sources := by
  induction h with
  | refl => exact hsource
  | step hname hlookup _ ih =>
      obtain ⟨text', hmem, hlookup', -⟩ := hclosed _ hsource _ hname
      cases hlookup.symm.trans hlookup'
      exact ih hmem

omit [Traits] in
theorem exists_ok_of_isSome {r : Except Error α} (h : r.toOption.isSome = true) :
    ∃ a, r = .ok a := by
  cases r with
  | error e => cases h
  | ok a => exact ⟨a, rfl⟩

end

attribute [local instance] Traits.bare

set_option maxRecDepth 20000 in
/-- Two includes, one of which includes the other, at the limit of one. -/
theorem tooDeep_second_include :
    let templates : List (Text × Text) := [("b", "x<tmpl_include c>"), ("c", "y")]
    let env : Environment := .make (some (.mapping templates)) false false 1 .standard
    let source : Text := "<tmpl_if no><tmpl_include c><tmpl_include b></tmpl_if>"
    env.Supplies templates none .null source ∧
      (env.compile (env.context none) .null source).result =
        .error (.tooDeep "c" 1 ["<template>", "b"]) := by
  intro templates env source
  let sources : List Text := [source, "x<tmpl_include c>", "y"]
  have hfacts : (∀ text ∈ sources, (Token.ofSource env.readsNewlines text).toOption.isSome = true) ∧
      (∀ text ∈ sources, ∀ n ∈ env.inclusions text,
        ∃ text' ∈ sources, templates.lookup n = some text' ∧ text' ≠ []) ∧
      env.inclusions source = (["c", "b"] : List Text) ∧
      ((env.compile ((env.context none).along ["c"]) .null "y").result.bind fun program =>
        program.execute .null env.escapers).toOption.isSome = true ∧
      (env.compile ((env.context none).along ["b"]) .null
        "x<tmpl_include c>").result.toOption.isSome = false ∧
      env.chains templates 2 source = ([["b", "c"]] : List (List Text)) := by
    decide +kernel +zetaReduce +revert
  obtain ⟨hread, hclosed, hinclusions, hrun, hfail, hchains⟩ := hfacts
  have hsources : ∀ names text, env.Leads templates source names text → text ∈ sources :=
    fun names text hleads => hleads.mem_of_closed hclosed List.mem_cons_self
  have hsupplies : env.Supplies templates none .null source := by
    refine ⟨rfl, fun names text hleads => exists_ok_of_isSome (hread _ (hsources _ _ hleads)),
      fun names text hleads n hn => ?_, fun names text program hleads hne hshort hprogram => ?_⟩
    · obtain ⟨text', -, hstored⟩ := hclosed _ (hsources _ _ hleads) n hn
      exact ⟨text', hstored⟩
    -- at the limit of one, only the two templates the source itself includes are compiled
    · cases hleads with
      | refl => exact absurd rfl hne
      | step hname hlookup hleads =>
          cases hleads with
          | step => exact absurd hshort (by simp [env, make])
          | refl =>
              rw [hinclusions, List.mem_cons, List.mem_singleton] at hname
              rcases hname with rfl | rfl
              · cases hlookup.symm.trans (by decide : _ = some ("y" : Text))
                rw [hprogram] at hrun
                exact exists_ok_of_isSome hrun
              · cases hlookup.symm.trans (by decide : _ = some ("x<tmpl_include c>" : Text))
                rw [hprogram] at hfail
                cases hfail
  exact ⟨hsupplies, (compile_tooDeep_iff_chain hsupplies rfl).2.2.1 _ _ hchains⟩

end Environment

end TagTemplate
