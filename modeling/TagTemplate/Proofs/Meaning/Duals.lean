/-
# Duals — an if block and the unless block with its branches exchanged

    before  <tmpl_if n>      yes  <tmpl_else>  no   </tmpl_if>      after
    before  <tmpl_unless n>  no   <tmpl_else>  yes  </tmpl_unless>  after

The two compile to programs of different layout.  They have the same outcome for data in which `n`
leads to no empty sequence when the conditional is evaluated, in whatever loops it stands
(`execute_if_eq_unless`).  An empty sequence passes neither guard.  A sequence too long to be
counted has to be kept away too: the guard of the if block fails for it, and that of the unless
block does not (`execute_if_overlong`).

The conditional is the operation after those of `before`, and stays there (`Draft.Settled`).  What
its name leads to in a run is in the data, along the loops around it (`exists_along_of_meets`).
-/
import TagTemplate.Proofs.Compile.Settled
import TagTemplate.Proofs.Include.Inline
import TagTemplate.Proofs.Machine.Safety
import TagTemplate.Proofs.Meaning.Exchange

namespace TagTemplate

/-! ## The place of a conditional -/

namespace Outline

variable {ps : List Pending} {before body other : Body} {place turn close : Position}
  {negated : Bool} {name : Text} {i : Nat}

theorem spares_of_mem_blocksOf {block : OpenBlock} (h : block ∈ blocksOf ps)
    (hi : (opsOf ps).length ≤ i) : block.Spares i := by
  induction ps with
  | nil => cases h
  | cons p ps ih =>
      cases p with
      | first before place kind name =>
          rw [length_opsOf_first] at hi
          cases h with
          | head => exact ⟨by simp [Pending.block]; omega, nofun⟩
          | tail _ h => exact ih h (by omega)
      | second before place negated name body turn =>
          rw [length_opsOf_second] at hi
          cases h with
          | head => exact ⟨by simp [Pending.block]; omega, by simp [Pending.block]; omega⟩
          | tail _ h => exact ih h (by omega)

theorem settled_choice :
    ∃ i j : Int, (draft ⟨ps, .choice before place negated name body turn other close⟩).Settled
      (draft ⟨ps, before⟩).ops.size
      ⟨place, .branch negated ((scopeIn ps).resolve name) (some i) j⟩ := by
  have hsize : (draft ⟨ps, before⟩).ops.size = (opsBefore ps before).length := rfl
  let alternative := (opsOf ps).length + before.size + 1 + body.size
  refine ⟨alternative, (alternative + 1 + other.size : Nat), ?_, nofun, fun block hblock => ?_⟩
  · show (opsOf ps ++ (before.code _ _ ++ _ :: _)).toArray[_]? = _
    rw [List.getElem?_toArray, ← List.append_assoc, hsize, opsBefore,
      List.getElem?_append_right (Nat.le_refl _), Nat.sub_self]
    rfl
  · refine spares_of_mem_blocksOf hblock ?_
    show (opsOf ps).length ≤ _
    rw [hsize, length_opsBefore]
    omega

theorem related_dual (place' turn' close' : Position) :
    Related (ExchangedIn (draft ⟨ps, before⟩).ops.size ((scopeIn ps).resolve name))
      ⟨ps, .choice before place false name body turn other close⟩
      ⟨ps, .choice before place' true name other turn' body close'⟩ :=
  .of_current (congruence_exchanged _ _) (.dual length_opsBefore.symm rfl)

end Outline

namespace Compilation

open Outline Token Machine

variable {c : Compilation} {ts before after yes no : List Token} {o e cl o' e' cl' : Token}
  {n : Text}

/-- Balanced tokens put a body wherever they stand, once their includes can be fetched. -/
theorem exists_puts (hts : Balanced ts) (htexts : ∀ t ∈ ts, ∀ name, t.content = .inclusion name →
      (c.fetchText name).result = .ok (c.fetched name)) : ∃ b, c.Puts ts b := by
  obtain ⟨b, hb⟩ := hts.exists_spells c.fetched
  exact ⟨b, puts_of_spliced hb htexts⟩

/-- The tokens with the dual compile, too, and come to an exchanged body. -/
theorem exists_exchanged {p : Program} (hyes : Balanced yes) (hno : Balanced no)
    (ho : o.content = .opening .ifBlock n) (he : e.content = .otherwise)
    (hc : cl.content = .closing BlockKind.ifBlock.word)
    (ho' : o'.content = .opening .unlessBlock n) (he' : e'.content = .otherwise)
    (hc' : cl'.content = .closing BlockKind.unlessBlock.word)
    (hp : (c.compile (before ++ (o :: (yes ++ e :: (no ++ [cl])) ++ after))).result = .ok p) :
    ∃ (d : Draft) (p' : Program) (b b' : Body),
      (c.steps .empty before).result = .ok d ∧
      (∃ i j, p.ops[d.ops.size]? =
        some ⟨o.position, .branch false (d.scope.resolve n) (some i) j⟩) ∧
      (c.compile (before ++ (o' :: (no ++ e' :: (yes ++ [cl'])) ++ after))).result = .ok p' ∧
      p.ops.toList = b.code 0 .root ∧ p'.ops.toList = b'.code 0 .root ∧
      b.Exchanged d.ops.size (d.scope.resolve n) 0 .root b' := by
  obtain ⟨last, hlast, hp⟩ := Traced.result_bind_eq_ok.mp (c.compile_eq_rest _ ▸ hp)
  cases hp
  rw [rest_append] at hlast
  obtain ⟨d, hbefore, hlast⟩ := Traced.result_bind_eq_ok.mp hlast
  obtain ⟨⟨ps, a⟩, rfl⟩ := exists_of_steps (o := .empty) hbefore
  rw [rest_append] at hlast
  obtain ⟨d₁, hblock, hafter⟩ := Traced.result_bind_eq_ok.mp hlast
  -- the branches are bodies, in this order or the other
  have hfetched := result_fetchText_of_steps hblock
  obtain ⟨body, hbody⟩ := exists_puts (c := c) hyes fun t ht => hfetched t (by simp [ht])
  obtain ⟨other, hother⟩ := exists_puts (c := c) hno fun t ht => hfetched t (by simp [ht])
  change o.content = .opening (.guarded false) n at ho
  change o'.content = .opening (.guarded true) n at ho'
  have hif := steps_choice ho hbody he hother hc ps a
  have hunless := steps_choice ho' hother he' hbody hc' ps a
  rw [hif] at hblock
  cases hblock
  -- what is left comes to exchanged bodies
  obtain ⟨i, j, hsettled⟩ := settled_choice
  obtain ⟨b, b', rfl, hafter', hexchanged⟩ := Related.exists_rest (congruence_exchanged _ _)
    (related_dual o'.position e'.position cl'.position) hafter
  refine ⟨_, ⟨(draft ⟨[], b'⟩).ops, c.context.name⟩, b, b', hbefore,
    ⟨i, j, (hsettled.of_rest hafter).at_index⟩, ?_, rfl, rfl, hexchanged⟩
  rw [compile_eq_rest]
  refine Traced.result_bind_eq_ok.mpr ⟨draft ⟨[], b'⟩, ?_, rfl⟩
  rw [result_rest_append hbefore, result_rest_append hunless, hafter']

section

variable [Traits]

/-- What a reference leads to in a run is in the data, along the loops around it. -/
theorem exists_along_of_meets {m : Setup} {k : Nat} {op : Op} {ref : Ref} {v : Value}
    (h : (c.compile ts).result = .ok m.program) (hop : m.program.ops[k]? = some op)
    (hr : op.action.ref? = some ref) (hv : m.Meets k ref v) :
    ∃ index? item, m.data.along? index? ref.frames = some item ∧
      item.lookupPath ref.path = .ok v := by
  obtain ⟨body, hb⟩ := exists_body_of_compile h
  have hw := Program.WellLinked.of_linkedOn (Program.linkedOn_of_code hb)
  obtain ⟨s, hs, hpc, hv⟩ := hv
  obtain ⟨i, hi⟩ := Setup.placed_of_reachable hw hs
  have ha := hi.actionAt?_eq (by rw [hpc, Setup.opAt?_natCast, hop])
  obtain ⟨item, hitem, hbase⟩ := hi.exists_item hw ha hr
  refine ⟨s.index?, item, hitem, ?_⟩
  rw [Setup.resolve, hbase] at hv
  exact hv

/-- **If and unless are duals, but for empty sequences.**  Well-bracketed tokens with a conditional
compile; and where tokens with a conditional compile, so do those with its dual.  The conditional is
the operation after those of the tokens before it, and both programs have the same outcome for data
in which its name leads, whenever that operation is next in a run, to no sequence that is empty or
too long to be counted.  No value passes both guards, and those that pass neither are the empty
sequences; a guard fails for a signaling decimal, and that of an if block for a sequence that is too
long. -/
theorem execute_if_eq_unless (hyes : Balanced yes) (hno : Balanced no)
    (ho : o.content = .opening .ifBlock n) (he : e.content = .otherwise)
    (hc : cl.content = .closing BlockKind.ifBlock.word)
    (ho' : o'.content = .opening .unlessBlock n) (he' : e'.content = .otherwise)
    (hc' : cl'.content = .closing BlockKind.unlessBlock.word) :
    let ifTokens := before ++ [o] ++ yes ++ [e] ++ no ++ [cl] ++ after
    let unlessTokens := before ++ [o'] ++ no ++ [e'] ++ yes ++ [cl'] ++ after
    (WellBracketed ifTokens → ∃ p, (c.compile ifTokens).result = .ok p) ∧
    (∀ p, (c.compile ifTokens).result = .ok p →
      ∃ d p', (c.steps .empty before).result = .ok d ∧
        (∃ i j, p.ops[d.ops.size]? =
          some ⟨o.position, .branch false (d.scope.resolve n) (some i) j⟩) ∧
        (c.compile unlessTokens).result = .ok p' ∧
        ∀ (data : Value) (escapers : EscapeTable),
          (∀ v, Setup.Meets ⟨p, data, escapers⟩ d.ops.size (d.scope.resolve n) v →
            ¬ v.IsEmptySequence ∧ ¬ v.IsUncountable) →
          p.execute data escapers = p'.execute data escapers) ∧
    ∀ v : Value,
      ¬ (v.guard false = .ok true ∧ v.guard true = .ok true) ∧
      (v.guard false = .ok false ∧ v.guard true = .ok false ↔ v.IsEmptySequence) ∧
      (∀ error, v.guard false = .error error ↔
        v.IsSignaling ∧ error = .signalingComparison ∨
          v.IsUncountable ∧ error = .lengthOverflow) ∧
      ∀ error, v.guard true = .error error ↔ v.IsSignaling ∧ error = .signalingComparison := by
  intro ifTokens unlessTokens
  refine ⟨fun ⟨body, hs⟩ => ?_, fun p hp => ?_, fun v => ?_⟩
  · obtain ⟨p, hp, -⟩ := exists_compile_of_spells (c := c) hs
    exact ⟨p, hp⟩
  · have hif : ifTokens = before ++ (o :: (yes ++ e :: (no ++ [cl])) ++ after) := by
      simp [ifTokens]
    have hunless : unlessTokens = before ++ (o' :: (no ++ e' :: (yes ++ [cl'])) ++ after) := by
      simp [unlessTokens]
    rw [hif] at hp
    obtain ⟨d, p', b, b', hd, hop, hp', hb, hb', hexchanged⟩ :=
      exists_exchanged hyes hno ho he hc ho' he' hc' hp
    exact ⟨d, p', hd, hop, hunless ▸ hp', fun data escapers hmeets =>
      hexchanged.execute_eq hb hb' hmeets⟩
  · exact ⟨v.not_guard_both, v.guard_neither_iff, fun error => Value.guard_if_eq_error_iff,
      fun error => Value.guard_unless_eq_error_iff⟩

end

attribute [local instance] Traits.bare

/-- A conditional in a loop, over a row where the guard holds and one where it does not. -/
theorem execute_duals_in_loop :
    let c : Compilation := ⟨true, none, .outermost none, .null⟩
    let before : List Token := [⟨.opening .loopBlock "rows", ⟨1, 0⟩, .plain⟩]
    let o : Token := ⟨.opening .ifBlock "v", ⟨1, 16⟩, .plain⟩
    let o' : Token := ⟨.opening .unlessBlock "v", ⟨1, 16⟩, .plain⟩
    let yes : List Token := [⟨.text "a", ⟨1, 27⟩, .plain⟩]
    let e : Token := ⟨.otherwise, ⟨1, 28⟩, .plain⟩
    let no : List Token := [⟨.text "b", ⟨1, 39⟩, .plain⟩]
    let cl : Token := ⟨.closing "if", ⟨1, 40⟩, .plain⟩
    let cl' : Token := ⟨.closing "unless", ⟨1, 40⟩, .plain⟩
    let after : List Token := [⟨.closing "loop", ⟨1, 50⟩, .plain⟩]
    let row (v : Value) : Value := .dict [(.text "v", v)]
    let data : Value := .dict [(.text "rows", .list [row (.int 1), row (.text "")])]
    Balanced yes ∧ Balanced no ∧
      ∃ p p', (c.compile (before ++ [o] ++ yes ++ [e] ++ no ++ [cl] ++ after)).result = .ok p ∧
        (c.compile (before ++ [o'] ++ no ++ [e] ++ yes ++ [cl'] ++ after)).result = .ok p' ∧
        p.execute data .standard = .ok "ab" ∧ p'.execute data .standard = .ok "ab" := by
  intro c before o o' yes e no cl cl' after row data
  have hyes : Balanced yes := ⟨_, .text .empty (t := yes[0]) rfl⟩
  have hno : Balanced no := ⟨_, .text .empty (t := no[0]) rfl⟩
  have hrun : ((c.compile (before ++ [o] ++ yes ++ [e] ++ no ++ [cl] ++ after)).result.bind
      fun p => p.execute data .standard) = .ok "ab" := by
    clear hyes hno
    decide +kernel +zetaReduce +revert
  obtain ⟨p, hp, hexecute⟩ := Traced.bind_eq_ok.mp hrun
  obtain ⟨-, hduals, -⟩ := @execute_if_eq_unless c before after yes no o e cl o' e cl' "v" _
    hyes hno rfl rfl rfl rfl rfl rfl
  obtain ⟨d, p', hd, ⟨i, j, hop⟩, hp', hsame⟩ := hduals p hp
  refine ⟨hyes, hno, p, p', hp, hp', hexecute, ?_⟩
  rw [← hsame data .standard fun v hv => ?_, hexecute]
  obtain rfl : Draft.empty.openBlock ⟨1, 0⟩ .loopBlock "rows" = d := Except.ok.inj hd
  -- the rows are what the name is looked up in
  obtain ⟨index?, item, hitem, hlookup⟩ :=
    exists_along_of_meets (m := ⟨p, data, .standard⟩) hp hop rfl hv
  obtain ⟨_, hitem, hlast⟩ := Option.bind_eq_some_iff.mp hitem
  cases hlast
  obtain ⟨index, -, hitem⟩ := Option.bind_eq_some_iff.mp hitem
  change [row (.int 1), row (.text "")][index]? = some item at hitem
  have hnone : v.sequence? = none := by
    match index, hitem with
    | 0, rfl => cases hlookup; rfl
    | 1, rfl => cases hlookup; rfl
  exact ⟨Value.not_isEmptySequence hnone, Value.not_isUncountable hnone⟩

/-- A range of one item more than can be counted is no empty sequence, but the guard of an if block
fails for it. -/
theorem execute_if_overlong :
    let c : Compilation := ⟨true, none, .outermost none, .null⟩
    let o : Token := ⟨.opening .ifBlock "r", ⟨1, 0⟩, .plain⟩
    let o' : Token := ⟨.opening .unlessBlock "r", ⟨1, 0⟩, .plain⟩
    let yes : Token := ⟨.text "a", ⟨1, 11⟩, .plain⟩
    let e : Token := ⟨.otherwise, ⟨1, 12⟩, .plain⟩
    let no : Token := ⟨.text "b", ⟨1, 23⟩, .plain⟩
    let cl : Token := ⟨.closing "if", ⟨1, 24⟩, .plain⟩
    let cl' : Token := ⟨.closing "unless", ⟨1, 24⟩, .plain⟩
    let r : Value := .range 0 9223372036854775808 1
    let data : Value := .dict [(.text "r", r)]
    WellBracketed [o, yes, e, no, cl] ∧ ¬ r.IsEmptySequence ∧ ¬ r.IsSignaling ∧
      r.guard false = .error .lengthOverflow ∧ r.guard true = .ok false ∧
      ∃ p p', (c.compile [o, yes, e, no, cl]).result = .ok p ∧
        (c.compile [o', no, e, yes, cl']).result = .ok p' ∧
        p.execute data .standard = .error .lengthOverflow ∧
        p'.execute data .standard = .ok "a" := by
  intro c o o' yes e no cl cl' r data
  have hbracketed : WellBracketed [o, yes, e, no, cl] :=
    ⟨.choice .empty ⟨1, 0⟩ false "r" (.text .empty ⟨1, 11⟩ "a") ⟨1, 12⟩
        (.text .empty ⟨1, 23⟩ "b") ⟨1, 24⟩,
      .choice .empty (o := o) rfl (.text .empty (t := yes) rfl) (e := e) rfl
        (.text .empty (t := no) rfl) (c := cl) rfl⟩
  have hempty : ¬ r.IsEmptySequence := by
    rw [Value.isEmptySequence_iff rfl]
    decide
  have hsignaling : ¬ r.IsSignaling := by
    rintro ⟨d, hd, -⟩
    exact Value.noConfusion hd
  have hif : ((c.compile [o, yes, e, no, cl]).result.bind fun p => p.execute data .standard) =
      .error .lengthOverflow := by
    clear hbracketed hempty hsignaling
    decide +kernel +zetaReduce +revert
  have hunless : ((c.compile [o', no, e, yes, cl']).result.bind
      fun p => p.execute data .standard) = .ok "a" := by
    clear hbracketed hempty hsignaling hif
    decide +kernel +zetaReduce +revert
  obtain ⟨p, hp, -⟩ := exists_compile_of_spells (c := c) hbracketed.choose_spec
  obtain ⟨p', hp', hexecute'⟩ := Traced.bind_eq_ok.mp hunless
  rw [hp] at hif
  exact ⟨hbracketed, hempty, hsignaling, by rfl, by rfl, p, p', hp, hp', hif, hexecute'⟩

end Compilation

end TagTemplate
