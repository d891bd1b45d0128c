/-
# Splicing — what an include does to the template around it

An include function may have a memory, and answer the same request differently when it is asked
again.  What a compilation sees of it is an answer for each token, as the function stands when the
token comes: a script.  `compileEach` compiles a script; with the same function at every token it
is `compile`.

    calls       up to the first failure one call for each include, in the order of the tokens,
                with the name of the include, the data of the compilation and a context one
                include deeper (`Calls`, `calls`)
    program     that of the same tokens with each include replaced by the text it is answered by
                (`Spliced`)
    texts       have no part in the other operations and in where they jump (`bare_of_compile`)

All three are about one token at a time: a token that is no include never looks at the function,
and an include that is answered is the step of a text (`result_step_of_spliced`).
-/
import Mathlib.Data.List.Forall2
import TagTemplate.Proofs.Include.Fetch
import TagTemplate.Proofs.Layout.Bare

namespace TagTemplate

/-- What answers includes. -/
abbrev IncludeFunction := IncludeRequest → Traced Text

/-- Tokens, each with the include function as it stands then. -/
abbrev Script := List (Token × IncludeFunction)

/-- A call of an include function, with its answer. -/
structure Call where
  request : IncludeRequest
  answer : Traced Text

/-- The events of a compilation that makes the calls: each call is announced and followed by the
events of its answer, and the others ask for nothing. -/
inductive Calls : List Event → List Call → Prop
  | nil : Calls [] []
  | remark {event : Event} {events : List Event} {calls : List Call} :
      event.request? = none → Calls events calls → Calls (event :: events) calls
  | call (call : Call) {events : List Event} {calls : List Call} : Calls events calls →
      Calls (.including call.request :: call.answer.events ++ events) (call :: calls)

namespace Calls

theorem append {events events' : List Event} {calls calls' : List Call} (h : Calls events calls)
    (h' : Calls events' calls') : Calls (events ++ events') (calls ++ calls') := by
  induction h with
  | nil => exact h'
  | remark hevent _ ih => exact .remark hevent ih
  | call call _ ih =>
      rw [List.append_assoc]
      exact .call call ih

/-- What follows without calls adds none, whether or not it is got to. -/
theorem bind {α β : Type} {t : Traced α} {f : α → Traced β} {calls : List Call}
    (h : Calls t.events calls) (h' : ∀ a, Calls (f a).events []) :
    Calls (t >>= f).events calls := by
  cases hresult : t.result with
  | ok a =>
      rw [Traced.events_bind_of_ok f hresult]
      simpa only [List.append_nil] using h.append (h' a)
  | error e =>
      rw [Traced.events_bind_of_error f hresult]
      exact h

end Calls

namespace Compilation

variable (c : Compilation)

/-- The compilation with an include function. -/
def answering (f : IncludeFunction) : Compilation := { c with includeText := some f }

def request (name : Text) : IncludeRequest where
  name
  data := c.data
  context :=
    { name := some name, source := none
      depth := c.context.depth + 1, limit := c.context.limit
      enclosing := c.context.enclosing ++ [displayName c.context.name] }

def stepsEach (d : Draft) : Script → Traced Draft
  | [] => pure d
  | (t, f) :: script => do
    let d ← (c.answering f).step d t
    stepsEach d script

def compileEach (script : Script) : Traced Program := do
  let d ← c.stepsEach .empty script
  let d ← c.closeAll d d.blocks
  let program : Program := ⟨d.ops, c.context.name⟩
  Traced.emit (.compiled c.context.name script.length program.size)
  return program

/-- The calls that a script asks for.  At the limit an include fails before it calls. -/
def calls (script : Script) : List Call :=
  if c.context.depth < c.context.limit then
    script.filterMap fun (t, f) => t.inclusion?.map fun name => ⟨c.request name, f (c.request name)⟩
  else []

/-- The token, with the text that an include is answered by in its place. -/
def Spliced (entry : Token × IncludeFunction) (t : Token) : Prop :=
  match entry.1.inclusion? with
  | some name => ∃ text, (entry.2 (c.request name)).result = .ok text ∧
      t = { entry.1 with content := .text text }
  | none => t = entry.1

variable {c : Compilation} {f : IncludeFunction} {d d' : Draft} {t : Token} {script : Script}

/-! ## One token -/

/-- What a token that is no include makes of a draft is the same in every compilation. -/
theorem exists_apply_eq_pure (h : t.inclusion? = none) (d : Draft) :
    ∃ d', ∀ c : Compilation, c.apply d t = pure d' := by
  unfold Token.inclusion? at h
  unfold apply
  cases ht : t.content with
  | inclusion name =>
      rw [ht] at h
      cases h
  | _ => exact ⟨_, fun _ => rfl⟩

theorem step_answering (h : t.inclusion? = none) : (c.answering f).step d t = c.step d t := by
  obtain ⟨d', happly⟩ := exists_apply_eq_pure h d
  rw [step_eq, step_eq, happly, happly]
  rfl

theorem fetchText_answering_of_le {name : Text} (h : c.context.limit ≤ c.context.depth) :
    (c.answering f).fetchText name =
      .fail (.tooDeep name c.context.limit c.context.stack) := by
  show (Traced.of (c.context.checkDepth name) >>= _) = _
  rw [show c.context.checkDepth name = _ from if_pos h]
  rfl

theorem fetchText_answering_of_lt {name : Text} (h : c.context.depth < c.context.limit) :
    (c.answering f).fetchText name =
      Traced.emit (.including (c.request name)) >>= fun _ => f (c.request name) := by
  show (Traced.of (c.context.checkDepth name) >>= _) = _
  rw [show c.context.checkDepth name = _ from if_neg (Int.not_le.mpr h)]
  rfl

theorem calls_append (c : Compilation) (script script' : Script) :
    c.calls (script ++ script') = c.calls script ++ c.calls script' := by
  unfold calls
  split
  · exact List.filterMap_append
  · rfl

theorem calls_report (c : Compilation) (position : Position) (issue : Issue) :
    Calls (c.report position issue).events [] := by
  unfold report
  split
  · exact .nil
  · exact .remark rfl .nil

theorem calls_step_of_not_inclusion (c : Compilation) (d : Draft) (h : t.inclusion? = none) :
    Calls (c.step d t).events [] := by
  obtain ⟨d', happly⟩ := exists_apply_eq_pure h d
  rw [step_eq, happly]
  refine Calls.bind ?_ fun _ => .nil
  cases t.issue? d.opened with
  | none => exact .nil
  | some issue => exact calls_report ..

/-- A token makes the calls it asks for, whether or not it is got past. -/
theorem calls_step (c : Compilation) (f : IncludeFunction) (d : Draft) (t : Token) :
    Calls ((c.answering f).step d t).events (c.calls [(t, f)]) := by
  cases hname : t.inclusion? with
  | none =>
      have hcalls : c.calls [(t, f)] = [] := by
        unfold calls
        split <;> simp [hname]
      rw [hcalls]
      exact calls_step_of_not_inclusion _ _ hname
  | some name =>
      simp only [step, Token.inclusion?_eq_some.mp hname]
      rcases Int.lt_or_le c.context.depth c.context.limit with hlt | hle
      · have hcalls : c.calls [(t, f)] = [⟨c.request name, f (c.request name)⟩] := by
          simp [calls, hlt, hname]
        rw [hcalls, fetchText_answering_of_lt hlt]
        refine Calls.bind ?_ fun _ => .nil
        have hcall := Calls.call ⟨c.request name, f (c.request name)⟩ .nil
        rwa [List.append_nil] at hcall
      · have hcalls : c.calls [(t, f)] = [] := if_neg (Int.not_lt.mpr hle)
        rw [hcalls, fetchText_answering_of_le hle]
        exact .nil

/-- With the text it is answered by in its place, an include is the same step. -/
theorem result_step_of_spliced {t' : Token} (h : c.Spliced (t, f) t')
    (hroom : c.context.depth < c.context.limit) :
    ((c.answering f).step d t).result = (c.step d t').result := by
  unfold Spliced at h
  cases hname : t.inclusion? with
  | none =>
      rw [hname] at h
      rw [step_answering hname, h]
  | some name =>
      rw [hname] at h
      obtain ⟨text, htext, rfl⟩ := h
      have htext : (f (c.request name)).result = .ok text := htext
      simp only [step, Token.inclusion?_eq_some.mp hname, fetchText_answering_of_lt hroom,
        Traced.result_bind, Traced.result_emit, Traced.ok_bind, htext]

theorem exists_spliced_of_step (h : ((c.answering f).step d t).result = .ok d') :
    ∃ t', c.Spliced (t, f) t' ∧ (c.step d t').result = .ok d' := by
  unfold Spliced
  cases hname : t.inclusion? with
  | none =>
      rw [step_answering hname] at h
      exact ⟨t, rfl, h⟩
  | some name =>
      simp only [step, Token.inclusion?_eq_some.mp hname] at h
      obtain ⟨text, hfetch, h⟩ := Traced.result_bind_eq_ok.mp h
      rcases Int.lt_or_le c.context.depth c.context.limit with hlt | hle
      · rw [fetchText_answering_of_lt hlt] at hfetch
        obtain ⟨-, -, htext⟩ := Traced.result_bind_eq_ok.mp hfetch
        exact ⟨_, ⟨text, htext, rfl⟩, h⟩
      · rw [fetchText_answering_of_le hle] at hfetch
        cases hfetch

/-! ## A script -/

/-- The tokens of a script, up to the first that fails, make the calls they ask for. -/
theorem exists_calls_steps (c : Compilation) (d : Draft) (script : Script) :
    ∃ begun, begun <+: script ∧ Calls (c.stepsEach d script).events (c.calls begun) ∧
      (begun = script ∧ (∃ d', (c.stepsEach d script).result = .ok d') ∨
        ∃ done t f d' e, begun = done ++ [(t, f)] ∧ (c.stepsEach d done).result = .ok d' ∧
          ((c.answering f).step d' t).result = .error e ∧
          (c.stepsEach d script).result = .error e) := by
  induction script generalizing d with
  | nil =>
      refine ⟨[], List.prefix_rfl, ?_, .inl ⟨rfl, d, rfl⟩⟩
      have hcalls : c.calls [] = [] := by
        unfold calls
        split <;> rfl
      rw [hcalls]
      exact .nil
  | cons entry script ih =>
      obtain ⟨t, f⟩ := entry
      have hcalls := calls_step c f d t
      cases hstep : ((c.answering f).step d t).result with
      | error e =>
          have hresult : (c.stepsEach d ((t, f) :: script)).result = .error e := by
            rw [stepsEach, Traced.result_bind, hstep]
            rfl
          refine ⟨[(t, f)], List.prefix_append [(t, f)] script, ?_,
            .inr ⟨[], t, f, d, e, rfl, rfl, hstep, hresult⟩⟩
          rw [stepsEach, Traced.events_bind_of_error _ hstep]
          exact hcalls
      | ok d₁ =>
          obtain ⟨begun, hbegun, hrest, hend⟩ := ih d₁
          have hresult (script : Script) : (c.stepsEach d ((t, f) :: script)).result =
              (c.stepsEach d₁ script).result := by
            rw [stepsEach, Traced.result_bind, hstep]
            rfl
          refine ⟨(t, f) :: begun, List.cons_prefix_cons.mpr ⟨rfl, hbegun⟩, ?_, ?_⟩
          · rw [stepsEach, Traced.events_bind_of_ok _ hstep]
            exact calls_append c [(t, f)] begun ▸ hcalls.append hrest
          · rw [hresult]
            refine hend.imp (fun ⟨heq, hok⟩ => ⟨congrArg _ heq, hok⟩) ?_
            rintro ⟨done, t', f', d', e, rfl, hdone, hraise, herror⟩
            exact ⟨(t, f) :: done, t', f', d', e, rfl, (hresult done).trans hdone, hraise, herror⟩

theorem exists_spliced_of_steps (h : (c.stepsEach d script).result = .ok d') :
    ∃ tokens, List.Forall₂ c.Spliced script tokens ∧ (c.steps d tokens).result = .ok d' := by
  induction script generalizing d with
  | nil => exact ⟨[], .nil, h⟩
  | cons entry script ih =>
      obtain ⟨d₁, h₁, h⟩ := Traced.result_bind_eq_ok.mp h
      obtain ⟨t', hspliced, hstep⟩ := exists_spliced_of_step h₁
      obtain ⟨tokens, hrest, hsteps⟩ := ih h
      exact ⟨t' :: tokens, .cons hspliced hrest, Traced.result_bind_eq_ok.mpr ⟨d₁, hstep, hsteps⟩⟩

theorem result_steps_of_spliced {tokens : List Token} (h : List.Forall₂ c.Spliced script tokens)
    (hroom : c.context.depth < c.context.limit) (d : Draft) :
    (c.stepsEach d script).result = (c.steps d tokens).result := by
  induction h generalizing d with
  | nil => rfl
  | cons hspliced _ ih =>
      simp only [stepsEach, steps, Traced.result_bind, ih]
      rw [result_step_of_spliced hspliced hroom]

theorem calls_closeAll (c : Compilation) (d : Draft) (blocks : List OpenBlock) :
    Calls (c.closeAll d blocks).events [] := by
  induction blocks generalizing d with
  | nil => exact .nil
  | cons block blocks ih => exact (calls_report ..).bind fun _ => ih _

/-! ## The same function at every token -/

theorem stepsEach_map (c : Compilation) (f : IncludeFunction) (d : Draft) (tokens : List Token) :
    c.stepsEach d (tokens.map (·, f)) = (c.answering f).steps d tokens := by
  induction tokens generalizing d with
  | nil => rfl
  | cons t tokens ih => simp only [List.map_cons, stepsEach, steps, ih]

theorem closeAll_answering (c : Compilation) (f : IncludeFunction) (d : Draft)
    (blocks : List OpenBlock) : (c.answering f).closeAll d blocks = c.closeAll d blocks := by
  induction blocks generalizing d with
  | nil => rfl
  | cons block blocks ih =>
      simp only [closeAll, ih]
      rfl

/-- A compilation is that of a script with the same include function at every token. -/
theorem compileEach_map (c : Compilation) (f : IncludeFunction) (tokens : List Token) :
    c.compileEach (tokens.map (·, f)) = (c.answering f).compile tokens := by
  simp only [compileEach, compile, stepsEach_map, closeAll_answering, List.length_map]
  rfl

/-! ## Compilations -/

theorem result_compileEach (c : Compilation) (script : Script) :
    (c.compileEach script).result = (c.stepsEach .empty script).result >>= fun d =>
      (c.closeAll d d.blocks).result >>= fun d => .ok ⟨d.ops, c.context.name⟩ := by
  simp [compileEach]

theorem filter_isBare_of_spliced {tokens : List Token} (h : List.Forall₂ c.Spliced script tokens) :
    tokens.filter Token.isBare = (script.map Prod.fst).filter Token.isBare := by
  induction h with
  | nil => rfl
  | @cons entry t script tokens hspliced _ ih =>
      rw [List.map_cons, List.filter_cons, List.filter_cons, ih]
      unfold Spliced at hspliced
      cases hname : entry.1.inclusion? with
      | none =>
          rw [hname] at hspliced
          rw [hspliced]
      | some name =>
          rw [hname] at hspliced
          obtain ⟨text, -, rfl⟩ := hspliced
          simp only [Token.isBare, Token.inclusion?_eq_some.mp hname, Bool.false_eq_true, if_false]

/-- **Includes are spliced as inert text.**  For any tokens and any include function, also one with
a memory:

* it is called once for each include, in order, up to the first failure, which is that of the token
  it is at; the requests are fixed by the names, the data and the context of the compilation;
* the program is that of the tokens with each include replaced by the text it is answered by, and
  where all of them are answered with room for an include, so is a failure;
* without its texts it is the program of the tokens that are neither texts nor includes. -/
theorem includes_spliced (c : Compilation) (script : Script) :
    (∀ f tokens, c.compileEach (tokens.map (·, f)) = (c.answering f).compile tokens) ∧
    (∃ begun, begun <+: script ∧ Calls (c.compileEach script).events (c.calls begun) ∧
      (begun = script ∧ (∃ d, (c.stepsEach .empty script).result = .ok d) ∨
        ∃ done t f d e, begun = done ++ [(t, f)] ∧ (c.stepsEach .empty done).result = .ok d ∧
          ((c.answering f).step d t).result = .error e ∧
          (c.compileEach script).result = .error e)) ∧
    (∀ p, (c.compileEach script).result = .ok p →
      ∃ tokens, List.Forall₂ c.Spliced script tokens ∧ (c.compile tokens).result = .ok p ∧
        (c.compile ((script.map Prod.fst).filter Token.isBare)).result = .ok p.bare) ∧
    ∀ tokens, List.Forall₂ c.Spliced script tokens → c.context.depth < c.context.limit →
      (c.compileEach script).result = (c.compile tokens).result := by
  refine ⟨compileEach_map c, ?_, fun p hp => ?_, fun tokens htokens hroom => ?_⟩
  · obtain ⟨begun, hbegun, hcalls, hend⟩ := exists_calls_steps c .empty script
    refine ⟨begun, hbegun, hcalls.bind fun d => ?_, hend.imp_right ?_⟩
    · exact (calls_closeAll ..).bind fun _ => .remark rfl .nil
    · rintro ⟨done, t, f, d, e, heq, hdone, hraise, herror⟩
      refine ⟨done, t, f, d, e, heq, hdone, hraise, ?_⟩
      rw [result_compileEach, herror]
      rfl
  · rw [result_compileEach] at hp
    obtain ⟨d, hd, hp⟩ := Traced.bind_eq_ok.mp hp
    obtain ⟨tokens, htokens, hsteps⟩ := exists_spliced_of_steps hd
    have hcompile : (c.compile tokens).result = .ok p := by
      rw [result_compile]
      exact Traced.bind_eq_ok.mpr ⟨d, hsteps, hp⟩
    exact ⟨tokens, htokens, hcompile, filter_isBare_of_spliced htokens ▸ bare_of_compile hcompile⟩
  · rw [result_compileEach, result_compile, result_steps_of_spliced htokens hroom]

/-- The same include in a loop and behind it, answered by what looks like a tag and by another
text. -/
theorem includes_spliced_in_loop :
    let c : Compilation := ⟨true, none, .outermost none, .null⟩
    let answers (text : Text) : IncludeFunction := fun _ => pure text
    let script : Script :=
      [(⟨.opening .loopBlock "rows", ⟨1, 0⟩, .plain⟩, answers []),
        (⟨.inclusion "t", ⟨1, 16⟩, .plain⟩, answers "<tmpl_if a>"),
        (⟨.output "v", ⟨1, 32⟩, .html⟩, answers []),
        (⟨.closing "loop", ⟨1, 44⟩, .plain⟩, answers []),
        (⟨.inclusion "t", ⟨2, 0⟩, .plain⟩, answers "-")]
    let p : Program :=
      ⟨#[⟨⟨1, 0⟩, .loop ⟨[], ["rows"]⟩ 1 3⟩, ⟨⟨1, 16⟩, .text "<tmpl_if a>"⟩,
        ⟨⟨1, 32⟩, .output ⟨[⟨["rows"], 1⟩], ["v"]⟩ .html⟩, ⟨⟨1, 44⟩, .finish "loop" 0⟩,
        ⟨⟨2, 0⟩, .text "-"⟩], none⟩
    (c.compileEach script).result = .ok p ∧
    p.bare = ⟨#[⟨⟨1, 0⟩, .loop ⟨[], ["rows"]⟩ 1 2⟩,
      ⟨⟨1, 32⟩, .output ⟨[⟨["rows"], 1⟩], ["v"]⟩ .html⟩, ⟨⟨1, 44⟩, .finish "loop" 0⟩], none⟩ ∧
    ∃ tokens, List.Forall₂ c.Spliced script tokens ∧ (c.compile tokens).result = .ok p ∧
      (c.compile ((script.map Prod.fst).filter Token.isBare)).result = .ok p.bare := by
  intro c answers script p
  have hp : (c.compileEach script).result = .ok p := by rfl
  exact ⟨hp, by decide, (includes_spliced c script).2.2.1 p hp⟩

end Compilation

end TagTemplate
