/-
# Histories — the data a template remembers

A template is rendered, rendered to its target, and given targets, in any order.  Each
call has one of seven effects (`t.Effect call t' reply`):

    call              where                      data        target      reply
    assign            always                     kept        the new one nothing
    either render     merging is refused         kept        kept        the error
    render            the program runs           taken over  kept        the text
                      the program fails          taken over  kept        the error
    renderToTarget    no target                  taken over  none        nothing
                      the program runs           taken over  and text    nothing
                      the program fails          taken over  kept        the error

Data is taken over if it holds something (`t.kept`), and the program runs on what is
remembered then.  The effects on the data are the same for both renders, so after a
history it is the last binding of its calls.
-/
import TagTemplate.Proofs.Traced
import TagTemplate.Proofs.Value.Merge

namespace TagTemplate.Template

/-! ## Calls -/

/-- What is done to a template. -/
inductive Call where
  | render (data : Value) (named : List (Text × Value))
  | renderToTarget (data : Value) (named : List (Text × Value))
  /-- A new target with what was written to it before, or none. -/
  | assign (target : Option (List Text))

/-- What a call gives back: a text, nothing, or an error. -/
abbrev Reply := Except Error (Option Text)

/-- The data of a call with its named values. -/
def Call.merged? : Call → Option (Except Error Value)
  | render data named | renderToTarget data named => some (data.merge named)
  | assign _ => none

/-- The data that a call has a template remember. -/
def Call.binding? (call : Call) : Option Value :=
  match call.merged? with
  | some (.ok v) => if v.holds then some v else none
  | _ => none

variable [Traits]

def perform (t : Template) : Call → Template × Reply
  | .render data named =>
    let r := t.render data named
    (r.1, r.2.map some)
  | .renderToTarget data named =>
    let r := t.renderToTarget data named
    (r.1, r.2.result.map fun _ => none)
  | .assign target => ({ t with target }, .ok none)

def run (t : Template) : List Call → Template × List Reply
  | [] => (t, [])
  | call :: calls =>
    let first := t.perform call
    let later := first.1.run calls
    (later.1, first.2 :: later.2)

/-! ## Effects -/

/-- The data remembered after a binding: the one before if it holds nothing. -/
def kept (t : Template) (v : Value) : Value := if v.holds then v else t.data

/-- What a call does to a template, and replies. -/
inductive Effect (t : Template) : Call → Template → Reply → Prop
  | assigned {target : Option (List Text)} : Effect t (.assign target) { t with target } (.ok none)
  | refused {call : Call} {e : Error} : call.merged? = some (.error e) → Effect t call t (.error e)
  | rendered {data v : Value} {named : List (Text × Value)} {text : Text} :
      data.merge named = .ok v → t.program.execute (t.kept v) t.escapers = .ok text →
      Effect t (.render data named) { t with data := t.kept v } (.ok (some text))
  | renderFailed {data v : Value} {named : List (Text × Value)} {e : Error} :
      data.merge named = .ok v → t.program.execute (t.kept v) t.escapers = .error e →
      Effect t (.render data named) { t with data := t.kept v } (.error e)
  | skipped {data v : Value} {named : List (Text × Value)} : data.merge named = .ok v →
      t.target = none → Effect t (.renderToTarget data named) { t with data := t.kept v } (.ok none)
  | written {data v : Value} {named : List (Text × Value)} {texts : List Text} {text : Text} :
      data.merge named = .ok v → t.target = some texts →
      t.program.execute (t.kept v) t.escapers = .ok text →
      Effect t (.renderToTarget data named)
        { t with data := t.kept v, target := some (texts ++ [text]) } (.ok none)
  | writeFailed {data v : Value} {named : List (Text × Value)} {texts : List Text} {e : Error} :
      data.merge named = .ok v → t.target = some texts →
      t.program.execute (t.kept v) t.escapers = .error e →
      Effect t (.renderToTarget data named) { t with data := t.kept v } (.error e)

/-- Calls one after the other, each with its effect on what the ones before left. -/
inductive History : Template → List Call → Template → List Reply → Prop
  | nil {t : Template} : History t [] t []
  | cons {t t' t'' : Template} {call : Call} {calls : List Call} {reply : Reply}
      {replies : List Reply} : t.Effect call t' reply → History t' calls t'' replies →
      History t (call :: calls) t'' (reply :: replies)

variable {t t' : Template} {call : Call} {calls : List Call} {reply : Reply} {data v : Value}
  {named : List (Text × Value)}

omit [Traits] in
theorem remember_eq (t : Template) (v : Value) : t.remember v = { t with data := t.kept v } := by
  unfold remember kept
  split <;> rfl

/-! ## What each call does -/

theorem render_of_ok (h : data.merge named = .ok v) :
    t.render data named =
      ({ t with data := t.kept v }, t.program.execute (t.kept v) t.escapers) := by
  rw [render, bind, h]
  show (t.remember v, (t.remember v).output) = _
  rw [remember_eq]
  rfl

theorem render_of_error {e : Error} (h : data.merge named = .error e) :
    t.render data named = (t, .error e) := by
  rw [render, bind, h]
  rfl

theorem renderToTarget_of_none (ht : t.target = none) (h : data.merge named = .ok v) :
    t.renderToTarget data named = ({ t with data := t.kept v }, .emit (.renderSkipped t.name)) := by
  rw [renderToTarget, if_pos (Option.isNone_iff_eq_none.mpr ht), bind, h, ← remember_eq]
  show (t.remember v, Traced.emit (.renderSkipped (t.remember v).name)) = _
  rw [remember_eq]

theorem renderToTarget_of_none_of_error {e : Error} (ht : t.target = none)
    (h : data.merge named = .error e) : t.renderToTarget data named = (t, .fail e) := by
  rw [renderToTarget, if_pos (Option.isNone_iff_eq_none.mpr ht), bind, h]
  rfl

theorem renderToTarget_of_some {texts : List Text} (ht : t.target = some texts) :
    t.renderToTarget data named = match t.render data named with
      | (t, .error e) => (t, .fail e)
      | (t, .ok text) => (t.write text, pure ()) := by
  have hsome : ¬ t.target.isNone = true := by
    rw [ht]
    exact Bool.false_ne_true
  exact if_neg hsome

theorem effect_render (t : Template) (data : Value) (named : List (Text × Value)) :
    t.Effect (.render data named) (t.render data named).1 ((t.render data named).2.map some) := by
  cases hmerge : data.merge named with
  | error e =>
      rw [render_of_error hmerge]
      exact .refused (congrArg some hmerge)
  | ok v =>
      rw [render_of_ok hmerge]
      cases hout : t.program.execute (t.kept v) t.escapers with
      | ok text => exact .rendered hmerge hout
      | error e => exact .renderFailed hmerge hout

theorem effect_renderToTarget (t : Template) (data : Value) (named : List (Text × Value)) :
    t.Effect (.renderToTarget data named) (t.renderToTarget data named).1
      ((t.renderToTarget data named).2.result.map fun _ => none) := by
  cases htarget : t.target with
  | none =>
      cases hmerge : data.merge named with
      | error e =>
          rw [renderToTarget_of_none_of_error htarget hmerge]
          exact .refused (congrArg some hmerge)
      | ok v =>
          rw [renderToTarget_of_none htarget hmerge]
          exact .skipped hmerge htarget
  | some texts =>
      rw [renderToTarget_of_some htarget]
      cases hmerge : data.merge named with
      | error e =>
          rw [render_of_error hmerge]
          exact .refused (congrArg some hmerge)
      | ok v =>
          rw [render_of_ok hmerge]
          cases hout : t.program.execute (t.kept v) t.escapers with
          | error e => exact .writeFailed hmerge htarget hout
          | ok text =>
              have hwritten := Effect.written (t := t) hmerge htarget hout
              simp only [write, htarget]
              exact hwritten

/-- Every call has one of the effects. -/
theorem effect_perform (t : Template) (call : Call) :
    t.Effect call (t.perform call).1 (t.perform call).2 := by
  cases call with
  | render data named => exact t.effect_render data named
  | renderToTarget data named => exact t.effect_renderToTarget data named
  | assign target => exact .assigned

/-! ## What is remembered -/

omit [Traits] in
theorem kept_eq (h : call.merged? = some (.ok v)) : t.kept v = call.binding?.getD t.data := by
  simp only [Call.binding?, h, kept]
  split <;> rfl

/-- A call leaves its binding, if it has one, and never another program. -/
theorem Effect.remembers (h : t.Effect call t' reply) :
    t'.data = call.binding?.getD t.data ∧ t'.program = t.program ∧ t'.escapers = t.escapers := by
  cases h with
  | assigned => exact ⟨rfl, rfl, rfl⟩
  | refused hmerge =>
      rw [Call.binding?, hmerge]
      exact ⟨rfl, rfl, rfl⟩
  | rendered hmerge _ | renderFailed hmerge _ | skipped hmerge _ | written hmerge _ _
  | writeFailed hmerge _ _ => exact ⟨kept_eq (congrArg some hmerge), rfl, rfl⟩

theorem history_run (t : Template) (calls : List Call) :
    t.History calls (t.run calls).1 (t.run calls).2 := by
  induction calls generalizing t with
  | nil => exact .nil
  | cons call calls ih => exact .cons (t.effect_perform call) (ih _)

/-- A history leaves the last binding of its calls. -/
theorem History.remembers {replies : List Reply} (h : History t calls t' replies) :
    t'.data = (calls.filterMap Call.binding?).getLast?.getD t.data ∧ t'.program = t.program ∧
      t'.escapers = t.escapers := by
  induction h with
  | nil => exact ⟨rfl, rfl, rfl⟩
  | @cons _ _ _ call _ _ _ heffect _ ih =>
      obtain ⟨hdata, hprogram, hescapers⟩ := heffect.remembers
      refine ⟨?_, ih.2.1.trans hprogram, ih.2.2.trans hescapers⟩
      -- The binding of this call stands until a later call has one.
      rw [ih.1, hdata, List.filterMap_cons]
      cases call.binding? with
      | none => rfl
      | some v => rw [Option.getD_some, List.getLast?_cons, Option.getD_some]

/-- **A template remembers the last binding, whatever else its calls came to.**  Each call of a
history has its effect on what the calls before it left; the data at the end is the last merged
data of a render that holds something, to a target or not, or else the data at the beginning; the
program and the escapers stay. -/
theorem remembers_run (t : Template) (calls : List Call) :
    t.History calls (t.run calls).1 (t.run calls).2 ∧
    (t.run calls).1.data = (calls.filterMap Call.binding?).getLast?.getD t.data ∧
    (t.run calls).1.program = t.program ∧ (t.run calls).1.escapers = t.escapers ∧
    ∀ (data : Value) (named : List (Text × Value)), data.Merged named (data.merge named) := by
  have h := t.history_run calls
  exact ⟨h, h.remembers.1, h.remembers.2.1, h.remembers.2.2, Value.merged_merge⟩

-- An empty list holds nothing, and names cannot be merged over a number.
example : ((ofProgram ⟨#[], none⟩ none .null .empty).run
    [.render .null [("a", .int 1)], .renderToTarget (.list []) [],
      .render (.int 2) [("b", .null)]]).1.data = .dict [(.text "a", .int 1)] := rfl

end TagTemplate.Template
