/-
# Inlining — an include is its template written out

An include is compiled on the way: its template is run with the data at hand, and what it
puts out becomes literal text.  The tokens of that template could as well stand where the
include stands, if the include is in no loop:

    before  ++  include name      ++  after      a text, made when the template is compiled
    before  ++  tokens of `name`  ++  after      operations, run when the template is

Both outlines are alike there (`Outline.Alike`): the text is what the body of the tokens
means for the data.  For another item that body may mean something else, which is why a
loop around the include is left out; conditionals are not.

The tokens may include templates themselves.  Those have been fetched, at one include more
in depth, so they are fetched in place too (`Environment.below_of_room_le`), and it makes
no difference to write the same texts for them (`steps_spliced`): what is left is a tree.
-/
import TagTemplate.Proofs.Block.Scan
import TagTemplate.Proofs.Include.Room
import TagTemplate.Proofs.Meaning.Alike

namespace TagTemplate

/-- The tokens are well bracketed, where an include may stand wherever a text may. -/
def Balanced (tokens : List Token) : Prop :=
  WellBracketed (tokens.filter fun t => t.inclusion?.isNone)

namespace Token

/-- The token, where an include gives way to a text. -/
def spliced (texts : Text → Text) (t : Token) : Token :=
  match t.content with
  | .inclusion name => { t with content := .text (texts name) }
  | _ => t

variable {texts : Text → Text} {t : Token} {ts : List Token} {name : Text}

theorem spliced_of_inclusion (h : t.content = .inclusion name) :
    t.spliced texts = { t with content := .text (texts name) } := by
  simp only [spliced, h]

theorem spliced_of_inclusion?_eq_none (h : t.inclusion? = none) : t.spliced texts = t := by
  unfold inclusion? at h
  unfold spliced
  cases hc : t.content with
  | inclusion name =>
      rw [hc] at h
      cases h
  | _ => rfl

theorem scan?_map_spliced (texts : Text → Text) (blocks : List Opened) (ts : List Token) :
    scan? blocks (ts.map (spliced texts)) =
      scan? blocks (ts.filter fun t => t.inclusion?.isNone) := by
  induction ts generalizing blocks with
  | nil => rfl
  | cons t ts ih =>
      rw [List.map_cons, List.filter_cons]
      cases h : t.inclusion? with
      | none =>
          rw [spliced_of_inclusion?_eq_none h]
          simp only [Option.isNone_none, if_true, scan?, ih]
      | some name =>
          rw [spliced_of_inclusion (inclusion?_eq_some.mp h)]
          simpa [scan?, issue?, pass] using ih blocks

theorem not_isInclusion_spliced : ¬ (t.spliced texts).isInclusion := by
  rintro ⟨name, h⟩
  cases hinclusion : t.inclusion? with
  | none =>
      rw [spliced_of_inclusion?_eq_none hinclusion] at h
      cases hinclusion.symm.trans (inclusion?_eq_some.mpr h)
  | some name' =>
      rw [spliced_of_inclusion (inclusion?_eq_some.mp hinclusion)] at h
      cases h

end Token

open Token Outline

/-- Whatever texts stand for the includes, balanced tokens spell a body. -/
theorem Balanced.exists_spells {ts : List Token} (h : Balanced ts) (texts : Text → Text) :
    ∃ b : Body, b.Spells (ts.map (spliced texts)) := by
  have hn : ∀ t ∈ ts.map (spliced texts), ¬ t.isInclusion := by
    intro t ht
    obtain ⟨u, -, rfl⟩ := List.mem_map.mp ht
    exact not_isInclusion_spliced
  refine (wellBracketed_iff_scan? hn).mpr ?_
  rw [scan?_map_spliced]
  exact h.scan? []

namespace Compilation

variable {c c' : Compilation} {d d' : Draft} {ts us : List Token} {texts : Text → Text}

/-- Tokens whose includes give way to the texts fetched for them come to the same draft. -/
theorem steps_spliced (h : ∀ t ∈ ts, ∀ name, t.content = .inclusion name →
      (c.fetchText name).result = .ok (texts name)) (d : Draft) :
    (c.steps d (ts.map (spliced texts))).result = (c.steps d ts).result := by
  induction ts generalizing d with
  | nil => rfl
  | cons t ts ih =>
      have hstep : (c.step d (t.spliced texts)).result = (c.step d t).result := by
        cases hinclusion : t.inclusion? with
        | none => rw [spliced_of_inclusion?_eq_none hinclusion]
        | some name =>
            have hname := inclusion?_eq_some.mp hinclusion
            rw [spliced_of_inclusion hname]
            simp only [step, hname, Traced.result_bind, h t List.mem_cons_self name hname]
            rfl
      have hrest := fun u hu => h u (List.mem_cons_of_mem _ hu)
      simp only [List.map_cons, steps, Traced.result_bind, hstep, ih hrest]

theorem puts_of_spliced {b : Body} (hb : b.Spells (ts.map (spliced texts)))
    (h : ∀ t ∈ ts, ∀ name, t.content = .inclusion name →
      (c.fetchText name).result = .ok (texts name)) : c.Puts ts b := by
  intro ps a
  rw [← steps_spliced h, steps_of_spells hb]

/-- The text that is fetched for a name, empty if it cannot be. -/
def fetched (c : Compilation) (name : Text) : Text := (c.fetchText name).result.toOption.getD []

theorem result_fetchText_of_steps (hs : (c.steps d ts).result = .ok d') :
    ∀ t ∈ ts, ∀ name, t.content = .inclusion name →
      (c.fetchText name).result = .ok (c.fetched name) := by
  intro t ht name hname
  obtain ⟨text, htext⟩ := exists_fetchText_of_steps hs ht hname
  rw [fetched, htext]
  rfl

variable [Traits]

/-- What balanced tokens compile to has a tree, and where more can be fetched the tokens put that
tree wherever they stand. -/
theorem Below.exists_body (h : c.Below c') (hts : Balanced ts) {p : Program}
    (hp : (c.compile ts).result = .ok p) :
    ∃ b : Body, (∀ data escapers, p.execute data escapers = b.meaning escapers data) ∧
      c'.Puts ts b := by
  obtain ⟨b, hb⟩ := hts.exists_spells c.fetched
  obtain ⟨d, hd, -⟩ := Traced.result_bind_eq_ok.mp hp
  have htexts := result_fetchText_of_steps hd
  refine ⟨b, fun data escapers => ?_, puts_of_spliced hb fun t ht name hname => ?_⟩
  · obtain ⟨p', hp', hcode⟩ := exists_compile_of_spells (c := c) hb
    rw [result_compile, steps_spliced htexts, ← result_compile, hp] at hp'
    cases hp'
    rw [Program.execute_eq_meaning hcode, Body.meaning, Body.meaningBy_join]
    exact Outcome.nil_append _
  · exact h.fetchText name _ (htexts t ht name hname)

end Compilation

namespace Environment

section

variable [Traits] {env : Environment} {templates : List (Text × Text)} {context : Context}
  {data : Value} {source name stored : Text} {before body after : List Token} {t : Token}

/-- The text that an include of a stored template fetches is what the tokens of that template mean,
and the tokens themselves can be compiled where the include stands. -/
theorem exists_body_of_fetchText (hloader : env.loader = some (.mapping templates))
    (hlookup : templates.lookup name = some stored) (hne : stored ≠ [])
    (hread : Token.ofSource env.readsNewlines stored = .ok body) (hbody : Balanced body)
    {text : Text}
    (h : ((env.compilation context.room context data source).fetchText name).result = .ok text) :
    ∃ b : Body, b.meaning env.escapers data = .ok text ∧
      (env.compilation context.room context data source).Puts body b := by
  obtain ⟨hlt, found, stored', program, hfound, hstored, hprogram, htext⟩ :=
    result_fetchText_eq_ok.mp h
  rw [result_fetch_mapping hloader hlookup hne] at hfound
  cases hfound
  cases hstored
  rw [compile, compileWithin_eq, hread] at hprogram
  have hroom : (context.child name).room ≤ context.room := by
    rw [Context.room_child hlt name]
    exact Nat.le_succ _
  obtain ⟨b, hmeaning, hsteps⟩ := (below_of_room_le hroom).exists_body hbody hprogram
  exact ⟨b, (hmeaning data env.escapers).symm.trans htext, hsteps⟩

/-- **An include outside of loops is its template written out.**  Where tokens with an include of a
stored template compile, so do the tokens with those of the template in its place, and both programs
have the same outcome for the data that the include was run with. -/
theorem execute_include_eq_inline (hloader : env.loader = some (.mapping templates))
    (hlookup : templates.lookup name = some stored) (hne : stored ≠ [])
    (hread : Token.ofSource env.readsNewlines stored = .ok body) (hbody : Balanced body)
    (ht : t.content = .inclusion name)
    (hloops : ∀ block ∈ openAfter [] before, block.kind ≠ .loopBlock) {p : Program}
    (hp : ((env.compilation context.room context data source).compile
      (before ++ t :: after)).result = .ok p) :
    ∃ q, ((env.compilation context.room context data source).compile
        (before ++ (body ++ after))).result = .ok q ∧
      q.execute data env.escapers = p.execute data env.escapers := by
  let c := env.compilation context.room context data source
  -- the compilation up to the include, the text it fetches, and the rest
  obtain ⟨d, hd, hp⟩ := Traced.result_bind_eq_ok.mp (c.compile_eq_rest _ ▸ hp)
  cases hp
  rw [Compilation.rest_append] at hd
  obtain ⟨d₁, hbefore, hd⟩ := Traced.result_bind_eq_ok.mp hd
  obtain ⟨⟨ps, a⟩, rfl⟩ := exists_of_steps (o := .empty) hbefore
  rw [Compilation.rest_cons] at hd
  obtain ⟨d₂, hinclude, hafter⟩ := Traced.result_bind_eq_ok.mp hd
  simp only [Compilation.step, ht] at hinclude
  obtain ⟨text, hfetch, hinclude⟩ := Traced.result_bind_eq_ok.mp hinclude
  cases hinclude
  -- text and tokens leave alike outlines, which stay alike to the end
  obtain ⟨b, htext, hsteps⟩ :=
    exists_body_of_fetchText hloader hlookup hne hread hbody hfetch
  have hopened : ps.map Pending.opened = openAfter [] before :=
    (opened_draft ⟨ps, a⟩).symm.trans (Compilation.opened_of_steps hbefore)
  have hps : ∀ p ∈ ps, p.opened.kind ≠ .loopBlock :=
    fun p hp => hloops p.opened (hopened ▸ List.mem_map_of_mem hp)
  rw [← draft_append] at hafter
  obtain ⟨b₁, b₂, rfl, hrest, hsame⟩ := (Alike.of_text hps htext a t.position).exists_rest hafter
  refine ⟨⟨(draft ⟨[], b₂⟩).ops, c.context.name⟩, ?_, ?_⟩
  · have hinline : (c.rest (draft ⟨ps, a⟩) (body ++ after)).result = .ok (draft ⟨[], b₂⟩) := by
      rw [Compilation.rest_append]
      exact Traced.result_bind_eq_ok.mpr ⟨_, hsteps ps a, hrest⟩
    rw [Compilation.compile_eq_rest, Compilation.rest_append]
    refine Traced.result_bind_eq_ok.mpr ⟨_, ?_, rfl⟩
    exact Traced.result_bind_eq_ok.mpr ⟨_, hbefore, hinline⟩
  · rw [Program.execute_eq_meaning (b := b₂) rfl, Program.execute_eq_meaning (b := b₁) rfl, hsame]

end

attribute [local instance] Traits.bare

set_option maxRecDepth 20000 in
/-- An include in a branch, of a template with a loop that includes another one at the limit. -/
theorem inline_in_branch :
    let stored : Text := "<tmpl_loop rows><tmpl_var v><tmpl_include u></tmpl_loop>"
    let templates : List (Text × Text) := [("t", stored), ("u", "<tmpl_var mark>")]
    let env : Environment := .make (some (.mapping templates)) true false 2 .standard
    let row (v : Text) : Value := .dict [(.text "v", .text v)]
    let data : Value := .dict [(.text "rows", .list [row "1", row "2"]), (.text "mark", .text "!")]
    let before : List Token := [⟨.opening .ifBlock "rows", ⟨1, 0⟩, .plain⟩]
    let t : Token := ⟨.inclusion "t", ⟨1, 14⟩, .plain⟩
    let after : List Token := [⟨.otherwise, ⟨1, 30⟩, .plain⟩, ⟨.text "-", ⟨1, 41⟩, .plain⟩,
      ⟨.closing "if", ⟨1, 42⟩, .plain⟩]
    let body : List Token :=
      [⟨.opening .loopBlock "rows", ⟨1, 0⟩, .plain⟩, ⟨.output "v", ⟨1, 16⟩, .plain⟩,
        ⟨.inclusion "u", ⟨1, 28⟩, .plain⟩, ⟨.closing "loop", ⟨1, 44⟩, .plain⟩]
    let c := env.compilation (env.context none).room (env.context none) data []
    Token.ofSource env.readsNewlines stored = .ok body ∧ Balanced body ∧
      (∀ block ∈ openAfter [] before, block.kind ≠ .loopBlock) ∧
      ∃ p q, (c.compile (before ++ t :: after)).result = .ok p ∧
        (c.compile (before ++ (body ++ after))).result = .ok q ∧
        p.execute data .standard = .ok "1!2!" ∧ q.execute data .standard = .ok "1!2!" := by
  intro stored templates env row data before t after body c
  have hread : Token.ofSource env.readsNewlines stored = .ok body := by
    decide +kernel +zetaReduce +revert
  have hrun : ((c.compile (before ++ t :: after)).result.bind fun p => p.execute data .standard) =
      .ok "1!2!" := by
    clear hread
    decide +kernel +zetaReduce +revert
  have hbody : Balanced body := by
    refine (wellBracketed_iff_scan? ?_).mpr (by decide)
    simp [body, Token.isInclusion, Token.inclusion?]
  have hloops : ∀ block ∈ openAfter [] before, block.kind ≠ .loopBlock := by decide
  obtain ⟨p, hp, hexecute⟩ := Traced.bind_eq_ok.mp hrun
  obtain ⟨q, hq, hsame⟩ :=
    execute_include_eq_inline rfl (by decide) (by decide) hread hbody (t := t) rfl hloops hp
  exact ⟨hread, hbody, hloops, p, q, hp, hq, hexecute, hsame.trans hexecute⟩

set_option maxRecDepth 20000 in
/-- In a loop the two differ: what is included is run for the data, not for the item. -/
example :
    let env : Environment := .make (some (.mapping [("t", "<tmpl_var v>")])) true false 1 .standard
    let data : Value := .dict [(.text "rows", .list [.dict [(.text "v", .text "1")]])]
    let c := env.compilation (env.context none).room (env.context none) data []
    let inLoop (t : Token) : List Token := [⟨.opening .loopBlock "rows", ⟨1, 0⟩, .plain⟩, t,
      ⟨.closing "loop", ⟨1, 30⟩, .plain⟩]
    let run (t : Token) := (c.compile (inLoop t)).result.bind fun p => p.execute data .standard
    run ⟨.inclusion "t", ⟨1, 16⟩, .plain⟩ = .ok [] ∧
      run ⟨.output "v", ⟨1, 0⟩, .plain⟩ = .ok "1" := by
  decide +kernel +zetaReduce

end Environment

end TagTemplate
