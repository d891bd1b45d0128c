/-
# Blame — which tag a mismatch is about, and what its message shows

A strict compilation stops at the first tag that does not fit, or at the end within a block.  It
also stops if an include does, and then with the same error: the template that was compiled last
is to blame, not those around it.

    compiling a source
      ↳  its own tags do not fit          the report has its name, text and the tag's place
      ↳  an include of it is compiled     whatever that comes to
      ↳  an include of it is run          what data and escapers raise

Which tag it is depends on no include (`Fault`): a scan passes over them.  The place is the one the
line of the tag is numbered by and the message quotes a line by the same number, but of the text
cut at more boundaries (`boundedLines`), so the line of the tag is quoted if no other boundary
stands before it.
-/
import TagTemplate.Proofs.Block.Repair
import TagTemplate.Proofs.Block.Strict
import TagTemplate.Proofs.Include.Room
import TagTemplate.Proofs.Text.Boundaries
import TagTemplate.Proofs.Token.Places

namespace TagTemplate

open Token

/-- The tokens that are no includes. -/
def Token.own (tokens : List Token) : List Token := tokens.filter fun t => t.inclusion?.isNone

theorem Token.not_isInclusion_of_mem_own {tokens : List Token} :
    ∀ t ∈ own tokens, ¬ t.isInclusion := by
  rintro t ht ⟨name, hname⟩
  have hnone := (List.mem_filter.mp ht).2
  rw [inclusion?_eq_some.mpr hname] at hnone
  cases hnone

/-- The report is about a tag among the tokens, which have their fault there, and has the name and
the text of the template that is compiled. -/
structure SyntaxReport.Blames (r : SyntaxReport) (context : Context) (tokens : List Token)
    (t : Token) : Prop where
  mem : t ∈ tokens
  isTag : ∀ value, t.content ≠ .text value
  fault : Fault (own tokens) r.code t.position
  name : r.name = context.name
  source : r.source = context.source
  line : r.line = some t.position.line
  column : r.column = some t.position.column

/-! ## Strict compilations -/

namespace Compilation

variable {c : Compilation} {d d' : Draft} {t : Token} {ts : List Token} {e : Error}

theorem issue?_of_step (hc : c.strict = true) (h : (c.step d t).result = .ok d') :
    t.issue? d.opened = none := by
  cases hissue : t.issue? d.opened with
  | none => rfl
  | some issue =>
      rw [step_of_strict hc hissue] at h
      cases h

/-- What a strict compilation is got through a scan is got through, which passes over includes. -/
theorem scan?_of_steps (hc : c.strict = true) (h : (c.steps d ts).result = .ok d') :
    scan? d.opened (own ts) = some d'.opened := by
  induction ts generalizing d with
  | nil =>
      cases h
      rfl
  | cons t ts ih =>
      obtain ⟨d₁, h₁, h⟩ := Traced.result_bind_eq_ok.mp h
      have hissue := issue?_of_step hc h₁
      have hopened := opened_of_apply (result_apply_of_step h₁)
      have hrest := ih h
      rw [hopened] at hrest
      rw [own, List.filter_cons]
      cases hname : t.inclusion? with
      | none => exact (scan?_cons_of_fits hissue).trans hrest
      | some name =>
          have hpass : t.pass d.opened = d.opened := by
            simp only [Token.pass, inclusion?_eq_some.mp hname]
          rwa [hpass] at hrest

theorem exists_stop_of_steps (h : (c.steps d ts).result = .error e) :
    ∃ before t after d', ts = before ++ t :: after ∧ (c.steps d before).result = .ok d' ∧
      (c.step d' t).result = .error e := by
  induction ts generalizing d with
  | nil => cases h
  | cons t ts ih =>
      cases hstep : (c.step d t).result with
      | error e' =>
          rw [steps, Traced.result_bind, hstep] at h
          cases h
          exact ⟨[], t, ts, d, rfl, rfl, hstep⟩
      | ok d₁ =>
          rw [steps, Traced.result_bind, hstep] at h
          obtain ⟨before, u, after, d', rfl, hbefore, hu⟩ := ih h
          exact ⟨t :: before, u, after, d', rfl,
            Traced.result_bind_eq_ok.mpr ⟨d₁, hstep, hbefore⟩, hu⟩

theorem blames_of_issue {before : List Token} {issue : Issue} (hc : c.strict = true)
    (hbefore : (c.steps .empty before).result = .ok d) (hissue : t.issue? d.opened = some issue)
    (after : List Token) :
    ∃ r, issue.error c.context t.position = .mismatched r ∧
      r.Blames c.context (before ++ t :: after) t := by
  have htag : t.inclusion? = none ∧ ∀ value, t.content ≠ .text value := by
    unfold Token.issue? at hissue
    unfold Token.inclusion?
    cases ht : t.content with
    | otherwise => exact ⟨rfl, nofun⟩
    | closing word => exact ⟨rfl, nofun⟩
    | _ =>
        rw [ht] at hissue
        cases hissue
  have hown : own (before ++ t :: after) = own before ++ t :: own after := by
    rw [own, List.filter_append, List.filter_cons, htag.1]
    rfl
  have hscan := scan?_of_steps hc hbefore
  have hmisfit := firstMisfit_of_issue hown not_isInclusion_of_mem_own hscan hissue
  exact ⟨_, rfl, by simp, htag.2, hmisfit.fault not_isInclusion_of_mem_own hscan hissue,
    rfl, rfl, rfl, rfl⟩

theorem blames_of_open {block : Opened} {blocks : List Opened} (hc : c.strict = true)
    (hsteps : (c.steps .empty ts).result = .ok d) (hopened : d.opened = block :: blocks) :
    ∃ r t, (Issue.unclosed block.kind).error c.context block.place = .mismatched r ∧
      r.Blames c.context ts t := by
  have hscan := scan?_of_steps hc hsteps
  rw [hopened] at hscan
  have hopen := open_of_scan? hscan not_isInclusion_of_mem_own
  obtain ⟨us, o, vs, name, htokens, ho, hplace, hvs⟩ := hopen.innermost
  have hmem : o ∈ own ts := htokens ▸ List.mem_append_right us List.mem_cons_self
  refine ⟨_, o, rfl, (List.mem_filter.mp hmem).1, ?_, ?_, rfl, rfl, ?_, ?_⟩
  · intro value hvalue
    cases ho.symm.trans hvalue
  · exact .unclosed hopen.extendable htokens ho hvs
  · rw [hplace]
  · rw [hplace]

/-- Where a strict compilation stops, and with what. -/
inductive Stops (c : Compilation) (tokens : List Token) : Error → Prop
  | misfit {before after : List Token} {t : Token} {d : Draft} {issue : Issue} :
      tokens = before ++ t :: after → (c.steps .empty before).result = .ok d →
      t.issue? d.opened = some issue → Stops c tokens (issue.error c.context t.position)
  | unclosed {d : Draft} {block : Opened} {blocks : List Opened} :
      (c.steps .empty tokens).result = .ok d → d.opened = block :: blocks →
      Stops c tokens ((Issue.unclosed block.kind).error c.context block.place)
  | inclusion {before after : List Token} {t : Token} {d : Draft} {name : Text} {e : Error} :
      tokens = before ++ t :: after → (c.steps .empty before).result = .ok d →
      t.content = .inclusion name → (c.fetchText name).result = .error e → Stops c tokens e

theorem stops_of_compile (hc : c.strict = true) {tokens : List Token}
    (h : (c.compile tokens).result = .error e) : c.Stops tokens e := by
  rw [result_compile] at h
  rcases Traced.bind_eq_error.mp h with hsteps | ⟨d, hsteps, h⟩
  · obtain ⟨before, t, after, d, htokens, hbefore, hstop⟩ := exists_stop_of_steps hsteps
    cases hissue : t.issue? d.opened with
    | some issue =>
        rw [step_of_strict hc hissue] at hstop
        cases hstop
        exact .misfit htokens hbefore hissue
    | none =>
        rw [step_of_fits hissue] at hstop
        obtain ⟨name, hname, hfetch⟩ := result_apply_eq_error hstop
        exact .inclusion htokens hbefore hname hfetch
  · cases hopened : d.opened with
    | nil =>
        rw [closeAll_of_closed hopened] at h
        cases h
    | cons block blocks =>
        rw [closeAll_of_strict hc hopened] at h
        cases h
        exact .unclosed hsteps hopened

/-- A strict compilation fails for a tag of its own, or with what an include of it fails with. -/
theorem exists_blame (hc : c.strict = true) {tokens : List Token}
    (h : (c.compile tokens).result = .error e) :
    (∃ r t, e = .mismatched r ∧ r.Blames c.context tokens t) ∨
    ∃ before t after d name, tokens = before ++ t :: after ∧
      (c.steps .empty before).result = .ok d ∧ t.content = .inclusion name ∧
      (c.fetchText name).result = .error e := by
  cases stops_of_compile hc h with
  | misfit htokens hbefore hissue =>
      obtain ⟨r, hr, hblames⟩ := blames_of_issue hc hbefore hissue _
      exact .inl ⟨r, _, hr, htokens ▸ hblames⟩
  | unclosed hsteps hopened => exact .inl (blames_of_open hc hsteps hopened)
  | inclusion htokens hbefore hname hfetch =>
      exact .inr ⟨_, _, _, _, _, htokens, hbefore, hname, hfetch⟩

end Compilation

/-! ## Messages -/

/-- The message of a report quotes a line of a text: the line of that number in the text cut at
every boundary, with a caret below the column. -/
structure SyntaxReport.Quotes (r : SyntaxReport) (text : Text) (line column : Nat)
    (quoted : Text) : Prop where
  boundedLine : text.boundedLines[line - 1]? = some quoted
  message : r.message =
    ("Syntax Error: " : Text) ++ r.detail ++ "\n  --> " ++
      (displayName r.name ++ (":" ++ Text.ofInt line ++ (":" ++ Text.ofInt column))) ++
      ("\n   |\n" ++ (Text.ofInt line).padLeft 3 ' ' ++ " | " ++ quoted ++
        ("\n   | " ++ Text.replicate column ' ' ++ "^"))

theorem SyntaxReport.quotes {r : SyntaxReport} {text quoted : Text} {line column : Nat}
    (hsource : r.source = some text) (hline : r.line = some ↑(line + 1))
    (hcolumn : r.column = some ↑column) (hquoted : text.boundedLines[line]? = some quoted) :
    r.Quotes text (line + 1) column quoted := by
  have hknown : r.knownLine? = some ↑(line + 1) := by
    rw [knownLine?, hline]
    exact Option.filter_some_pos (bne_iff_ne.mpr (by omega))
  have hguard : (guard (0 < (↑(line + 1) : Int)) : Option Unit) = some () := if_pos (by omega)
  have hsourceLine : r.sourceLine? = some (↑(line + 1), quoted) := by
    rw [sourceLine?, hknown, Option.bind_eq_bind, Option.bind_some, hguard, hsource]
    simp only [Option.bind_eq_bind, Option.bind_some, Int.toNat_natCast, Nat.add_sub_cancel,
      hquoted, Option.pure_def]
  refine ⟨hquoted, ?_⟩
  simp only [message, place, snippet, hknown, hsourceLine, hcolumn, Int.toNat_natCast]

namespace Environment

section

variable [Traits] {env : Environment} {context context' : Context} {data : Value}
  {source source' name text : Text} {r : SyntaxReport}

/-- Compiling a source comes to compiling another: the source itself, or that of an include which
is got to, and what that comes to. -/
inductive ComesTo (env : Environment) (data : Value) : Context → Text → Context → Text → Prop
  | here {context : Context} {source : Text} : ComesTo env data context source context source
  | included {context context' : Context} {source source' stored name : Text}
      {before after : List Token} {t : Token} {d : Draft} {found : Value × Value} :
      Token.ofSource env.readsNewlines source = .ok (before ++ t :: after) →
      ((env.compilation context.room context data source).steps .empty before).result = .ok d →
      t.content = .inclusion name → context.depth < context.limit →
      (env.fetch name).result = .ok found → sourceText found.1 = .ok stored →
      ComesTo env data (context.child name) stored context' source' →
      ComesTo env data context source context' source'

/-- The mismatch is not the compiler's: data or escapers raise it, as a source that the compilation
comes to has compiled and is run with them. -/
structure RaisedInRun (env : Environment) (data : Value) (context : Context) (source : Text)
    (r : SyntaxReport) : Prop where
  not_calm : ¬(data.Calm ∧ env.escapers.Calm)
  exists_run : ∃ context' source' program, env.ComesTo data context source context' source' ∧
    (env.compile context' data source').result = .ok program ∧
      program.execute data env.escapers = .error (.mismatched r)

/-- A mismatch in an include is one in compiling its source, or one in running it. -/
theorem exists_of_fetchText_mismatched
    (h : ((env.compilation context.room context data source).fetchText name).result =
      .error (.mismatched r)) :
    context.depth < context.limit ∧ ∃ found stored,
      (env.fetch name).result = .ok found ∧ sourceText found.1 = .ok stored ∧
        ((env.compile (context.child name) data stored).result = .error (.mismatched r) ∨
          ∃ program, (env.compile (context.child name) data stored).result = .ok program ∧
            program.execute data env.escapers = .error (.mismatched r)) := by
  rcases Int.lt_or_le context.depth context.limit with hlt | hle
  · rw [fetchText_of_depth_lt hlt, Context.room_child hlt name] at h
    simp only [includeText, Traced.result_bind, Traced.result_emit, Traced.result_of,
      Traced.ok_bind] at h
    rcases Traced.bind_eq_error.mp h with hfetch | ⟨found, hfound, h⟩
    · cases calm_fetch env name _ hfetch
    rcases Traced.bind_eq_error.mp h with hsource | ⟨stored, hstored, h⟩
    · cases calm_sourceText found.1 _ hsource
    refine ⟨hlt, found, stored, hfound, hstored, ?_⟩
    exact Traced.bind_eq_error.mp h
  · rw [fetchText_of_limit_le hle] at h
    cases h

theorem exists_blames_or_include (hstrict : env.strict = true)
    (h : (env.compile context data source).result = .error (.mismatched r)) :
    ∃ tokens, Token.ofSource env.readsNewlines source = .ok tokens ∧
      ((∃ t, r.Blames (enter context source) tokens t) ∨
        ∃ before t after d name, tokens = before ++ t :: after ∧
          ((env.compilation context.room context data source).steps .empty before).result =
            .ok d ∧
          t.content = .inclusion name ∧
          ((env.compilation context.room context data source).fetchText name).result =
            .error (.mismatched r)) := by
  rw [compile, compileWithin_eq, Traced.result_bind, Traced.result_of] at h
  rcases Traced.bind_eq_error.mp h with hread | ⟨tokens, htokens, h⟩
  · cases Token.calm_ofSource _ _ _ hread
  · refine ⟨tokens, htokens, ?_⟩
    rcases Compilation.exists_blame hstrict h with ⟨r', t, heq, hblames⟩ | hinclude
    · cases heq
      exact .inl ⟨t, hblames⟩
    · exact .inr hinclude

theorem RaisedInRun.of_run {program : Program}
    (hprogram : (env.compile context data source).result = .ok program)
    (hexecute : program.execute data env.escapers = .error (.mismatched r)) :
    env.RaisedInRun data context source r where
  not_calm := by
    rintro ⟨hdata, hescapers⟩
    obtain ⟨body, hbody⟩ := exists_body_of_compileWithin hprogram
    cases calm_execute hbody hescapers hdata _ hexecute
  exists_run := ⟨context, source, program, .here, hprogram, hexecute⟩

/-- A mismatch of a strict environment is to blame on a tag of a source that the compilation comes
to, unless it is raised as one is run.  The induction is on the room for includes. -/
theorem exists_blames (hstrict : env.strict = true)
    (h : (env.compile context data source).result = .error (.mismatched r)) :
    (∃ context' source' tokens t, env.ComesTo data context source context' source' ∧
      Token.ofSource env.readsNewlines source' = .ok tokens ∧
      r.Blames (enter context' source') tokens t) ∨
    env.RaisedInRun data context source r := by
  generalize hroom : context.room = room
  induction room generalizing context source with
  | zero =>
      obtain ⟨tokens, htokens, ⟨t, hblames⟩ | ⟨_, t, _, _, name, -, -, -, hfetch⟩⟩ :=
        exists_blames_or_include hstrict h
      · exact .inl ⟨context, source, tokens, t, .here, htokens, hblames⟩
      · obtain ⟨hlt, -⟩ := exists_of_fetchText_mismatched hfetch
        cases (Context.room_child hlt name).symm.trans hroom
  | succ room ih =>
      obtain ⟨tokens, htokens, ⟨t, hblames⟩ |
        ⟨before, t, after, d, name, rfl, hd, hname, hfetch⟩⟩ := exists_blames_or_include hstrict h
      · exact .inl ⟨context, source, tokens, t, .here, htokens, hblames⟩
      · obtain ⟨hlt, found, stored, hfound, hstored, hcases⟩ :=
          exists_of_fetchText_mismatched hfetch
        rw [Context.room_child hlt name, Nat.add_right_cancel_iff] at hroom
        -- what happens in the include happens in the source that is got to there
        refine Or.imp ?_ ?_ (hcases.elim (ih · hroom) fun ⟨_, hprogram, hexecute⟩ =>
          .inr (.of_run hprogram hexecute))
        · rintro ⟨context', source', tokens', t', hcomes, hblames⟩
          exact ⟨context', source', tokens', t',
            .included htokens hd hname hlt hfound hstored hcomes, hblames⟩
        · rintro ⟨hcalm, context', source', program, hcomes, hrun⟩
          exact ⟨hcalm, context', source', program,
            .included htokens hd hname hlt hfound hstored hcomes, hrun⟩

omit [Traits] in
/-- The message of a report about a tag quotes the line it stands in by its number. -/
theorem exists_quotes {tokens : List Token} {t : Token}
    (hread : Token.ofSource env.readsNewlines source = .ok tokens)
    (h : r.Blames (enter context source) tokens t) :
    t.StandsIn source.normalizeNewlines ∧
    ∃ (line column : Nat) (quoted : Text), t.position = ⟨line, column⟩ ∧
      r.Quotes source.normalizeNewlines line column quoted ∧
      ((∀ l ∈ source.normalizeNewlines.lines.take line, Text.Unbroken l) →
        source.normalizeNewlines.lines[line - 1]? = some quoted) := by
  have hstands := Token.standsIn_of_mem hread h.mem h.isTag
  refine ⟨hstands, ?_⟩
  obtain ⟨n, before, rest, after, tag, hline, hwritten, hcarries, hposition⟩ := hstands
  have hreturn := Text.carriageReturn_not_mem_normalizeNewlines source
  obtain ⟨quoted, hquoted, hunbroken⟩ :=
    Text.exists_getElem?_boundedLines hreturn hline (by simp)
  refine ⟨n + 1, before.length, quoted, hposition, ?_, fun h => ?_⟩
  · refine SyntaxReport.quotes h.source ?_ ?_ hquoted
    · rw [h.line, hposition]
    · rw [h.column, hposition]
  · rw [hunbroken h]
    exact hline

/-- What a mismatch says: which tag of which source it is about, and which line is quoted. -/
structure Shows (env : Environment) (data : Value) (context : Context) (source : Text)
    (r : SyntaxReport) (context' : Context) (source' : Text) (t : Token) : Prop where
  comesTo : env.ComesTo data context source context' source'
  blames : ∃ tokens, Token.ofSource env.readsNewlines source' = .ok tokens ∧
    r.Blames (enter context' source') tokens t
  standsIn : t.StandsIn source'.normalizeNewlines
  quotes : ∃ (line column : Nat) (quoted : Text), t.position = ⟨line, column⟩ ∧
    r.Quotes source'.normalizeNewlines line column quoted ∧
    ((∀ l ∈ source'.normalizeNewlines.lines.take line, Text.Unbroken l) →
      source'.normalizeNewlines.lines[line - 1]? = some quoted)

/-- **A mismatch shows where its tag is.**  It is about a tag, or an opening tag that is not closed,
of a source that the compilation comes to; its line and column are those of the bracket of the tag
in that source, with line feeds between lines; and its message quotes the line of this number of
the text cut at every boundary, which is the line of the tag if there is no other boundary up to
its end.  Other mismatches are raised by data or escapers, as such a source is run with them. -/
theorem exists_shows (hstrict : env.strict = true)
    (h : (env.compile context data source).result = .error (.mismatched r)) :
    (∃ context' source' t, env.Shows data context source r context' source' t) ∨
      env.RaisedInRun data context source r := by
  refine (exists_blames hstrict h).imp_left ?_
  rintro ⟨context', source', tokens, t, hcomes, hread, hblames⟩
  obtain ⟨hstands, hquotes⟩ := exists_quotes hread hblames
  exact ⟨context', source', t, hcomes, ⟨tokens, hread, hblames⟩, hstands, hquotes⟩

end

attribute [local instance] Traits.bare

set_option maxRecDepth 20000 in
/-- A closing tag in the second line of a template that is included. -/
theorem exists_shows_in_include :
    let templates : List (Text × Text) := [("t", "a\r\nb</tmpl_if>")]
    let env : Environment := .make (some (.mapping templates)) true false 50 .standard
    let r : SyntaxReport := ⟨"</tmpl_if> without an open block", some 2, some "t",
      some "a\nb</tmpl_if>", some 1, .unexpectedClose⟩
    env.strict = true ∧
    (env.compile (env.context none) .null "<tmpl_include t>").result = .error (.mismatched r) ∧
    ∃ context' source' t,
      env.Shows .null (env.context none) "<tmpl_include t>" r context' source' t := by
  intro templates env r
  have h : (env.compile (env.context none) .null "<tmpl_include t>").result =
      .error (.mismatched r) := by
    decide +kernel +zetaReduce +revert
  exact ⟨rfl, h, (exists_shows rfl h).resolve_right fun hraised =>
    hraised.not_calm ⟨Value.calm_null, EscapeTable.calm_standard⟩⟩

set_option maxRecDepth 20000 in
/-- A form feed before the line of the tag: another line is quoted. -/
theorem quotes_another_line :
    let source : Text := "a\x0cb\n</tmpl_if>"
    let env : Environment := .make none true false 50 .standard
    let r : SyntaxReport := ⟨"</tmpl_if> without an open block", some 2, none, some source, some 0,
      .unexpectedClose⟩
    (env.compile (env.context none) .null source).result = .error (.mismatched r) ∧
    source.normalizeNewlines.lines[1]? = some ("</tmpl_if>" : Text) ∧
    r.message = "Syntax Error: </tmpl_if> without an open block\n  --> <template>:2:0" ++
      "\n   |\n  2 | b\n   | ^" := by
  decide +kernel +zetaReduce

end Environment

end TagTemplate
