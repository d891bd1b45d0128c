/-
# Codes — which errors of an environment lead with theirs

What an environment fails with comes from one of these:

    a tag that cannot be read, a text that is none        no code
    a block tag that does not fit                         `mismatched`
    nothing to compile, or nothing that can be fetched    `missing`, `fetchFailed`
    an include beyond the limit                           `tooDeep`
    the loader, or data and escapers as an include runs   whatever they raise (`Relays`)

The ones in the middle are put in words by the library (`Worded`).  Such a message does not begin
with a code, and what is said to be wrong with a block tag has none in it, as the words of closing
tags are in lower case.  So the error leads with its code just if the code is in none of the
texts from outside (`compact_leads_iff`): the name of a template, the line that is quoted, and what
was to be included or fetched.
-/
import TagTemplate.Proofs.Error.Compact
import TagTemplate.Proofs.Include.Surfacing
import TagTemplate.Proofs.Meaning.Lenient
import TagTemplate.Proofs.Token.Spelling

namespace TagTemplate

open ErrorCode

/-! ## Errors in the library's words -/

namespace Error

/-- The message is the library's wording, but for texts from outside. -/
structure Worded (e : Error) : Prop where
  embeds : Embeds e.message e.outside
  head : ∃ c rest, e.message = c :: rest ∧ c ≠ initial

theorem worded_missing {reason : Missing}
    (h : ∀ message location, reason ≠ .stated message location) : Worded (.missing reason) where
  embeds := embeds_message (.missing reason)
  head := by
    cases reason with
    | stated message location => exact absurd rfl (h message location)
    | _ => exact ⟨_, _, rfl, by decide⟩

theorem worded_fetchFailed (location : Text) (cause : Error) :
    Worded (.fetchFailed location cause) where
  embeds := embeds_message (.fetchFailed location cause)
  head := ⟨_, _, rfl, by decide⟩

theorem worded_tooDeep (name : Text) (limit : Int) (stack : List Text) :
    Worded (.tooDeep name limit stack) where
  embeds := embeds_message (.tooDeep name limit stack)
  head := ⟨_, _, rfl, by decide⟩

theorem worded_mismatched {report : SyntaxReport} (h : initial ∉ report.detail) :
    Worded (.mismatched report) where
  embeds := by
    intro code
    have hdetail : ¬ code.text <:+: report.detail := fun hinfix =>
      nomatch (embeds_wording h code).mp hinfix
    rw [embeds_message (.mismatched report) code]
    simp only [carried, outside, List.mem_cons, or_and_right, exists_or, exists_eq_left, hdetail,
      false_or]
  head := ⟨_, _, rfl, by decide⟩

/-- An error in the library's words leads with its code just if no text from outside has it. -/
theorem Worded.leads_iff {e : Error} {code : ErrorCode} (h : e.Worded)
    (hcode : e.code? = some code) :
    code.text ++ (": " : Text) <+: e.compact ↔ ∀ t ∈ e.outside, ¬ code.text <:+: t := by
  have houtside : (∃ t ∈ e.carried, code.text <:+: t) ↔ ∃ t ∈ e.outside, code.text <:+: t :=
    (e.embeds_message code).symm.trans (h.embeds code)
  rcases compact_cases hcode with ⟨hcompact, hnone⟩ | ⟨hcompact, hsome⟩
  · rw [hcompact]
    refine iff_of_true (List.prefix_append _ _) fun t ht hinfix => ?_
    obtain ⟨t, ht, hinfix⟩ := houtside.mpr ⟨t, ht, hinfix⟩
    exact hnone t ht hinfix
  · refine iff_of_false (fun hprefix => ?_) fun hnone => ?_
    · obtain ⟨c, rest, hmessage, hc⟩ := h.head
      obtain ⟨rest', hcode⟩ := code.exists_text_eq_cons
      rw [hcompact, hmessage, hcode] at hprefix
      exact hc (List.cons_prefix_cons.mp hprefix).1.symm
    · obtain ⟨t, ht, hinfix⟩ := houtside.mp hsome
      exact hnone t ht hinfix

end Error

/-! ## What is said of a block tag -/

/-- A variant of a small letter other than `k` is no capital in lower case. -/
theorem CodePoint.initial_not_mem_lower {c : CodePoint}
    (hletter : 0x61 ≤ c.fold.val ∧ c.fold.val ≤ 0x7a) (hk : c.fold ≠ .ofChar 'k') :
    initial ∉ c.lower := by
  have hself : c.val ≠ 0x130 → CaseRun.find? lowerRuns c.val = none → c.val ≠ initial.val →
      initial ∉ c.lower := by
    intro hdotted hfind hc hmem
    rw [lower, if_neg hdotted, hfind] at hmem
    exact hc (congrArg CodePoint.val (List.mem_singleton.mp hmem)).symm
  rcases isAscii_or_of_fold rfl hletter with ha | ⟨hv, -⟩ | ⟨hv, -⟩ | ⟨hv, -⟩ | ⟨-, hk'⟩
  · rw [lower_of_isAscii ha, List.mem_singleton]
    intro heq
    rw [← heq] at hletter
    exact absurd hletter (by decide)
  · rw [lower, if_pos hv]
    decide
  · rw [hv] at hself
    exact hself (by decide) (by decide +kernel) (by decide)
  · rw [hv] at hself
    exact hself (by decide) (by decide +kernel) (by decide)
  · exact absurd hk' hk

theorem Text.IsWord.initial_not_mem_lower {t word : Text} (h : t.IsWord word)
    (hword : ∀ d ∈ word, (0x61 ≤ d.val ∧ d.val ≤ 0x7a) ∧ d ≠ CodePoint.ofChar 'k') :
    initial ∉ t.lower := by
  have hfold : ∀ c ∈ t, (0x61 ≤ c.fold.val ∧ c.fold.val ≤ 0x7a) ∧ c.fold ≠ .ofChar 'k' :=
    fun c hc => hword c.fold (h ▸ List.mem_map_of_mem hc)
  rw [h.lower_eq_flatMap fun d hd => (hword d hd).1, List.mem_flatMap]
  rintro ⟨c, hc, hmem⟩
  exact CodePoint.initial_not_mem_lower (hfold c hc).1 (hfold c hc).2 hmem

theorem Token.initial_not_mem_of_closing {keepNewlines : Bool} {source word : Text}
    {tokens : List Token} {t : Token} (hread : ofSource keepNewlines source = .ok tokens)
    (ht : t ∈ tokens) (hword : t.content = .closing word) : initial ∉ word := by
  rcases exists_tag_of_mem hread ht with ⟨value, hvalue⟩ | ⟨tag, lexeme, -, hcarries⟩
  · cases hvalue.symm.trans hword
  obtain ⟨keyword, word', -, hmem, hkeyword, ⟨rfl, -⟩ | ⟨rfl, -⟩⟩ :=
    Content.Carries.exists_of_closing (hword ▸ hcarries)
  · have hwords : ∀ word ∈ Tag.closingKeywords, initial ∉ word := by decide
    exact hwords word hmem
  · exact hkeyword.initial_not_mem_lower (Tag.letters_of_mem_closingKeywords word' hmem)

namespace Issue

theorem initial_not_mem_openTag (block : BlockKind) : initial ∉ openTag block := by
  cases block <;> decide

theorem initial_not_mem_closeTag {word : Text} (h : initial ∉ word) : initial ∉ closeTag word :=
  List.not_mem_append (List.not_mem_append (by decide) h) (by decide)

theorem initial_not_mem_openedAt (line : Int) : initial ∉ openedAt line :=
  List.not_mem_append (by decide) (initial_not_mem_ofInt line)

theorem initial_not_mem_detail {issue : Issue} {t : Token} {blocks : List Opened}
    (h : t.issue? blocks = some issue)
    (hwords : ∀ word, t.content = .closing word → initial ∉ word) : initial ∉ issue.detail := by
  unfold Token.issue? at h
  split at h
  · unfold Opened.elseIssue? at h
    split at h
    · cases h
      decide
    · next block _ =>
        split at h
        · cases h
          decide
        · split at h
          · cases h
            exact List.not_mem_append
              (List.not_mem_append (by decide) (initial_not_mem_openTag block.kind))
              (initial_not_mem_openedAt block.place.line)
          · cases h
  · next word hword =>
      have htag := initial_not_mem_closeTag (hwords word hword)
      unfold Opened.closeIssue? at h
      split at h
      · cases h
        exact List.not_mem_append htag (by decide)
      · next block _ =>
          split at h
          · cases h
          · cases h
            exact List.not_mem_append
              (List.not_mem_append (List.not_mem_append htag (by decide))
                (initial_not_mem_openTag block.kind))
              (initial_not_mem_openedAt block.place.line)
  · cases h

end Issue

/-- A compilation fails for a block tag, with no code in what is said of it, or with what an include
of it fails with. -/
theorem Compilation.exists_detail_of_compile {c : Compilation} {tokens : List Token} {e : Error}
    (hwords : ∀ t ∈ tokens, ∀ word, t.content = .closing word → initial ∉ word)
    (h : (c.compile tokens).result = .error e) :
    (∃ r, e = .mismatched r ∧ initial ∉ r.detail) ∨
      ∃ name, (c.fetchText name).result = .error e := by
  cases hc : c.strict with
  | false =>
      obtain ⟨_, _, _, _, name, -, -, -, hfetch⟩ := exists_fetchText_of_compile hc h
      exact .inr ⟨name, hfetch⟩
  | true =>
      cases stops_of_compile hc h with
      | @misfit before after t d issue htokens _ hissue =>
          have ht : t ∈ tokens := htokens ▸ List.mem_append_right _ List.mem_cons_self
          exact .inl ⟨_, rfl, Issue.initial_not_mem_detail hissue (hwords t ht)⟩
      | @unclosed d block blocks _ _ =>
          exact .inl ⟨_, rfl,
            List.not_mem_append (Issue.initial_not_mem_openTag block.kind) (by decide)⟩
      | inclusion _ _ _ hfetch => exact .inr ⟨_, hfetch⟩

/-! ## Where errors come from -/

namespace Environment

section

variable [Traits] {env : Environment} {context : Context} {data : Value} {source name : Text}
  {e : Error} {code : ErrorCode}

/-- The error is raised by what the environment works with: its loader, or the data and escapers
that an included template is run with. -/
inductive Relays (env : Environment) (data : Value) (e : Error) : Prop
  | loader {loader : Loader} {name : Text} : env.loader = some loader →
      loader.fetch name = .error e → Relays env data e
  | run {context : Context} {source : Text} {p : Program} :
      (env.compile context data source).result = .ok p →
      p.execute data env.escapers = .error e → Relays env data e

/-- Something fails with the error: compiling a source, making a template, fetching a text by its
name, or asking the loader for it. -/
inductive Raises (env : Environment) (data : Value) (e : Error) : Prop
  | compile {context : Context} {source : Text} :
      (env.compile context data source).result = .error e → Raises env data e
  | template {r : Request} : r.data = data → (env.template r).result = .error e →
      Raises env data e
  | fetch {name : Text} : (env.fetch name).result = .error e → Raises env data e
  | loader {loader : Loader} {name : Text} : env.loader = some loader →
      loader.fetch name = .error e → Raises env data e

/-- Where an error comes from, as far as its code goes. -/
inductive Origin (env : Environment) (data : Value) (e : Error) : Prop
  | codeless : e.code? = none → Origin env data e
  | worded : e.Worded → Origin env data e
  | relayed : env.Relays data e → Origin env data e

theorem origin_of_fetch (h : (env.fetch name).result = .error e) : env.Origin data e := by
  unfold fetch at h
  split at h
  · cases h
    exact .worded (Error.worded_missing nofun)
  · split at h
    · cases h
      exact .worded (Error.worded_fetchFailed _ _)
    · split at h
      · cases h
        exact .worded (Error.worded_missing nofun)
      · cases h

theorem origin_of_sourceText {v : Value} (h : sourceText v = .error e) : env.Origin data e := by
  unfold sourceText at h
  split at h <;> cases h <;> exact .codeless rfl

theorem origin_of_fetchText
    (h : ((env.compilation context.room context data source).fetchText name).result = .error e)
    (hcompile : ∀ stored, context.depth < context.limit →
      (env.compile (context.child name) data stored).result = .error e → env.Origin data e) :
    env.Origin data e := by
  rcases Int.lt_or_le context.depth context.limit with hlt | hle
  · rw [fetchText_eq_includeText hlt] at h
    simp only [includeText, Traced.result_bind, Traced.result_emit, Traced.result_of,
      Traced.ok_bind] at h
    rcases Traced.bind_eq_error.mp h with hfetch | ⟨found, -, h⟩
    · exact origin_of_fetch hfetch
    rcases Traced.bind_eq_error.mp h with hstored | ⟨stored, -, h⟩
    · exact origin_of_sourceText hstored
    rcases Traced.bind_eq_error.mp h with hinside | ⟨program, hprogram, hexecute⟩
    · exact hcompile stored hlt hinside
    · exact .relayed (.run hprogram hexecute)
  · rw [fetchText_of_limit_le hle] at h
    cases h
    exact .worded (Error.worded_tooDeep _ _ _)

theorem origin_of_compile_of_includes (h : (env.compile context data source).result = .error e)
    (hincludes : ∀ name stored, context.depth < context.limit →
      (env.compile (context.child name) data stored).result = .error e → env.Origin data e) :
    env.Origin data e := by
  rw [compile, compileWithin_eq, Traced.result_bind, Traced.result_of] at h
  rcases Traced.bind_eq_error.mp h with hread | ⟨tokens, hread, h⟩
  · obtain ⟨keyword, -, rfl⟩ := Token.firstMisspelt_of_ofLines hread
    exact .codeless rfl
  have hwords : ∀ t ∈ tokens, ∀ word, t.content = .closing word → initial ∉ word :=
    fun t ht word => Token.initial_not_mem_of_closing hread ht
  rcases Compilation.exists_detail_of_compile hwords h with ⟨r, rfl, hdetail⟩ | ⟨name, hfetch⟩
  · exact .worded (Error.worded_mismatched hdetail)
  · exact origin_of_fetchText hfetch (hincludes name)

/-- What compiling fails with has an origin.  The induction is on the room for includes. -/
theorem origin_of_compile (h : (env.compile context data source).result = .error e) :
    env.Origin data e := by
  generalize hroom : context.room = room
  induction room generalizing context source with
  | zero =>
      refine origin_of_compile_of_includes h fun name stored hlt _ => ?_
      cases (Context.room_child hlt name).symm.trans hroom
  | succ room ih =>
      refine origin_of_compile_of_includes h fun name stored hlt hinside => ?_
      rw [Context.room_child hlt name, Nat.add_right_cancel_iff] at hroom
      exact ih hinside hroom

theorem origin_of_template {r : Request} (h : (env.template r).result = .error e) :
    env.Origin r.data e := by
  simp only [template, Traced.result_bind, Traced.result_of] at h
  rcases Traced.bind_eq_error.mp h with htext | ⟨found, -, h⟩
  · unfold textFor at htext
    split at htext
    · cases htext
    · rcases Traced.bind_eq_error.mp (Traced.result_bind _ _ ▸ htext) with hfetch | ⟨_, -, hfail⟩
      · exact origin_of_fetch hfetch
      · cases hfail
    · cases htext
      refine .worded (Error.worded_missing fun message location h => ?_)
      cases h
  rcases Traced.bind_eq_error.mp h with hstored | ⟨stored, -, h⟩
  · exact origin_of_sourceText hstored
  rcases Traced.bind_eq_error.mp h with hcompile | ⟨_, -, hfail⟩
  · exact origin_of_compile hcompile
  · cases hfail

theorem Raises.origin (h : env.Raises data e) : env.Origin data e := by
  cases h with
  | compile h => exact origin_of_compile h
  | template hdata h => exact hdata ▸ origin_of_template h
  | fetch h => exact origin_of_fetch h
  | loader hloader h => exact .relayed (.loader hloader h)

/-- **When an error leads with its code.**  Every error that something fails with ends with its
message in its compact form.  An error with a code leads with it unless a text that it carries has
the code in it, and then it has nothing before its message.  If the environment does not relay the
error, that text is from outside: no wording, and nothing that is said of a block tag. -/
theorem compact_leads_iff (h : env.Raises data e) (hcode : e.code? = some code) :
    e.message <:+ e.compact ∧
    ((e.compact = code.text ++ ": " ++ e.message ∧ ∀ t ∈ e.carried, ¬ code.text <:+: t) ∨
      (e.compact = e.message ∧ ∃ t ∈ e.carried, code.text <:+: t)) ∧
    (env.Relays data e ∨
      (code.text ++ (": " : Text) <+: e.compact ↔ ∀ t ∈ e.outside, ¬ code.text <:+: t)) := by
  refine ⟨e.message_suffix_compact, Error.compact_cases hcode, ?_⟩
  cases h.origin with
  | codeless hnone => cases hnone.symm.trans hcode
  | worded hworded => exact .inr (hworded.leads_iff hcode)
  | relayed hrelays => exact .inl hrelays

end

attribute [local instance] Traits.bare

set_option maxRecDepth 20000 in
/-- A stray closing tag, in a line that has the code of another error in it. -/
theorem compact_leads_beside_other_code :
    let env : Environment := .make none true false 50 .standard
    let source : Text := "H-PAR-001</tmpl_loop>"
    let code : ErrorCode := .unexpectedClose
    let e : Error := .mismatched
      ⟨"</tmpl_loop> without an open block", some 1, some "page", some source, some 9, code⟩
    env.Raises .null e ∧ e.code? = some code ∧ e.message <:+ e.compact ∧
      code.text ++ (": " : Text) <+: e.compact := by
  intro env source code e
  have hresult : (env.compile (env.context (some "page")) .null source).result = .error e := by
    decide +kernel +zetaReduce +revert
  have houtside : ∀ t ∈ e.outside, ¬ code.text <:+: t := by decide +kernel +zetaReduce +revert
  have hraises : env.Raises .null e := .compile hresult
  have hcode : e.code? = some code := rfl
  obtain ⟨hends, -, hrelays | hleads⟩ := compact_leads_iff hraises hcode
  · -- there is no loader, and nothing relays a mismatch when it is run with null
    refine absurd hrelays fun hrelays => ?_
    cases hrelays with
    | loader hloader _ => cases hloader
    | run hp hexecute =>
        have hlenient := lenient_execute Traits.plain_bare hp .null
        rcases hlenient with ⟨text, htext, -⟩ | ⟨key, -, -, -, hlong⟩
        · cases htext.symm.trans hexecute
        · have hnone : e.code? = none := Except.error.inj (hlong.symm.trans hexecute) ▸ rfl
          cases hnone
  · exact ⟨hraises, hcode, hends, hleads.mpr houtside⟩

/-- A stray closing tag, in a line that has the code of its error in it: the code does not lead. -/
theorem compact_without_code :
    let env : Environment := .make none true false 50 .standard
    let source : Text := "H-PAR-003</tmpl_if>"
    let code : ErrorCode := .unexpectedClose
    let e : Error := .mismatched
      ⟨"</tmpl_if> without an open block", some 1, none, some source, some 9, code⟩
    (env.compile (env.context none) .null source).result = .error e ∧ e.code? = some code ∧
      e.compact = e.message ∧ ¬ code.text ++ (": " : Text) <+: e.compact := by
  decide +kernel

end Environment

end TagTemplate
