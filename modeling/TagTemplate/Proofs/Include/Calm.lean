/-
# Calm — who can raise a mismatch

A mismatch is the error of a block tag that does not fit.  The compiler makes it in
strict mode only; but attributes of the data and escapers are code of their own, and
nothing keeps them from raising one too.  What a tolerant compilation can fail with
is

    a keyword of no kind            reading its source
    an include without text,        fetching
    or too deep
    what the data raises            looking names up
    a number too long               writing a value
    a sequence too long             counting it
    what an escaper raises          escaping

and so, if neither data nor escapers raise a mismatch, neither does it
(`calm_compile`).
-/
import TagTemplate.Proofs.Include.Basic
import TagTemplate.Proofs.Meaning.Correct

namespace TagTemplate

variable {α β : Type}

def Error.isMismatch : Error → Bool
  | mismatched _ => true
  | _ => false

/-- The result is no mismatch. -/
def Calm (r : Except Error α) : Prop := ∀ e, r = .error e → e.isMismatch = false

theorem calm_ok (a : α) : Calm (.ok a : Except Error α) := fun e h => by cases h

theorem calm_error {e : Error} (h : e.isMismatch = false) : Calm (.error e : Except Error α) := by
  rintro e' ⟨⟩
  exact h

theorem Calm.bind {r : Except Error α} {f : α → Except Error β} (h : Calm r)
    (hf : ∀ a, r = .ok a → Calm (f a)) : Calm (r >>= f) := by
  intro e he
  rcases Traced.bind_eq_error.mp he with he | ⟨a, ha, he⟩
  · exact h e he
  · exact hf a ha e he

theorem calm_ite {p : Prop} [Decidable p] {r r' : Except Error α} (h : Calm r) (h' : Calm r') :
    Calm (if p then r else r') := by
  split
  · exact h
  · exact h'

/-! ## Values -/

namespace Value

theorem calm_size (s : Sequence) : Calm s.size := calm_ite (calm_ok _) (calm_error rfl)

theorem calm_itemOf (s : Sequence) (key : Text) : Calm (itemOf s key) := by
  refine Calm.bind (calm_ite (calm_error rfl) ?_) fun _ _ => ?_
  · cases key.numeral? with
    | none => exact calm_error rfl
    | some n => exact calm_ok n
  · exact (calm_size s).bind fun _ _ => calm_ite (calm_ok _) (calm_ok _)

section

variable [Traits]

/-- What can be come by from a value. -/
inductive Within (v : Value) : Value → Prop
  | self : v.Within v
  | nothing : v.Within .undefined
  | found {w w' : Value} {key : Text} : v.Within w → w.lookup key = .ok w' → v.Within w'
  | item {w w' : Value} {items : Sequence} :
      v.Within w → w.sequence? = some items → w' ∈ items.values → v.Within w'

/-- No attribute of what can be come by from a value raises a mismatch. -/
protected def Calm (v : Value) : Prop :=
  ∀ (w : Value) (name : Text) (r : SyntaxReport), v.Within w → w ≠ .raising name (.mismatched r)

theorem Within.trans {u v w : Value} (h : u.Within v) (h' : v.Within w) : u.Within w := by
  induction h' with
  | self => exact h
  | nothing => exact .nothing
  | found _ hlookup ih => exact .found ih hlookup
  | item _ hitems hmem ih => exact .item ih hitems hmem

theorem calm_null : null.Calm := by
  have hwithin : ∀ w, null.Within w → w = null ∨ w = undefined := by
    intro w hw
    induction hw with
    | self => exact .inl rfl
    | nothing => exact .inr rfl
    | found _ h ih => rcases ih with rfl | rfl <;> cases h <;> exact .inr rfl
    | item _ hitems _ ih => rcases ih with rfl | rfl <;> cases hitems
  rintro w name r hw rfl
  rcases hwithin _ hw with h | h <;> cases h

variable {v w : Value} {path : List Text}

theorem Calm.within (h : v.Calm) (hw : v.Within w) : w.Calm :=
  fun u name r hu => h u name r (hw.trans hu)

theorem Calm.ownAttribute (h : v.Calm) (name : Text) : Calm (v.ownAttribute name) := by
  unfold Value.ownAttribute
  split
  · exact calm_ok _
  · next name' failure =>
      refine calm_ite (calm_ok _) ?_
      split
      · exact calm_ok _
      · cases failure with
        | mismatched r => exact absurd rfl (h _ name' r .self)
        | _ => exact calm_error rfl
  · exact calm_ok _

theorem Calm.attributeOf (h : v.Calm) (name : Text) : Calm (v.attributeOf name) := by
  unfold Value.attributeOf
  split
  · exact calm_ok _
  · exact h.ownAttribute name

theorem Calm.lookup (h : v.Calm) (key : Text) : Calm (v.lookup key) := by
  unfold Value.lookup
  split
  · exact calm_ok _
  · exact calm_ok _
  · exact calm_ok _
  · exact calm_ok _
  · split
    · exact calm_ite (calm_itemOf _ key) (h.attributeOf key)
    · exact h.attributeOf key

theorem Calm.follow (h : v.Calm) : Calm (v.follow path) := by
  induction path generalizing v with
  | nil => exact calm_ok v
  | cons key path ih =>
      refine (h.lookup key).bind fun w hw => calm_ite (calm_ok _) ?_
      exact ih (h.within (.found .self hw))

theorem Calm.lookupPath (h : v.Calm) (path : List Text) : Calm (v.lookupPath path) := by
  cases path with
  | nil => exact calm_ok _
  | cons key path => exact h.follow

theorem within_follow (h : v.follow path = .ok w) : v.Within w := by
  induction path generalizing v with
  | nil => cases h; exact .self
  | cons key path ih =>
      obtain ⟨u, hu, h⟩ := Traced.bind_eq_ok.mp h
      split at h
      · cases h
        exact .nothing
      · exact (Within.found .self hu).trans (ih h)

theorem within_lookupPath (h : v.lookupPath path = .ok w) : v.Within w := by
  cases path with
  | nil => cases h; exact .nothing
  | cons key path => exact within_follow h

end

/-! ## Values as text and as guards -/

theorem calm_intText (n : Int) : Calm (intText n) := calm_ite (calm_error rfl) (calm_ok _)

theorem calm_intTexts (ns : List Int) : Calm (ns.mapM intText) := by
  induction ns with
  | nil => exact calm_ok _
  | cons n ns ih =>
      rw [List.mapM_cons]
      exact (calm_intText n).bind fun _ _ => ih.bind fun _ _ => calm_ok _

theorem calm_rangeLiteral (start stop step : Int) : Calm (rangeLiteral start stop step) :=
  (calm_intTexts _).bind fun _ _ => calm_ok _

mutual

theorem calm_literal : ∀ v : Value, Calm v.literal
  | null | undefined | bool _ | float _ | complex .. | decimal _ | text _ | bytes _ | byteArray _
  | set [] | raising .. | native .. => by
    unfold literal
    exact calm_ok _
  | int n => by
    unfold literal
    exact calm_intText n
  | fraction q => by
    unfold literal
    exact (calm_intText q.num).bind fun _ _ => (calm_intText q.den).bind fun _ _ => calm_ok _
  | range start stop step => by
    unfold literal
    exact calm_rangeLiteral start stop step
  | sequence kind items => by
    unfold literal
    exact (calm_literals items).bind fun _ _ => calm_ok _
  | set (v :: vs) => by
    unfold literal
    exact (calm_literals (v :: vs)).bind fun _ _ => calm_ok _
  | dict es | view es => by
    unfold literal
    exact (calm_entryLiterals es).bind fun _ _ => calm_ok _
  | object as => by
    unfold literal
    exact (calm_attributeLiterals as).bind fun _ _ => calm_ok _

theorem calm_literals : ∀ vs : List Value, Calm (literals vs)
  | [] => by
    unfold literals
    exact calm_ok _
  | v :: vs => by
    unfold literals
    exact (calm_literal v).bind fun _ _ => (calm_literals vs).bind fun _ _ => calm_ok _

theorem calm_entryLiterals : ∀ es : List (Value × Value), Calm (entryLiterals es)
  | [] => by
    unfold entryLiterals
    exact calm_ok _
  | (k, v) :: es => by
    unfold entryLiterals
    exact (calm_literal k).bind fun _ _ => (calm_literal v).bind fun _ _ =>
      (calm_entryLiterals es).bind fun _ _ => calm_ok _

theorem calm_attributeLiterals : ∀ as : List (Text × Value), Calm (attributeLiterals as)
  | [] => by
    unfold attributeLiterals
    exact calm_ok _
  | ([], v) :: as => by
    unfold attributeLiterals
    exact calm_attributeLiterals as
  | (c :: name, v) :: as => by
    unfold attributeLiterals
    exact (calm_literal v).bind fun _ _ => (calm_attributeLiterals as).bind fun _ _ => calm_ok _

end

theorem calm_standalone (v : Value) : Calm v.standalone := by
  unfold standalone
  split
  · exact calm_ok _
  · exact calm_ok _
  · next q =>
      refine calm_ite (calm_intText q.num) ?_
      exact (calm_intText q.num).bind fun _ _ => (calm_intText _).bind fun _ _ => calm_ok _
  · exact calm_literal _
  · exact calm_ok _
  · exact calm_literal _

theorem calm_toText (v : Value) : Calm v.toText := by
  unfold toText
  split
  · exact calm_ok _
  · exact calm_ok _
  · exact calm_ok _
  · exact calm_standalone _

theorem calm_isTruthy (v : Value) : Calm v.isTruthy := by
  cases v with
  | decimal d => exact calm_ite (calm_error rfl) (calm_ok _)
  | _ => exact calm_ok _

theorem calm_passesIf (v : Value) : Calm v.passesIf := by
  unfold passesIf
  split
  · exact (calm_size _).bind fun _ _ => calm_ok _
  · exact calm_isTruthy v

end Value

/-! ## Programs -/

theorem calm_append {a b : Outcome} (ha : Calm a) (hb : Calm b) : Calm (a.append b) :=
  ha.bind fun _ _ => hb.bind fun _ _ => calm_ok _

theorem calm_each {f : Value → Outcome} {vs : List Value} (h : ∀ v ∈ vs, Calm (f v)) :
    Calm (Sequence.each f vs) := by
  induction vs with
  | nil => exact calm_ok _
  | cons v vs ih =>
      exact calm_append (h v List.mem_cons_self) (ih fun w hw => h w (List.mem_cons_of_mem v hw))

theorem calm_concatCounted {f : Value → Outcome} {s : Sequence} (h : ∀ v ∈ s.values, Calm (f v)) :
    Calm (s.concatCounted f) := by
  unfold Sequence.concatCounted
  split
  · exact calm_ok _
  · next v vs hvs =>
      rw [hvs] at h
      refine calm_append (h v List.mem_cons_self) ((Value.calm_size s).bind fun _ _ => ?_)
      exact calm_each fun w hw => h w (List.mem_cons_of_mem v hw)

/-- Whatever is escaped, no escaper raises a mismatch. -/
protected def EscapeTable.Calm (t : EscapeTable) : Prop := ∀ mode text, Calm (t.apply mode text)

/-- The standard escapers refuse only texts without a UTF-8 form. -/
theorem EscapeTable.calm_standard : EscapeTable.standard.Calm := by
  intro mode text
  cases mode with
  | plain => exact calm_ok _
  | html => exact calm_ok _
  | url =>
      show Calm text.percentEncoded
      unfold Text.percentEncoded
      split
      · exact calm_error rfl
      · exact calm_ok _

section
variable [Traits] {escapers : EscapeTable} {item : Value}

theorem calm_shown (he : escapers.Calm) (hi : item.Calm) (name : Text) (escape : EscapeMode) :
    Calm (item.shown escapers name escape) :=
  (hi.lookupPath _).bind fun v _ => v.calm_toText.bind fun t _ => he escape t

theorem calm_guards (hi : item.Calm) (negated : Bool) (name : Text) :
    Calm (item.guards negated name) :=
  (hi.lookupPath _).bind fun v _ =>
    calm_ite (v.calm_isTruthy.bind fun _ _ => calm_ok _) v.calm_passesIf

theorem calm_sequenceAt (hi : item.Calm) (name : Text) : Calm (item.sequenceAt name) :=
  (hi.lookupPath _).bind fun _ _ => calm_ok _

theorem calm_of_mem_sequenceAt {name : Text} {items : Sequence} {v : Value} (hi : item.Calm)
    (h : item.sequenceAt name = .ok items) (hv : v ∈ items.values) : v.Calm := by
  obtain ⟨found, hfound, h⟩ := Traced.bind_eq_ok.mp h
  cases h
  cases hseq : found.sequence? with
  | none =>
      rw [hseq] at hv
      cases hv
  | some items =>
      rw [hseq] at hv
      exact hi.within (.item (Value.within_lookupPath hfound) hseq hv)

theorem Body.calm_meaning (b : Body) (he : escapers.Calm) (hi : item.Calm) :
    Calm (b.meaning escapers item) := by
  unfold meaning
  induction b generalizing item with
  | empty => exact calm_ok _
  | text before place value ih => exact calm_append (ih hi) (calm_ok _)
  | output before place name escape ih => exact calm_append (ih hi) (calm_shown he hi name escape)
  | branch before place negated name body close ih₁ ih₂ =>
      refine calm_append (ih₁ hi) ((calm_guards hi negated name).bind fun _ _ => ?_)
      exact calm_ite (ih₂ hi) (calm_ok _)
  | choice before place negated name body turn other close ih₁ ih₂ ih₃ =>
      refine calm_append (ih₁ hi) ((calm_guards hi negated name).bind fun _ _ => ?_)
      exact calm_ite (ih₂ hi) (ih₃ hi)
  | loop before place name body close ih₁ ih₂ =>
      refine calm_append (ih₁ hi) ((calm_sequenceAt hi name).bind fun items hitems => ?_)
      exact calm_concatCounted fun v hv => ih₂ (calm_of_mem_sequenceAt hi hitems hv)

theorem calm_execute {p : Program} {b : Body} (hp : p.ops.toList = b.code 0 .root)
    (he : escapers.Calm) (hi : item.Calm) : Calm (p.execute item escapers) := by
  rw [Program.execute_eq_meaning hp]
  exact b.calm_meaning he hi

end

/-! ## Reading and compiling -/

namespace Token

theorem calm_content (tag : Tag) : Calm tag.content := by
  unfold Tag.content
  split
  · split
    · exact calm_ok _
    · exact calm_error rfl
  · exact calm_ok _
  · exact calm_ok _
  · exact calm_ok _

theorem calm_ofPiece (position : Position) (p : Piece) : Calm (ofPiece position p) := by
  cases p with
  | literal text => exact calm_ok _
  | tag lexeme tag => exact (calm_content tag).bind fun _ _ => calm_ok _

theorem calm_ofPieces (line column : Nat) (ps : List Piece) : Calm (ofPieces line column ps) := by
  induction ps generalizing column with
  | nil => exact calm_ok _
  | cons p ps ih => exact (calm_ofPiece _ p).bind fun _ _ => (ih _).bind fun _ _ => calm_ok _

theorem calm_ofLines (keepNewlines : Bool) (number : Nat) (lines : List Text) :
    Calm (ofLines keepNewlines number lines) := by
  induction lines generalizing number with
  | nil => exact calm_ok _
  | cons line lines ih =>
      exact (calm_ofPieces number 0 _).bind fun _ _ => (ih _).bind fun _ _ => calm_ok _

theorem calm_ofSource (keepNewlines : Bool) (source : Text) :
    Calm (ofSource keepNewlines source) := calm_ofLines keepNewlines 1 _

end Token

namespace Compilation

variable {c : Compilation}

theorem calm_apply (hf : ∀ name, Calm (c.fetchText name).result) (d : Draft) (t : Token) :
    Calm (c.apply d t).result := by
  unfold apply
  cases t.content with
  | inclusion name =>
      rw [Traced.result_bind]
      exact (hf name).bind fun _ _ => calm_ok _
  | _ => exact calm_ok _

theorem result_report (hc : c.strict = false) (position : Position) (issue : Issue) :
    (c.report position issue).result = .ok () := by
  rw [report, hc]
  rfl

theorem result_reportAny (hc : c.strict = false) (position : Position) (issue? : Option Issue) :
    (c.reportAny position issue?).result = .ok () := by
  cases issue? with
  | none => rfl
  | some issue => exact result_report hc position issue

theorem calm_steps (hc : c.strict = false) (hf : ∀ name, Calm (c.fetchText name).result)
    (d : Draft) (ts : List Token) : Calm (c.steps d ts).result := by
  induction ts generalizing d with
  | nil => exact calm_ok _
  | cons t ts ih =>
      show Calm (c.step d t >>= fun d => c.steps d ts).result
      rw [Traced.result_bind, step_eq, Traced.result_bind, result_reportAny hc]
      exact (calm_apply hf d t).bind fun d _ => ih d

theorem calm_closeAll (hc : c.strict = false) (d : Draft) (blocks : List OpenBlock) :
    Calm (c.closeAll d blocks).result := by
  induction blocks generalizing d with
  | nil => exact calm_ok _
  | cons block blocks ih =>
      rw [closeAll, Traced.result_bind, result_report hc]
      exact ih _

theorem calm_compile (hc : c.strict = false) (hf : ∀ name, Calm (c.fetchText name).result)
    (tokens : List Token) : Calm (c.compile tokens).result := by
  rw [result_compile]
  exact (calm_steps hc hf .empty tokens).bind fun d _ =>
    (calm_closeAll hc d d.blocks).bind fun _ _ => calm_ok _

theorem calm_fetchText {f : IncludeRequest → Traced Text} (hf : c.includeText = some f)
    (h : ∀ request, request.data = c.data → Calm (f request).result) (name : Text) :
    Calm (c.fetchText name).result := by
  unfold fetchText
  rw [hf]
  simp only [Traced.result_bind, Traced.result_of, Traced.result_emit]
  exact (calm_ite (calm_error rfl) (calm_ok _)).bind fun _ _ => h _ rfl

end Compilation

namespace Environment

variable {env : Environment}

theorem calm_sourceText (v : Value) : Calm (sourceText v) := by
  unfold sourceText
  split
  · exact calm_ok _
  · exact calm_error rfl
  · exact calm_error rfl
  · exact calm_error rfl

theorem calm_fetch (env : Environment) (location : Text) : Calm (env.fetch location).result := by
  unfold fetch
  split
  · exact calm_error rfl
  · split
    · exact calm_error rfl
    · split
      · exact calm_error rfl
      · exact calm_ok _

variable [Traits]

theorem exists_body_of_compileWithin {room : Nat} {context : Context} {data : Value} {source : Text}
    {p : Program} (h : (env.compileWithin room context data source).result = .ok p) :
    ∃ body : Body, p.ops.toList = body.code 0 .root := by
  rw [compileWithin_eq] at h
  obtain ⟨tokens, -, h⟩ := Traced.result_bind_eq_ok.mp h
  exact Compilation.exists_body_of_compile h

theorem calm_of_includeText {room : Nat} {context : Context} {data : Value} {source : Text}
    (hs : env.strict = false)
    (h : ∀ request, request.data = data → Calm (env.includeText room request).result) :
    Calm (env.compileWithin room context data source).result := by
  rw [compileWithin_eq, Traced.result_bind]
  exact (Token.calm_ofSource _ _).bind fun tokens _ =>
    Compilation.calm_compile hs (Compilation.calm_fetchText rfl h) tokens

theorem calm_includeText (hs : env.strict = false) (he : env.escapers.Calm) (room : Nat)
    {request : IncludeRequest} (hd : request.data.Calm) :
    Calm (env.includeText room request).result := by
  induction room generalizing request with
  | zero => exact calm_error rfl
  | succ room ih =>
      unfold includeText
      simp only [Traced.result_bind, Traced.result_of]
      refine (calm_fetch env _).bind fun found _ => (calm_sourceText _).bind fun source _ => ?_
      refine (calm_of_includeText hs fun _ h => ih (h ▸ hd)).bind fun p hp => ?_
      obtain ⟨body, hb⟩ := exists_body_of_compileWithin hp
      exact calm_execute hb he hd

/-- A tolerant compilation for calm data, with calm escapers, raises no mismatch. -/
theorem calm_compile (hs : env.strict = false) (he : env.escapers.Calm) {data : Value}
    (hd : data.Calm) (context : Context) (source : Text) :
    Calm (env.compile context data source).result :=
  calm_of_includeText hs fun _ h => calm_includeText hs he _ (h ▸ hd)

end Environment

end TagTemplate
