/-
# Rendering plain data

What a body puts out for plain data is a text, or the body has a segment of too many
digits and fails at it.  The induction is over the body, with any plain item:

    text             is put out
    output           a path into the item, the text of what it leads to, its escape
    branch, choice   a path, a test, one of two bodies
    loop             a path, and the body for each item, which is plain again

Each of these is a sequence of steps that are lenient (`Lenient.bind`).  A program is
the code of a body, and refers to what the body names, so this holds of programs.
-/
import TagTemplate.Proofs.Compile.Names
import TagTemplate.Proofs.Meaning.Correct

namespace TagTemplate

/-- Nothing is asked of what comes out. -/
abbrev Lenient.Any {α : Type} : α → Prop := fun _ => True

open Lenient

/-! ## Lists and bodies -/

theorem Lenient.append {keys : List Text} {a b : Outcome} (ha : Lenient keys a Any)
    (hb : Lenient keys b Any) : Lenient keys (a.append b) Any :=
  ha.bind fun _ _ => hb.bind fun _ _ => .of_ok trivial

theorem Lenient.each {keys : List Text} {f : Value → Outcome} {items : List Value}
    (h : ∀ v ∈ items, Lenient keys (f v) Any) :
    Lenient keys (Sequence.each f items) Any := by
  induction items with
  | nil => exact .of_ok trivial
  | cons v items ih =>
      obtain ⟨hv, hitems⟩ := List.forall_mem_cons.mp h
      exact hv.append (ih hitems)

namespace Body

/-- The segments of what a body refers to, in order. -/
def segments : Body → List Text
  | empty => []
  | text before _ _ => before.segments
  | output before _ name _ => before.segments ++ splitPath name
  | branch before _ _ name body _ | loop before _ name body _ =>
    before.segments ++ (splitPath name ++ body.segments)
  | choice before _ _ name body _ other _ =>
    before.segments ++ (splitPath name ++ (body.segments ++ other.segments))

theorem flatten_paths_code (b : Body) (start : Nat) (scope : Scope) :
    (Op.paths (b.code start scope)).flatten = b.segments := by
  induction b generalizing start scope with
  | empty => rfl
  | text before place value ih => simp [code, segments, ih, Action.path?, Action.ref?]
  | output before place name escape ih =>
      simp [code, segments, ih, Action.path?, Action.ref?, Scope.resolve]
  | branch before place negated name body close ih₁ ih₂ =>
      simp [code, segments, ih₁, ih₂, Action.path?, Action.ref?, Scope.resolve]
  | choice before place negated name body turn other close ih₁ ih₂ ih₃ =>
      simp [code, segments, ih₁, ih₂, ih₃, Action.path?, Action.ref?, Scope.resolve]
  | loop before place name body close ih₁ ih₂ =>
      simp [code, segments, ih₁, ih₂, Action.path?, Action.ref?, Scope.resolve]

end Body

section

variable [Traits]

section
-- the segments that may be met
variable {keys : List Text} (htraits : Traits.Plain) (hkeys : ∀ key ∈ keys, Text.Readable key)
include htraits hkeys

/-! ## Steps of a body -/

namespace Value

variable {item : Value} {name : Text}

theorem Plain.lenient_name (h : item.Plain) (hname : splitPath name ⊆ keys) :
    Lenient keys (item.lookupPath (splitPath name)) Plain :=
  (h.lenient_lookupPath htraits fun key hkey => hkeys key (hname hkey)).mono hname

theorem Plain.lenient_shown (h : item.Plain) (hname : splitPath name ⊆ keys)
    (escape : EscapeMode) : Lenient keys (item.shown .standard name escape) Any := by
  refine (h.lenient_name htraits hkeys hname).bind fun value hvalue => ?_
  obtain ⟨t, ht, hscalar⟩ := hvalue.writes_toText
  obtain ⟨escaped, hescaped⟩ := hscalar.exists_apply escape
  rw [ht, Traced.ok_bind, hescaped]
  exact .of_ok trivial

theorem Plain.lenient_guards (h : item.Plain) (hname : splitPath name ⊆ keys)
    (negated : Bool) : Lenient keys (item.guards negated name) Any := by
  refine (h.lenient_name htraits hkeys hname).bind fun value hvalue => ?_
  cases negated with
  | true =>
      obtain ⟨b, hb⟩ := hvalue.exists_isTruthy
      rw [if_pos rfl, hb]
      exact .of_ok trivial
  | false =>
      obtain ⟨b, hb⟩ := hvalue.exists_passesIf
      rw [if_neg Bool.false_ne_true, hb]
      exact .of_ok trivial

theorem Plain.lenient_sequenceAt (h : item.Plain) (hname : splitPath name ⊆ keys) :
    Lenient keys (item.sequenceAt name) fun items =>
      items.length ≤ Sequence.maxLength ∧ ∀ v ∈ items.values, v.Plain := by
  refine (h.lenient_name htraits hkeys hname).bind fun value hvalue => ?_
  cases hitems : value.sequence? with
  | some items => exact .of_ok (hvalue.of_sequence? hitems)
  | none => exact .of_ok ⟨Nat.zero_le _, nofun⟩

end Value

namespace Body

/-- **A body puts out a text for plain data**, unless it meets a segment of too many digits. -/
theorem lenient_meaning (b : Body) (hb : b.segments ⊆ keys) {item : Value} (h : item.Plain) :
    Lenient keys (b.meaning .standard item) Any := by
  unfold meaning
  induction b generalizing item with
  | empty => exact .of_ok trivial
  | text before place value ih => exact (ih hb h).append (.of_ok trivial)
  | output before place name escape ih =>
      obtain ⟨hbefore, hname⟩ := List.append_subset.mp hb
      exact (ih hbefore h).append (h.lenient_shown htraits hkeys hname escape)
  | branch before place negated name body close ih₁ ih₂ =>
      obtain ⟨hbefore, hrest⟩ := List.append_subset.mp hb
      obtain ⟨hname, hbody⟩ := List.append_subset.mp hrest
      refine (ih₁ hbefore h).append <|
        (h.lenient_guards htraits hkeys hname negated).bind fun passes _ => ?_
      split
      · exact ih₂ hbody h
      · exact .of_ok trivial
  | choice before place negated name body turn other close ih₁ ih₂ ih₃ =>
      obtain ⟨hbefore, hrest⟩ := List.append_subset.mp hb
      obtain ⟨hname, hbodies⟩ := List.append_subset.mp hrest
      obtain ⟨hbody, hother⟩ := List.append_subset.mp hbodies
      refine (ih₁ hbefore h).append <|
        (h.lenient_guards htraits hkeys hname negated).bind fun passes _ => ?_
      split
      · exact ih₂ hbody h
      · exact ih₃ hother h
  | loop before place name body close ih₁ ih₂ =>
      obtain ⟨hbefore, hrest⟩ := List.append_subset.mp hb
      obtain ⟨hname, hbody⟩ := List.append_subset.mp hrest
      refine (ih₁ hbefore h).append <|
        (h.lenient_sequenceAt htraits hkeys hname).bind fun items hitems => ?_
      rw [Sequence.concatCounted_eq_concat hitems.1]
      exact .each fun v hv => ih₂ hbody (hitems.2 v hv)

end Body

end

/-! ## What is undefined -/

namespace Machine.Setup

/-- What is undefined puts out nothing, fails a guard and has no items. -/
structure Vanishes (m : Setup) (s : State) (ref : Ref) : Prop where
  output : ∀ escape, m.perform s (.output ref escape) = .ok (s.put []).advance
  branch : ∀ negated elseIndex endIndex, m.perform s (.branch negated ref elseIndex endIndex) =
    .ok (if negated then s.advance else s.goto (elseIndex.getD endIndex + 1))
  loop : ∀ slot endIndex, m.perform s (.loop ref slot endIndex) = .ok (s.goto (endIndex + 1))

theorem vanishes_of_undefined {m : Setup} {s : State} {ref : Ref} (hm : m.escapers = .standard)
    (h : m.resolve s ref = .ok .undefined) : m.Vanishes s ref where
  output escape := by
    rw [perform, Setup.output, h, hm]
    cases escape <;> rfl
  branch negated elseIndex endIndex := by
    rw [perform, passes, h]
    cases negated <;> rfl
  loop slot endIndex := by
    rw [perform, startLoop, h]
    rfl

end Machine.Setup

namespace Environment

open Machine

/-! ## Templates of one variable -/

theorem compile_variable {name : Text} (hne : name ≠ [])
    (hname : ∀ c ∈ name, Tag.isNamePart c = true) (env : Environment) (context : Context)
    (given : Value) :
    (env.compile context given (("<tmpl_var " : Text) ++ (name ++ (">" : Text)))).result =
      .ok ⟨#[⟨⟨1, 0⟩, .output ⟨[], splitPath name⟩ .plain⟩], context.name⟩ := by
  have hgap : Text.IsBlank " " := by
    show ∀ c ∈ (" " : Text), c.isBlank = true
    decide
  have hwritten : (Tag.named "var" name none).WrittenAs
      (("<tmpl_var " : Text) ++ (name ++ (">" : Text))) :=
    @Tag.WrittenAs.named "<tmpl_" "var" " " [] [] name [] [] [] [] ">" none rfl
      ⟨"var", by decide, rfl⟩ (by decide) hgap (.inl rfl) (.inl rfl) hne hname (.inl rfl) nofun
      .absent nofun rfl
  have hclean : ∀ c : CodePoint, c.isBlank = true → c ∉ ("<tmpl_var " : Text) →
      c ∉ (">" : Text) → c ∉ ("<tmpl_var " : Text) ++ (name ++ (">" : Text)) := by
    intro c hblank hfront hback hc
    rw [List.mem_append, List.mem_append] at hc
    rcases hc with hc | hc | hc
    · exact hfront hc
    · cases hblank.symm.trans (Tag.of_isNamePart (hname c hc)).1
    · exact hback hc
  have htokens : Token.ofSource env.readsNewlines
      (("<tmpl_var " : Text) ++ (name ++ (">" : Text))) = .ok [⟨.output name, ⟨1, 0⟩, .plain⟩] :=
    Token.ofSource_of_writtenAs hwritten (hclean _ (by decide) (by decide) (by decide))
      (hclean _ (by decide) (by decide) (by decide)) rfl
  rw [compile, compileWithin_eq, htokens]
  rfl

theorem execute_variable (name : Text) (title : Option Text) (data : Value)
    (escapers : EscapeTable) :
    Program.execute ⟨#[⟨⟨1, 0⟩, .output ⟨[], splitPath name⟩ .plain⟩], title⟩ data escapers =
      data.shown escapers name .plain := by
  have hbody : [Op.mk ⟨1, 0⟩ (.output ⟨[], splitPath name⟩ .plain)] =
      (Body.output .empty ⟨1, 0⟩ name .plain).code 0 .root := rfl
  rw [Program.execute_eq_meaning hbody]
  exact Outcome.nil_append _

/-! ## Compiled templates -/

variable {env : Environment} {context : Context} {given data : Value} {source : Text} {p : Program}

theorem lenient_execute (htraits : Traits.Plain)
    (h : (env.compile context given source).result = .ok p) (hdata : data.Plain) :
    Lenient p.paths.flatten (p.execute data .standard) Any := by
  have hkeys : ∀ key ∈ p.paths.flatten, Text.Readable key := by
    intro key hkey
    obtain ⟨path, hpath, hkey⟩ := List.mem_flatten.mp hkey
    exact readable_of_compile h path hpath key hkey
  rw [compile, compileWithin_eq] at h
  obtain ⟨tokens, -, hp⟩ := Traced.result_bind_eq_ok.mp h
  obtain ⟨body, hbody⟩ := Compilation.exists_body_of_compile hp
  have hsegments : body.segments = p.paths.flatten := by
    rw [Program.paths, hbody, body.flatten_paths_code]
  rw [Program.execute_eq_meaning hbody]
  exact body.lenient_meaning htraits hkeys (hsegments ▸ List.Subset.refl _) hdata

/-- **Plain data renders, but for segments of too many digits.**  A template that compiles puts
out a text for plain data, or fails at a segment of digits that it refers to, of which there are
more than an index is read from.  What it refers to is found in plain data segment by segment,
and where a segment names nothing the reference is undefined: empty text, a guard that is false,
a loop without items. -/
theorem execute_plain (htraits : Traits.Plain)
    (h : (env.compile context given source).result = .ok p) (hdata : data.Plain) :
    ((∃ text, p.execute data .standard = .ok text) ∨
      ∃ path ∈ p.paths, ∃ key ∈ path, key.isDigits = true ∧ maxDigits < key.length ∧
        p.execute data .standard = .error (.numeralTooLong key.length)) ∧
    (∀ path ∈ p.paths, path ≠ [] → ∀ v : Value, v.Plain → v.Followed path (v.lookupPath path)) ∧
    ∀ (s : State) (ref : Ref), (Setup.mk p data .standard).resolve s ref = .ok .undefined →
      (Setup.mk p data .standard).Vanishes s ref := by
  refine ⟨?_, fun path hpath hne v hv => ?_, fun s ref => Setup.vanishes_of_undefined rfl⟩
  · rcases lenient_execute htraits h hdata with ⟨text, htext, -⟩ | ⟨key, hkey, hdigits, hlong, he⟩
    · exact .inl ⟨text, htext⟩
    · obtain ⟨path, hpath, hkey⟩ := List.mem_flatten.mp hkey
      exact .inr ⟨path, hpath, key, hkey, hdigits, hlong, he⟩
  · obtain ⟨key, rest, rfl⟩ := List.exists_cons_of_ne_nil hne
    exact hv.followed htraits (readable_of_compile h _ hpath)

end Environment

end

/-- Texts have one attribute by their type, which is the type, and no other value has any. -/
abbrev Traits.classOfTexts : Traits where
  trait? v name := match v with
    | .text _ => if name = "__class__" then some (.native "type" "<class 'str'>" []) else none
    | _ => none
  width := 0
  spread_trait? h := by
    split at h
    · split at h <;> cases h
      exact Nat.zero_le _
    · cases h

namespace Environment

section

attribute [local instance] Traits.classOfTexts

/-- Rows in a loop: one with what the template refers to, a type among it, and one without. -/
theorem execute_plain_rows :
    let env : Environment := .make none false false 10 .empty
    let source : Text :=
      "<tmpl_loop rows><tmpl_var a.0.__class__><tmpl_unless b.x>-</tmpl_unless></tmpl_loop>"
    let row : Frame := ⟨["rows"], 1⟩
    let p : Program :=
      ⟨#[⟨⟨1, 0⟩, .loop ⟨[], ["rows"]⟩ 1 5⟩,
        ⟨⟨1, 16⟩, .output ⟨[row], ["a", "0", "__class__"]⟩ .plain⟩,
        ⟨⟨1, 40⟩, .branch true ⟨[row], ["b", "x"]⟩ none 4⟩, ⟨⟨1, 57⟩, .text "-"⟩,
        ⟨⟨1, 58⟩, .finish "unless" 2⟩, ⟨⟨1, 72⟩, .finish "loop" 0⟩], none⟩
    let rows : List Value := [.dict [(.text "a", .list [.text "x y"])], .null]
    let data : Value := .dict [(.text "rows", .list rows)]
    Traits.Plain ∧ (env.compile (env.context none) .null source).result = .ok p ∧ data.Plain ∧
      ∃ text, p.execute data .standard = .ok text := by
  intro env source row p rows data
  have htraits : Traits.Plain := by
    intro v w name hv hw
    cases hv with
    | text =>
        obtain ⟨-, hw⟩ := Option.ite_none_right_eq_some.mp hw
        cases hw
        exact .native (Text.isScalar_ofString _) nofun
    | _ => cases hw
  have hcompile : (env.compile (env.context none) .null source).result = .ok p := by
    decide +kernel +zetaReduce +revert
  have hrow : Value.Plain (.dict [(.text "a", .list [.text "x y"])]) :=
    @Value.Plain.dict [("a", .list [.text "x y"])] <| List.forall_mem_singleton.mpr <|
      .sequence (by decide) (List.forall_mem_singleton.mpr (.text (Text.isScalar_ofString _)))
  have hrows : Value.Plain (.list rows) := .sequence (by decide) <|
    List.forall_mem_cons.mpr ⟨hrow, List.forall_mem_singleton.mpr .null⟩
  have hdata : data.Plain :=
    @Value.Plain.dict [("rows", .list rows)] (List.forall_mem_singleton.mpr hrows)
  have hshort : ∀ path ∈ p.paths, ∀ key ∈ path, ¬ maxDigits < List.length key := by decide
  refine ⟨htraits, hcompile, hdata, ?_⟩
  rcases (execute_plain htraits hcompile hdata).1 with htext | ⟨path, hpath, key, hkey, -, hlong, -⟩
  · exact htext
  · exact absurd hlong (hshort path hpath key hkey)

end

attribute [local instance] Traits.bare

/-- A segment of one digit too many is no undefined item of a list, but an error. -/
theorem execute_overlong_index :
    let env : Environment := .make none false false 10 .empty
    let digits := Text.replicate 4301 '1'
    let source : Text := ("<tmpl_var a." : Text) ++ (digits ++ (">" : Text))
    let p : Program := ⟨#[⟨⟨1, 0⟩, .output ⟨[], ["a", digits]⟩ .plain⟩], none⟩
    let data : Value := .dict [(.text "a", .list [.text "x"])]
    (env.compile (env.context none) .null source).result = .ok p ∧ data.Plain ∧
      p.execute data .standard = .error (.numeralTooLong 4301) := by
  intro env digits source p data
  have hones : ∀ c ∈ digits, c = CodePoint.ofChar '1' := fun c => List.eq_of_mem_replicate
  have hlength : digits.length = 4301 := List.length_replicate
  -- what the digits are is not computed with
  clear_value digits
  have hlist : Value.Plain (.list [.text "x"]) := .sequence (by decide) <|
    List.forall_mem_singleton.mpr (.text (Text.isScalar_ofString _))
  have hdata : data.Plain :=
    @Value.Plain.dict [("a", .list [.text "x"])] (List.forall_mem_singleton.mpr hlist)
  have hne : digits ≠ [] := List.ne_nil_of_length_pos (by omega)
  have hdecimal : ∀ c ∈ digits, c.decimalValue?.isSome = true := by
    intro c hc
    rw [hones c hc]
    decide
  have hdot : CodePoint.ofChar '.' ∉ digits := fun hmem => by cases hones _ hmem
  have hsplit : splitPath (("a." : Text) ++ digits) = [("a" : Text), digits] := by
    have hfirst : ("a" : Text) ≠ [] ∧ CodePoint.ofChar '.' ∉ ("a" : Text) := by decide
    rw [← splitPath_of_not_mem hne hdot]
    exact splitPath_append hfirst.1 hfirst.2 digits
  have hname : ∀ c ∈ ("a." : Text) ++ digits, Tag.isNamePart c = true := by
    have hfront : ∀ c ∈ ("a." : Text), Tag.isNamePart c = true := by decide
    intro c hc
    rcases List.mem_append.mp hc with hc | hc
    · exact hfront c hc
    · rw [hones c hc]
      decide
  have hcompile := compile_variable (List.append_ne_nil_of_right_ne_nil ("a." : Text) hne) hname env
    (env.context none) .null
  have hlookup : (Value.list [.text "x"]).lookup digits = .error (.numeralTooLong 4301) := by
    rw [← hlength]
    refine (hlist.found fun _ => hdecimal).eq_of_overlong ⟨rfl, ?_, by rw [hlength]; decide⟩
    exact Text.isDigits_of_forall hne hdecimal
  have hexecute := execute_variable (("a." : Text) ++ digits) none data .standard
  rw [Value.shown, hsplit] at hexecute
  rw [hsplit] at hcompile
  refine ⟨hcompile, hdata, hexecute.trans ?_⟩
  show ((Value.list [.text "x"]).lookup digits >>= _) >>= _ = _
  rw [hlookup]
  rfl

end Environment

end TagTemplate
