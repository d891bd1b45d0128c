/-
# Names — what a program refers to is what its template names

Variables and the openers of blocks refer to something, by the path that their name is
split into.  In a program these paths are, in order, those of the names in its tokens:

    output, opening      one path more
    text, else, close    none; linking an operation leaves its path as it is
    inclusion            none, because the other template is put in as text

So nothing is referred to that is not written in the source, and a segment of a path is
made of what names are made of.  Of the digits these are the ten of ASCII.
-/
import TagTemplate.Proofs.Compile.Settled
import TagTemplate.Proofs.Include.Basic
import TagTemplate.Proofs.Layout.Links
import TagTemplate.Proofs.Token.Tiling
import TagTemplate.Proofs.Value.Plain

namespace TagTemplate

/-! ## References -/

/-- The path of what the operation refers to. -/
def Action.path? (a : Action) : Option (List Text) := a.ref?.map (·.path)

def Op.paths (ops : List Op) : List (List Text) := ops.filterMap (·.action.path?)

def Program.paths (p : Program) : List (List Text) := Op.paths p.ops.toList

/-- The name that the token refers to something by. -/
def Token.reference? (t : Token) : Option Text :=
  match t.content with
  | .output name | .opening _ name => some name
  | _ => none

theorem Action.path?_link (elseIndex : Option Int) (endIndex : Int) (a : Action) :
    (a.link elseIndex endIndex).path? = a.path? := by
  cases a <;> rfl

theorem Action.path?_opener (kind : BlockKind) (ref : Ref) (slot : Int) :
    (Action.opener kind ref slot).path? = some ref.path := by
  cases kind <;> rfl

@[simp] theorem Op.paths_nil : paths [] = [] := rfl

@[simp] theorem Op.paths_append (ops ops' : List Op) :
    paths (ops ++ ops') = paths ops ++ paths ops' :=
  List.filterMap_append

@[simp] theorem Op.paths_cons (op : Op) (ops : List Op) :
    paths (op :: ops) = op.action.path?.toList ++ paths ops := by
  rw [paths, List.filterMap_cons]
  cases op.action.path? <;> rfl

namespace Draft

variable (d : Draft)

def paths : List (List Text) := Op.paths d.ops.toList

theorem paths_push (ops : Array Op) (op : Op) :
    Op.paths (ops.push op).toList = Op.paths ops.toList ++ op.action.path?.toList := by
  rw [Array.toList_push, Op.paths_append, Op.paths_cons]
  exact congrArg _ (List.append_nil _)

theorem paths_emit (position : Position) (action : Action) :
    (d.emit position action).paths = d.paths ++ action.path?.toList := paths_push _ _

theorem paths_appendText (position : Position) (value : Text) :
    (d.appendText position value).paths = d.paths := by
  unfold appendText
  split
  · rfl
  · split
    · next start before hback =>
        -- the last operation is a text before and after
        obtain ⟨ops, hops⟩ : ∃ ops : Array Op, d.ops = ops.push ⟨start, .text before⟩ :=
          Array.back?_eq_some_iff.mp hback
        simp only [paths, hops, Array.pop_push, paths_push]
        rfl
    · rw [paths_emit]
      exact List.append_nil _

theorem paths_openBlock (position : Position) (kind : BlockKind) (name : Text) :
    (d.openBlock position kind name).paths = d.paths ++ [splitPath name] := by
  refine (paths_push _ _).trans ?_
  rw [Action.path?_opener]
  rfl

theorem paths_openElse (position : Position) : (d.openElse position).paths = d.paths := by
  unfold openElse
  split
  · rfl
  · exact (paths_emit ..).trans (List.append_nil _)

theorem paths_linkAt (index : Nat) (elseIndex : Option Nat) (endIndex : Nat) (ops : Array Op) :
    Op.paths (linkAt index elseIndex endIndex ops).toList = Op.paths ops.toList := by
  have hpaths := congrArg (List.filterMap id)
    (map_linkAt Action.path?_link index elseIndex endIndex ops)
  rwa [List.filterMap_map, List.filterMap_map] at hpaths

theorem paths_closeBlock (position : Position) : (d.closeBlock position).paths = d.paths := by
  unfold closeBlock
  split
  · rfl
  · next block blocks _ =>
      have hpush : ∀ action : Action, action.path? = none →
          Op.paths (d.ops.push ⟨position, action⟩).toList = d.paths := by
        intro action hnone
        rw [paths_push, hnone]
        exact List.append_nil _
      simp only [paths]
      split
      · rw [paths_linkAt, paths_linkAt]
        exact hpush _ rfl
      · rw [paths_linkAt]
        exact hpush _ rfl

end Draft

namespace Compilation

variable {c : Compilation} {d d' : Draft}

theorem paths_of_apply {t : Token} (h : (c.apply d t).result = .ok d') :
    d'.paths = d.paths ++ (t.reference?.map splitPath).toList := by
  unfold apply at h
  unfold Token.reference?
  cases ht : t.content with
  | text value =>
      rw [ht] at h
      cases h
      rw [Draft.paths_appendText]
      exact (List.append_nil _).symm
  | output name =>
      rw [ht] at h
      cases h
      exact Draft.paths_emit ..
  | opening kind name =>
      rw [ht] at h
      cases h
      exact Draft.paths_openBlock ..
  | otherwise =>
      rw [ht] at h
      cases h
      refine Eq.trans ?_ (List.append_nil _).symm
      split
      · rfl
      · exact Draft.paths_openElse ..
  | closing word =>
      rw [ht] at h
      cases h
      rw [Draft.paths_closeBlock]
      exact (List.append_nil _).symm
  | inclusion name =>
      rw [ht] at h
      obtain ⟨text, -, h⟩ := Traced.result_bind_eq_ok.mp h
      cases h
      rw [Draft.paths_appendText]
      exact (List.append_nil _).symm

/-- The paths of what tokens refer to. -/
def pathsOf (tokens : List Token) : List (List Text) :=
  tokens.filterMap fun t => t.reference?.map splitPath

theorem paths_of_steps {tokens : List Token} (h : (c.steps d tokens).result = .ok d') :
    d'.paths = d.paths ++ pathsOf tokens := by
  induction tokens generalizing d with
  | nil =>
      cases h
      exact (List.append_nil _).symm
  | cons t tokens ih =>
      obtain ⟨d₁, h₁, h⟩ := Traced.result_bind_eq_ok.mp h
      rw [ih h, paths_of_apply (result_apply_of_step h₁), pathsOf, pathsOf, List.filterMap_cons,
        List.append_assoc]
      cases t.reference? <;> rfl

theorem paths_of_closeAll {blocks : List OpenBlock} (h : (c.closeAll d blocks).result = .ok d') :
    d'.paths = d.paths := by
  induction blocks generalizing d with
  | nil =>
      cases h
      rfl
  | cons block blocks ih =>
      obtain ⟨-, -, h⟩ := Traced.result_bind_eq_ok.mp h
      rw [ih h, Draft.paths_closeBlock]

/-- **A program refers to what its tokens name**, in order. -/
theorem paths_of_compile {tokens : List Token} {p : Program}
    (h : (c.compile tokens).result = .ok p) : p.paths = pathsOf tokens := by
  obtain ⟨d₁, h₁, h⟩ := Traced.result_bind_eq_ok.mp h
  obtain ⟨d₂, h₂, h⟩ := Traced.result_bind_eq_ok.mp h
  cases h
  show d₂.paths = _
  rw [paths_of_closeAll h₂, paths_of_steps h₁]
  rfl

end Compilation

/-! ## Names in a source -/

theorem Token.isNamePart_of_reference? {keepNewlines : Bool} {source name : Text}
    {tokens : List Token} {t : Token} (h : ofSource keepNewlines source = .ok tokens)
    (ht : t ∈ tokens) (hname : t.reference? = some name) :
    ∀ c ∈ name, Tag.isNamePart c = true := by
  rcases exists_tag_of_mem h ht with ⟨value, hvalue⟩ | ⟨tag, lexeme, hwritten, hcarries⟩
  · rw [reference?, hvalue] at hname
    cases hname
  generalize hcontent : t.content = content at hcarries
  rw [reference?, hcontent] at hname
  cases hcarries with
  | named hmem _ =>
      cases hwritten with
      | named _ _ _ _ _ _ _ hparts =>
          simp only [Tag.openers, List.mem_cons, Prod.mk.injEq, List.not_mem_nil, or_false] at hmem
          rcases hmem with ⟨-, rfl⟩ | ⟨-, rfl⟩ | ⟨-, rfl⟩ | ⟨-, rfl⟩ | ⟨-, rfl⟩ <;> cases hname <;>
            exact hparts
  | nameless =>
      cases hname
      exact List.forall_mem_nil _
  | _ => cases hname

theorem splitPath_of_not_mem {name : Text} (hne : name ≠ []) (h : CodePoint.ofChar '.' ∉ name) :
    splitPath name = [name] := by
  rw [splitPath, Text.splitOn_of_not_mem h]
  simp [hne]

theorem splitPath_append {first : Text} (hne : first ≠ []) (h : CodePoint.ofChar '.' ∉ first)
    (name : Text) :
    splitPath (first ++ CodePoint.ofChar '.' :: name) = first :: splitPath name := by
  rw [splitPath, Text.splitOn_append_cons h]
  simp [hne, splitPath]

theorem mem_of_mem_splitPath {name key : Text} {c : CodePoint} (hkey : key ∈ splitPath name)
    (hc : c ∈ key) : c ∈ name :=
  Text.mem_of_mem_splitOn (List.mem_filter.mp hkey).1 hc

/-- Of the digits that are no decimal digits none is a name part. -/
theorem Text.readable_of_isNamePart {t : Text} (h : ∀ c ∈ t, Tag.isNamePart c = true) :
    t.Readable := by
  intro hdigits c hc
  simp only [isDigits, Bool.and_eq_true, List.all_eq_true] at hdigits
  have hdigit := hdigits.2 c hc
  rw [CodePoint.isDigit, Bool.or_eq_true] at hdigit
  refine hdigit.resolve_right fun hother => ?_
  have hpart := Tag.isNamePart_iff.mp (h c hc)
  rw [CodePoint.inRanges_iff] at hother
  simp only [otherDigitRanges, List.mem_cons, List.not_mem_nil, or_false, exists_eq_or_imp,
    exists_eq_left] at hother
  rcases c.fold_cases with hfold | hfold
  · rw [hfold] at hpart
    omega
  · omega

variable [Traits]

/-- Every segment that a compiled template looks up is readable. -/
theorem Environment.readable_of_compile {env : Environment} {context : Context} {data : Value}
    {source : Text} {p : Program} (h : (env.compile context data source).result = .ok p) :
    ∀ path ∈ p.paths, ∀ key ∈ path, Text.Readable key := by
  rw [compile, compileWithin_eq] at h
  obtain ⟨tokens, htokens, hp⟩ := Traced.result_bind_eq_ok.mp h
  intro path hpath key hkey
  rw [Compilation.paths_of_compile hp] at hpath
  obtain ⟨t, ht, hsplit⟩ := List.mem_filterMap.mp hpath
  obtain ⟨name, hname, rfl⟩ := Option.map_eq_some_iff.mp hsplit
  have hparts := Token.isNamePart_of_reference? htokens ht hname
  exact Text.readable_of_isNamePart fun c hc => hparts c (mem_of_mem_splitPath hkey hc)

end TagTemplate
