/-
# Listings — a program is told by its listing

An operation is listed as fields with blanks between them, the first of which says what it does:

    text      quoted
    output    reference  or  mode(reference)
    if        reference  [else=index]  end=index
    unless    reference  [else=index]  end=index
    else      end=index
    loop      reference  slot=number   end=index
    end       word       start=index

No field but a quoted text has a blank in it, if what is referred to is legible, so the line can
be cut into its fields again (`splitOn_listing`), and each field tells what it is written for.
Nothing in a line is a line boundary, so a listing has a line for each operation, in order
(`boundedLines_listing`).

Both together: the listings of two programs are equal just if their operations are, up to where
they come from (`listing_eq_iff`).  Legible is every program that is compiled from a source,
whatever its includes put in, because texts are quoted.
-/
import TagTemplate.Program.Listing
import TagTemplate.Proofs.Program.References
import TagTemplate.Proofs.Text.Quoted

namespace TagTemplate

open Text

/-! ## Lines -/

namespace Text

variable {line piece : Text} {lines : List Text}

/-- Nothing blank is in the text. -/
def IsSolid (t : Text) : Prop := ∀ c ∈ t, c.isBlank = false

instance (t : Text) : Decidable t.IsSolid :=
  inferInstanceAs (Decidable (∀ c ∈ t, c.isBlank = false))

theorem IsSolid.append {t u : Text} (ht : t.IsSolid) (hu : u.IsSolid) : IsSolid (t ++ u) :=
  List.forall_mem_append.mpr ⟨ht, hu⟩

theorem IsSolid.blank_not_mem {t : Text} (h : t.IsSolid) : CodePoint.ofChar ' ' ∉ t := by
  intro hmem
  exact absurd (h _ hmem) (by decide)

theorem IsSolid.unbroken {t : Text} (h : t.IsSolid) : t.Unbroken := by
  intro c hc
  have hblank := h c hc
  rw [Bool.eq_false_iff] at hblank ⊢
  refine fun hboundary => hblank ?_
  rw [isLineBoundary, CodePoint.inRanges_iff] at hboundary
  rw [CodePoint.isBlank, CodePoint.inRanges_iff]
  simp only [blankRanges, List.mem_cons, List.not_mem_nil, or_false, exists_eq_or_imp,
    exists_eq_left] at hboundary ⊢
  omega

theorem isSolid_ofInt (n : Int) : IsSolid (ofInt n) :=
  fun _ hc => (Tag.of_isNamePart (isNamePart_of_mem_ofInt hc)).1

theorem Unbroken.append {t u : Text} (ht : t.Unbroken) (hu : u.Unbroken) : Unbroken (t ++ u) :=
  List.forall_mem_append.mpr ⟨ht, hu⟩

theorem Unbroken.boundedLinesAfter_eq (h : piece.Unbroken) (hne : line ++ piece ≠ []) :
    boundedLinesAfter line piece = [line.reverse ++ piece] := by
  induction piece generalizing line with
  | nil =>
      obtain ⟨c, line, rfl⟩ := List.exists_cons_of_ne_nil (List.append_nil line ▸ hne)
      rw [List.append_nil]
      rfl
  | cons c piece ih =>
      obtain ⟨hc, hpiece⟩ := List.forall_mem_cons.mp h
      have hreturn : c ≠ carriageReturn := by
        rintro rfl
        exact absurd hc (by decide)
      rw [boundedLinesAfter_cons hreturn, hc, if_neg Bool.false_ne_true,
        ih hpiece (List.cons_ne_nil _ _)]
      simp

theorem boundedLines_join (h : ∀ l ∈ lines, l ≠ [] ∧ Unbroken l) :
    boundedLines (join [lineFeed] lines) = lines := by
  induction lines with
  | nil => rfl
  | cons l lines ih =>
      obtain ⟨⟨hne, hl⟩, hlines⟩ := List.forall_mem_cons.mp h
      cases lines with
      | nil => exact hl.boundedLinesAfter_eq hne
      | cons l' lines =>
          have hreturn : carriageReturn ∉ l := fun hmem => absurd (hl _ hmem) (by decide)
          obtain ⟨first, more, hcut, hwhole⟩ :=
            exists_boundedLinesAfter_append hreturn [] (join [lineFeed] (l' :: lines))
          have hjoin : join [lineFeed] (l :: l' :: lines) =
              l ++ lineFeed :: join [lineFeed] (l' :: lines) := List.append_assoc ..
          obtain ⟨hfirst, hmore⟩ := hwhole hl
          rw [hjoin, boundedLines, hcut, hfirst, hmore, ih hlines]
          rfl

end Text

/-! ## Fields -/

/-- What the first field of an operation says. -/
inductive Keyword where
  | text
  | output
  | guard (negated : Bool)
  | otherwise
  | loop
  | finish
  | inert

namespace Keyword

def word : Keyword → Text
  | text => "text"
  | output => "output"
  | guard negated => (BlockKind.guarded negated).word
  | otherwise => "else"
  | loop => "loop"
  | finish => "end"
  | inert => "Op"

theorem isSolid_word (k : Keyword) : k.word.IsSolid := by
  cases k with
  | guard negated => cases negated <;> decide
  | _ => decide

theorem word_injective : Function.Injective word := by
  intro k k' heq
  rcases k with _ | _ | (_ | _) | _ | _ | _ | _ <;>
    rcases k' with _ | _ | (_ | _) | _ | _ | _ | _ <;>
      first | rfl | exact absurd heq (by decide)

end Keyword

namespace EscapeMode

/-- A reference as it is listed with a mode. -/
def shown (escape : EscapeMode) (ref : Ref) : Text :=
  if escape = plain then ref.text else escape.word ++ "(" ++ ref.text ++ ")"

theorem word_injective : Function.Injective word := by
  intro mode mode' heq
  cases mode <;> cases mode' <;> first | rfl | exact absurd heq (by decide)

end EscapeMode

namespace Action

/-- What the operation is listed with in front. -/
def keyword : Action → Keyword
  | text _ => .text
  | output .. => .output
  | branch negated .. => .guard negated
  | alternative _ => .otherwise
  | loop .. => .loop
  | finish .. => .finish
  | inert => .inert

def operands : Action → List Text
  | text value => [value.quoted]
  | output ref escape => [escape.shown ref]
  | branch _ ref elseIndex endIndex =>
    ref.text :: (elseIndex.map fun i => ("else=" : Text) ++ ofInt i).toList ++
      ["end=" ++ ofInt endIndex]
  | alternative endIndex => ["end=" ++ ofInt endIndex]
  | loop ref slot endIndex => [ref.text, "slot=" ++ ofInt slot, "end=" ++ ofInt endIndex]
  | finish word startIndex => [word, "start=" ++ ofInt startIndex]
  | inert => []

/-- What the operation refers to is legible, and what it closes is a block. -/
def Legible : Action → Prop
  | output ref _ | branch _ ref _ _ | loop ref _ _ => ref.Legible
  | finish word _ => ∃ kind : BlockKind, word = kind.word
  | _ => True

variable {a b : Action}

theorem listing_eq_join (a : Action) :
    a.listing = join [.ofChar ' '] (a.keyword.word :: a.operands) := by
  cases a with
  | output ref escape => cases escape <;> rfl
  | branch negated ref elseIndex endIndex =>
      cases negated <;> cases elseIndex <;>
        simp only [listing, keyword, operands, join, List.append_assoc, Option.map_none,
          Option.map_some, Option.toList_none, Option.toList_some, List.cons_append,
          List.nil_append] <;> rfl
  | _ =>
      simp only [listing, keyword, operands, join, List.append_assoc]
      rfl

end Action

/-! ## What a field tells -/

variable {ref ref' : Ref} {escape escape' : EscapeMode} {a b : Action}

theorem Ref.isSolid_text (h : ref.Legible) : ref.text.IsSolid :=
  fun _ hc => (isExpressionPart_of_mem_text h hc).isBlank

theorem EscapeMode.isSolid_shown (escape : EscapeMode) (h : ref.Legible) :
    (escape.shown ref).IsSolid := by
  have htext := Ref.isSolid_text h
  have hword : IsSolid (escape.word ++ "(") := by cases escape <;> decide
  unfold shown
  split
  · exact htext
  · exact (hword.append htext).append (by decide)

/-- No expression has a parenthesis in it, so one is there just if there is a mode. -/
theorem EscapeMode.shown_inj (h : ref.Legible) (h' : ref'.Legible)
    (heq : escape.shown ref = escape'.shown ref') : escape = escape' ∧ ref = ref' := by
  have hopen : ∀ {ref : Ref}, ref.Legible → CodePoint.ofChar '(' ∉ ref.text := by
    intro ref h hmem
    rcases Ref.isExpressionPart_of_mem_text h hmem with hname | hbracket | hbracket
    · exact absurd hname (by decide)
    · exact absurd hbracket (by decide)
    · exact absurd hbracket (by decide)
  have hword : ∀ escape : EscapeMode, CodePoint.ofChar '(' ∉ escape.word := by
    intro escape
    cases escape <;> decide
  have hmem : ∀ (escape : EscapeMode) (ref : Ref),
      CodePoint.ofChar '(' ∈ escape.word ++ "(" ++ ref.text ++ ")" := by
    intro escape ref
    rw [List.append_assoc]
    exact List.mem_append_left _ (List.mem_append_right _ List.mem_cons_self)
  unfold shown at heq
  split at heq <;> split at heq
  · next hplain hplain' => exact ⟨hplain.trans hplain'.symm, Ref.text_inj h h' heq⟩
  · exact absurd (heq ▸ hmem escape' ref') (hopen h)
  · exact absurd (heq ▸ hmem escape ref) (hopen h')
  · simp only [List.append_assoc] at heq
    obtain ⟨hmode, htext⟩ := append_cons_inj (hword escape) (hword escape') heq
    exact ⟨word_injective hmode, Ref.text_inj h h' (List.append_cancel_right htext)⟩

namespace Action

theorem isSolid_operands (h : a.Legible) (ha : a.keyword ≠ .text) :
    ∀ field ∈ a.operands, IsSolid field := by
  have hindex : ∀ {label : Text} (n : Int), label.IsSolid → IsSolid (label ++ ofInt n) :=
    fun n hlabel => hlabel.append (isSolid_ofInt n)
  cases a with
  | text value => exact absurd rfl ha
  | output ref escape => exact List.forall_mem_singleton.mpr (escape.isSolid_shown h)
  | branch negated ref elseIndex endIndex =>
      intro field hfield
      rcases List.mem_append.mp hfield with hfield | hfield
      · rcases List.mem_cons.mp hfield with rfl | hfield
        · exact Ref.isSolid_text h
        · obtain ⟨i, -, rfl⟩ := Option.map_eq_some_iff.mp (Option.mem_toList.mp hfield)
          exact hindex i (by decide)
      · exact List.mem_singleton.mp hfield ▸ hindex endIndex (by decide)
  | alternative endIndex => exact List.forall_mem_singleton.mpr (hindex endIndex (by decide))
  | loop ref slot endIndex =>
      refine List.forall_mem_cons.mpr ⟨Ref.isSolid_text h, List.forall_mem_cons.mpr ⟨?_, ?_⟩⟩
      · exact hindex slot (by decide)
      · exact List.forall_mem_singleton.mpr (hindex endIndex (by decide))
  | finish word startIndex =>
      obtain ⟨kind, rfl⟩ := h
      refine List.forall_mem_cons.mpr ⟨?_, List.forall_mem_singleton.mpr ?_⟩
      · cases kind <;> decide
      · exact hindex startIndex (by decide)
  | inert => exact fun _ hfield => nomatch hfield

/-- The line can be cut into its fields again. -/
theorem splitOn_listing (h : a.Legible) (ha : a.keyword ≠ .text) :
    splitOn (.ofChar ' ') a.listing = a.keyword.word :: a.operands := by
  rw [listing_eq_join]
  refine splitOn_join (List.cons_ne_nil _ _) (List.forall_mem_cons.mpr ⟨?_, fun field hfield => ?_⟩)
  · exact a.keyword.isSolid_word.blank_not_mem
  · exact (isSolid_operands h ha field hfield).blank_not_mem

theorem head?_splitOn_listing (a : Action) :
    (splitOn (.ofChar ' ') a.listing).head? = some a.keyword.word := by
  have hword := a.keyword.isSolid_word.blank_not_mem
  rw [listing_eq_join]
  cases a.operands with
  | nil => rw [join, splitOn_of_not_mem hword, List.head?_cons]
  | cons field fields =>
      rw [join_cons, List.flatMap_cons, List.append_assoc, List.singleton_append,
        splitOn_append_cons hword, List.head?_cons]

theorem keyword_eq_of_listing (heq : a.listing = b.listing) : a.keyword = b.keyword := by
  have hhead := head?_splitOn_listing a
  rw [heq, head?_splitOn_listing] at hhead
  exact Keyword.word_injective (Option.some.inj hhead.symm)

theorem operands_eq_of_listing (ha : a.Legible) (hb : b.Legible) (heq : a.listing = b.listing) :
    a.operands = b.operands := by
  have hkey := keyword_eq_of_listing heq
  by_cases htext : a.keyword = .text
  · rw [listing_eq_join, listing_eq_join, ← hkey, htext] at heq
    cases a with
    | text value =>
        cases b with
        | text value' => exact congrArg (fun t => [t]) (List.append_cancel_left heq)
        | _ => cases hkey
    | _ => cases htext
  · have hfields := splitOn_listing ha htext
    rw [heq, splitOn_listing hb (hkey ▸ htext)] at hfields
    exact (List.cons.inj hfields).2.symm

/-- **No two operations are listed alike**, if they are legible. -/
theorem listing_inj (ha : a.Legible) (hb : b.Legible) (heq : a.listing = b.listing) : a = b := by
  have hkey := keyword_eq_of_listing heq
  have hops := operands_eq_of_listing ha hb heq
  have hindex : ∀ {label : Text} {n m : Int}, label ++ ofInt n = label ++ ofInt m → n = m :=
    fun h => ofInt_injective (List.append_cancel_left h)
  cases a with
  | text value =>
      cases b with
      | text value' => rw [quoted_injective (List.cons.inj hops).1]
      | _ => cases hkey
  | output ref escape =>
      cases b with
      | output ref' escape' =>
          obtain ⟨rfl, rfl⟩ := EscapeMode.shown_inj ha hb (List.cons.inj hops).1
          rfl
      | _ => cases hkey
  | branch negated ref elseIndex endIndex =>
      cases b with
      | branch negated' ref' elseIndex' endIndex' =>
          cases hkey
          obtain ⟨hrest, hend⟩ := List.append_inj' hops rfl
          obtain ⟨href, helse⟩ := List.cons.inj hrest
          obtain rfl := Ref.text_inj ha hb href
          obtain rfl := hindex (List.cons.inj hend).1
          obtain rfl : elseIndex = elseIndex' := by
            cases elseIndex <;> cases elseIndex'
            · rfl
            · cases helse
            · cases helse
            · exact congrArg some (hindex (List.cons.inj helse).1)
          rfl
      | _ => cases hkey
  | alternative endIndex =>
      cases b with
      | alternative endIndex' => rw [hindex (List.cons.inj hops).1]
      | _ => cases hkey
  | loop ref slot endIndex =>
      cases b with
      | loop ref' slot' endIndex' =>
          obtain ⟨href, hops⟩ := List.cons.inj hops
          obtain ⟨hslot, hops⟩ := List.cons.inj hops
          rw [Ref.text_inj ha hb href, hindex hslot, hindex (List.cons.inj hops).1]
      | _ => cases hkey
  | finish word startIndex =>
      cases b with
      | finish word' startIndex' =>
          obtain ⟨hword, hops⟩ := List.cons.inj hops
          rw [hword, hindex (List.cons.inj hops).1]
      | _ => cases hkey
  | inert =>
      cases b with
      | inert => rfl
      | _ => cases hkey

theorem unbroken_listing (h : a.Legible) : Unbroken a.listing := by
  have hjoin : ∀ fields : List Text, (∀ field ∈ fields, Unbroken field) →
      Unbroken (join [.ofChar ' '] fields) := by
    intro fields hfields c hc
    by_cases hblank : c = .ofChar ' '
    · rw [hblank]
      decide
    · obtain ⟨field, hfield, hc⟩ := (mem_join hblank).mp hc
      exact hfields field hfield c hc
  rw [listing_eq_join]
  refine hjoin _ (List.forall_mem_cons.mpr ⟨a.keyword.isSolid_word.unbroken, ?_⟩)
  by_cases htext : a.keyword = .text
  · cases a with
    | text value => exact List.forall_mem_singleton.mpr (unbroken_quoted value)
    | _ => cases htext
  · exact fun field hfield => (isSolid_operands h htext field hfield).unbroken

end Action

/-! ## Whole listings -/

namespace Op

variable {op op' : Op} {index : Nat}

theorem listingLine_inj (h : op.action.Legible) (h' : op'.action.Legible)
    (heq : op.listingLine index = op'.listingLine index) : op.action = op'.action :=
  Action.listing_inj h h' (List.append_cancel_left heq)

theorem unbroken_listingLine (h : op.action.Legible) (index : Nat) :
    Unbroken (op.listingLine index) := by
  have hindex : IsSolid ((ofNat index).padLeft 4 '0') :=
    IsSolid.append (fun c hc => List.eq_of_mem_replicate hc ▸ by decide) (isSolid_ofInt index)
  have hblank : Unbroken " " := List.forall_mem_singleton.mpr (by decide)
  exact (hindex.unbroken.append hblank).append (Action.unbroken_listing h)

theorem listingLine_ne_nil (op : Op) (index : Nat) : op.listingLine index ≠ [] := by
  intro h
  have hpair := List.append_eq_nil_iff.mp h
  exact absurd (List.append_eq_nil_iff.mp hpair.1).2 (by decide)

end Op

namespace Program

variable {p q : Program}

def Legible (p : Program) : Prop := ∀ op ∈ p.ops.toList, op.action.Legible

/-- What the program does, without the places it comes from. -/
def actions (p : Program) : List Action := p.ops.toList.map (·.action)

theorem boundedLines_listing (h : p.Legible) :
    p.listing.boundedLines = p.ops.toList.mapIdx Op.listingLine := by
  refine boundedLines_join fun line hline => ?_
  obtain ⟨i, hi, rfl⟩ := List.mem_mapIdx.mp hline
  exact ⟨Op.listingLine_ne_nil _ i, Op.unbroken_listingLine (h _ (List.getElem_mem hi)) i⟩

theorem listing_eq_of_actions (h : p.actions = q.actions) : p.listing = q.listing := by
  have hline : ∀ (p : Program) (i : Nat), (p.ops.toList.mapIdx Op.listingLine)[i]? =
      p.actions[i]?.map fun a => (ofNat i).padLeft 4 '0' ++ " " ++ a.listing := by
    intro p i
    rw [List.getElem?_mapIdx, actions, List.getElem?_map, Option.map_map]
    rfl
  refine congrArg (join "\n") (List.ext_getElem? fun i => ?_)
  rw [hline, hline, h]

theorem actions_eq_of_listing (hp : p.Legible) (hq : q.Legible) (h : p.listing = q.listing) :
    p.actions = q.actions := by
  have hlines := congrArg boundedLines h
  rw [boundedLines_listing hp, boundedLines_listing hq] at hlines
  refine List.ext_getElem? fun i => ?_
  have hline := congrArg (·[i]?) hlines
  simp only [List.getElem?_mapIdx] at hline
  rw [actions, actions, List.getElem?_map, List.getElem?_map]
  rcases hop : p.ops.toList[i]? with _ | op <;> rcases hop' : q.ops.toList[i]? with _ | op' <;>
    rw [hop, hop'] at hline
  · cases hline
  · cases hline
  · exact congrArg some (Op.listingLine_inj (hp op (List.mem_of_getElem? hop))
      (hq op' (List.mem_of_getElem? hop')) (Option.some.inj hline))

/-- The program is compiled from a source, whatever its includes give. -/
def FromSource (p : Program) : Prop :=
  ∃ (c : Compilation) (keepNewlines : Bool) (source : Text) (tokens : List Token),
    Token.ofSource keepNewlines source = .ok tokens ∧ (c.compile tokens).result = .ok p

theorem FromSource.legible (h : p.FromSource) : p.Legible := by
  obtain ⟨c, keepNewlines, source, tokens, hread, hcompile⟩ := h
  have hlinked := Compilation.wellLinked_of_compile hcompile
  have hpaths := isPath_of_compile hread hcompile
  intro op hop
  obtain ⟨i, hi⟩ := List.getElem?_of_mem hop
  have ha : p.actionAt? i = some op.action := Body.actionAt?_eq (by rwa [← Array.getElem?_toList])
  cases haction : op.action with
  | output ref escape => exact hlinked.legible hpaths ha (haction ▸ rfl)
  | branch negated ref elseIndex endIndex => exact hlinked.legible hpaths ha (haction ▸ rfl)
  | loop ref slot endIndex => exact hlinked.legible hpaths ha (haction ▸ rfl)
  | finish word startIndex =>
      obtain ⟨kind, i, hword, -⟩ := hlinked.finish (haction ▸ ha)
      exact ⟨kind, hword⟩
  | _ => trivial

/-- **A program is told by its listing.**  Two programs that are compiled from sources are listed
alike just if they do the same, operation by operation, and each operation has a line of its own,
whatever is in the texts. -/
theorem listing_eq_iff (hp : p.FromSource) (hq : q.FromSource) :
    (p.listing = q.listing ↔ p.actions = q.actions) ∧
      p.listing.boundedLines = p.ops.toList.mapIdx Op.listingLine :=
  ⟨⟨actions_eq_of_listing hp.legible hq.legible, listing_eq_of_actions⟩,
    boundedLines_listing hp.legible⟩

/-- A loop over nothing, in which a text of two lines is included: from a source on one line and
from one on three. -/
theorem listing_eq_of_spread :
    let included : Text := "it's\n\"so\""
    let p : Program :=
      ⟨#[⟨⟨1, 0⟩, .loop ⟨[], []⟩ 1 3⟩, ⟨⟨1, 13⟩, .output ⟨[⟨[], 1⟩], ["a-b"]⟩ .html⟩,
        ⟨⟨1, 39⟩, .text included⟩, ⟨⟨1, 55⟩, .finish "loop" 0⟩], none⟩
    let q : Program :=
      ⟨#[⟨⟨1, 0⟩, .loop ⟨[], []⟩ 1 3⟩, ⟨⟨2, 0⟩, .output ⟨[⟨[], 1⟩], ["a-b"]⟩ .html⟩,
        ⟨⟨2, 26⟩, .text included⟩, ⟨⟨3, 0⟩, .finish "loop" 0⟩], none⟩
    let lines : List Text := ["0000 loop data slot=1 end=3", "0001 output html(data.[i1].a-b)",
      "0002 text 'it\\'s\\n\"so\"'", "0003 end loop start=0"]
    p.FromSource ∧ q.FromSource ∧ p.listing = q.listing ∧ p.listing.boundedLines = lines := by
  intro included p q lines
  let c : Compilation := ⟨true, some fun _ => pure included, .outermost none, .null⟩
  have hlines : p.ops.toList.mapIdx Op.listingLine = lines := by
    decide +kernel +zetaReduce +revert
  have hp : p.FromSource :=
    ⟨c, false, "<tmpl_loop .><tmpl_var a-b escape=html><tmpl_include x></tmpl_loop>",
      [⟨.opening .loopBlock ".", ⟨1, 0⟩, .plain⟩, ⟨.output "a-b", ⟨1, 13⟩, .html⟩,
        ⟨.inclusion "x", ⟨1, 39⟩, .plain⟩, ⟨.closing "loop", ⟨1, 55⟩, .plain⟩],
      by decide +kernel, rfl⟩
  have hq : q.FromSource :=
    ⟨c, false, "<tmpl_loop .>\n<tmpl_var a-b escape=html><tmpl_include x>\n</tmpl_loop>",
      [⟨.opening .loopBlock ".", ⟨1, 0⟩, .plain⟩, ⟨.output "a-b", ⟨2, 0⟩, .html⟩,
        ⟨.inclusion "x", ⟨2, 26⟩, .plain⟩, ⟨.closing "loop", ⟨3, 0⟩, .plain⟩],
      by decide +kernel, rfl⟩
  obtain ⟨htold, hown⟩ := listing_eq_iff hp hq
  exact ⟨hp, hq, htold.mpr rfl, hown.trans hlines⟩

end Program

end TagTemplate
