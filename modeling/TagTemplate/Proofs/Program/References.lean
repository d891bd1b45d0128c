/-
# References — an expression names what it is written for

A reference is written as an expression: segments of paths with dots between them, and the number
of a loop in brackets behind the path to its sequence.

    data . a . b[i1] . [i2] . c . d        frames  a.b, 1   nothing, 2        path  c.d

A segment is made of name parts other than the dot (`IsSegment`), so it has no bracket in it, and
it is never empty.  Reading from the left, the next opening bracket therefore ends the path of the
first frame, the next closing bracket its number, and where there is no bracket left the rest is
the path.  That goes for empty paths, too: `.` is a name.

References in a program that is compiled from a source are legible in this sense
(`FromSource.legible`), since their segments are those of names in tags.
-/
import TagTemplate.Proofs.Compile.Names
import TagTemplate.Proofs.Text.Numerals

namespace TagTemplate

/-! ## Segments -/

def dot : CodePoint := .ofChar '.'

/-- A segment of a path. -/
structure Text.IsSegment (t : Text) : Prop where
  ne_nil : t ≠ []
  isNamePart : ∀ c ∈ t, Tag.isNamePart c = true
  dot_not_mem : dot ∉ t

def IsPath (path : List Text) : Prop := ∀ segment ∈ path, Text.IsSegment segment

/-- All that the reference is made of are segments. -/
structure Ref.Legible (r : Ref) : Prop where
  frames : ∀ f ∈ r.frames, IsPath f.path
  path : IsPath r.path

namespace Text

/-- Up to a code point that is in neither front, two texts are taken apart alike. -/
theorem append_cons_inj {sep : CodePoint} {front front' rest rest' : Text} (h : sep ∉ front)
    (h' : sep ∉ front') (heq : front ++ sep :: rest = front' ++ sep :: rest') :
    front = front' ∧ rest = rest' := by
  have hpieces := congrArg (splitOn sep) heq
  rw [splitOn_append_cons h, splitOn_append_cons h'] at hpieces
  obtain rfl := (List.cons.inj hpieces).1
  exact ⟨rfl, (List.cons.inj (List.append_cancel_left heq)).2⟩

/-- A code point that expressions are written with. -/
def IsExpressionPart (c : CodePoint) : Prop :=
  Tag.isNamePart c = true ∨ c = .ofChar '[' ∨ c = .ofChar ']'

theorem IsExpressionPart.isBlank {c : CodePoint} (h : IsExpressionPart c) : c.isBlank = false := by
  rcases h with h | rfl | rfl
  · exact (Tag.of_isNamePart h).1
  · decide
  · decide

theorem not_mem_of_isNamePart {t : Text} {d : CodePoint}
    (h : ∀ c ∈ t, Tag.isNamePart c = true) (hd : Tag.isNamePart d = false) : d ∉ t := by
  intro hmem
  cases (h d hmem).symm.trans hd

theorem isNamePart_of_isDecimal {c : CodePoint} (h : c.IsDecimal) : Tag.isNamePart c = true :=
  Tag.isNamePart_iff.mpr (.inr (.inl h))

theorem isNamePart_of_mem_ofInt {c : CodePoint} {n : Int} (h : c ∈ ofInt n) :
    Tag.isNamePart c = true := by
  rcases of_mem_ofInt h with rfl | h
  · decide
  · exact isNamePart_of_isDecimal h

end Text

open Text

/-! ## Paths -/

variable {path path' : List Text} {f f' : Frame} {frames frames' : List Frame} {r r' : Ref}
  {c : CodePoint} {rest rest' : Text}

theorem isNamePart_of_mem_join (h : IsPath path) (hc : c ∈ join [dot] path) :
    Tag.isNamePart c = true := by
  by_cases hdot : c = dot
  · rw [hdot]
    decide
  · obtain ⟨segment, hsegment, hc⟩ := (mem_join hdot).mp hc
    exact (h segment hsegment).isNamePart c hc

theorem join_eq_nil (h : IsPath path) : join [dot] path = [] ↔ path = [] := by
  cases path with
  | nil => exact iff_of_true rfl rfl
  | cons segment path =>
      rw [join_cons]
      refine iff_of_false (fun heq => ?_) (List.cons_ne_nil _ _)
      exact (h segment List.mem_cons_self).ne_nil (List.append_eq_nil_iff.mp heq).1

/-- A path is told by its segments with dots between them. -/
theorem path_inj (h : IsPath path) (h' : IsPath path')
    (heq : join [dot] path = join [dot] path') : path = path' := by
  by_cases hnil : path = []
  · subst hnil
    exact ((join_eq_nil h').mp heq.symm).symm
  · have hnil' : path' ≠ [] := fun hnil' =>
      hnil ((join_eq_nil h).mp (heq.trans ((join_eq_nil h').mpr hnil')))
    rw [← splitOn_join hnil fun t ht => (h t ht).dot_not_mem, heq,
      splitOn_join hnil' fun t ht => (h' t ht).dot_not_mem]

/-! ## Expressions -/

/-- What is written in an expression after the name of the data. -/
def stepsText (frames : List Frame) (path : List Text) : Text :=
  (frames.map Frame.text).flatMap ([dot] ++ ·) ++
    if path.isEmpty then [] else dot :: join [dot] path

theorem Ref.text_eq (r : Ref) : r.text = "data" ++ stepsText r.frames r.path := by
  have hpath : (if r.path.isEmpty then [] else [join [dot] r.path] : List Text).flatMap
      ([dot] ++ ·) = if r.path.isEmpty then [] else dot :: join [dot] r.path := by
    split
    · rfl
    · exact List.append_nil _
  rw [stepsText, ← hpath, ← List.flatMap_append]
  exact join_cons [dot] "data" _

theorem stepsText_cons (f : Frame) (frames : List Frame) (path : List Text) :
    stepsText (f :: frames) path =
      dot :: (join [dot] f.path ++ .ofChar '[' :: .ofChar 'i' ::
        (ofInt f.slot ++ .ofChar ']' :: stepsText frames path)) := by
  have hframe : f.text = join [dot] f.path ++ (.ofChar '[' :: .ofChar 'i' ::
      (ofInt f.slot ++ [.ofChar ']'])) := by
    rw [Frame.text, List.append_assoc, List.append_assoc]
    rfl
  rw [stepsText, List.map_cons, List.flatMap_cons, hframe, stepsText]
  simp only [List.append_assoc, List.cons_append, List.nil_append]

theorem isNamePart_of_mem_stepsText_nil (h : IsPath path) (hc : c ∈ stepsText [] path) :
    Tag.isNamePart c = true := by
  rw [stepsText, List.map_nil, List.flatMap_nil, List.nil_append] at hc
  split at hc
  · cases hc
  · rcases List.mem_cons.mp hc with rfl | hc
    · decide
    · exact isNamePart_of_mem_join h hc

theorem stepsText_cons_ne (h : IsPath path') (f : Frame) (frames : List Frame)
    (path : List Text) : stepsText (f :: frames) path ≠ stepsText [] path' := by
  intro heq
  have hmem : CodePoint.ofChar '[' ∈ stepsText [] path' := by
    rw [← heq, stepsText_cons]
    exact List.mem_cons_of_mem _ (List.mem_append_right _ List.mem_cons_self)
  exact not_mem_of_isNamePart (fun c => isNamePart_of_mem_stepsText_nil h) (by decide) hmem

theorem stepsText_nil_inj (h : IsPath path) (h' : IsPath path')
    (heq : stepsText [] path = stepsText [] path') : path = path' := by
  simp only [stepsText, List.map_nil, List.flatMap_nil, List.nil_append] at heq
  split at heq <;> split at heq
  · next hnil hnil' => rw [List.isEmpty_iff.mp hnil, List.isEmpty_iff.mp hnil']
  · cases heq
  · cases heq
  · exact path_inj h h' (List.cons.inj heq).2

/-- The rest of an expression tells its frames and its path. -/
theorem stepsText_inj (hframes : ∀ f ∈ frames, IsPath f.path) (hpath : IsPath path)
    (hframes' : ∀ f ∈ frames', IsPath f.path) (hpath' : IsPath path')
    (heq : stepsText frames path = stepsText frames' path') : frames = frames' ∧ path = path' := by
  induction frames generalizing frames' with
  | nil =>
      cases frames' with
      | nil => exact ⟨rfl, stepsText_nil_inj hpath hpath' heq⟩
      | cons f' frames' => exact absurd heq.symm (stepsText_cons_ne hpath f' frames' path')
  | cons f frames ih =>
      cases frames' with
      | nil => exact absurd heq (stepsText_cons_ne hpath' f frames path)
      | cons f' frames' =>
          obtain ⟨hf, hframes⟩ := List.forall_mem_cons.mp hframes
          obtain ⟨hf', hframes'⟩ := List.forall_mem_cons.mp hframes'
          have hopen : ∀ {path : List Text}, IsPath path →
              CodePoint.ofChar '[' ∉ join [dot] path := fun hpath =>
            not_mem_of_isNamePart (fun c => isNamePart_of_mem_join hpath) (by decide)
          have hclose : ∀ n : Int, CodePoint.ofChar ']' ∉ ofInt n := fun n =>
            not_mem_of_isNamePart (fun c => isNamePart_of_mem_ofInt) (by decide)
          rw [stepsText_cons, stepsText_cons] at heq
          obtain ⟨hjoin, heq⟩ := append_cons_inj (hopen hf) (hopen hf') (List.cons.inj heq).2
          obtain ⟨hslot, heq⟩ := append_cons_inj (hclose _) (hclose _) (List.cons.inj heq).2
          obtain ⟨rfl, rfl⟩ := ih hframes hframes' heq
          have hframe : f = f' := by
            obtain ⟨path, slot⟩ := f
            obtain ⟨path', slot'⟩ := f'
            rw [Frame.mk.injEq]
            exact ⟨path_inj hf hf' hjoin, ofInt_injective hslot⟩
          exact ⟨congrArg (· :: frames) hframe, rfl⟩

/-- A legible reference is told by its expression. -/
theorem Ref.text_inj (h : r.Legible) (h' : r'.Legible) (heq : r.text = r'.text) : r = r' := by
  rw [Ref.text_eq, Ref.text_eq] at heq
  obtain ⟨hframes, hpath⟩ :=
    stepsText_inj h.frames h.path h'.frames h'.path (List.append_cancel_left heq)
  obtain ⟨frames, path⟩ := r
  obtain ⟨frames', path'⟩ := r'
  exact congr (congrArg Ref.mk hframes) hpath

theorem Ref.isExpressionPart_of_mem_text (h : r.Legible) (hc : c ∈ r.text) :
    IsExpressionPart c := by
  have hname : ∀ c ∈ (("data" : Text)), Tag.isNamePart c = true := by decide
  rw [Ref.text_eq] at hc
  rcases List.mem_append.mp hc with hc | hc
  · exact .inl (hname c hc)
  obtain ⟨hframes, hpath⟩ := h
  generalize r.frames = frames at hframes hc
  induction frames with
  | nil => exact .inl (isNamePart_of_mem_stepsText_nil hpath hc)
  | cons f frames ih =>
      obtain ⟨hf, hframes⟩ := List.forall_mem_cons.mp hframes
      rw [stepsText_cons] at hc
      simp only [List.mem_cons, List.mem_append] at hc
      rcases hc with rfl | hc | rfl | rfl | hc | rfl | hc
      · exact .inl (by decide)
      · exact .inl (isNamePart_of_mem_join hf hc)
      · exact .inr (.inl rfl)
      · exact .inl (by decide)
      · exact .inl (isNamePart_of_mem_ofInt hc)
      · exact .inr (.inr rfl)
      · exact ih hframes hc

/-! ## References of compiled sources -/

theorem isPath_splitPath {name : Text} (h : ∀ c ∈ name, Tag.isNamePart c = true) :
    IsPath (splitPath name) := by
  intro segment hsegment
  obtain ⟨hpiece, hne⟩ := List.mem_filter.mp hsegment
  exact ⟨by simpa using hne, fun c hc => h c (mem_of_mem_splitPath hsegment hc),
    not_mem_of_mem_splitOn hpiece⟩

namespace Program

variable {p : Program} {i : Nat} {a : Action}

theorem mem_paths_of_ref? (ha : p.actionAt? i = some a) (hr : a.ref? = some r) :
    r.path ∈ p.paths := by
  obtain ⟨op, hop, rfl⟩ := Option.map_eq_some_iff.mp ha
  refine List.mem_filterMap.mpr ⟨op, ?_, ?_⟩
  · exact Array.mem_toList_iff.mpr (Array.mem_of_getElem? hop)
  · rw [Action.path?, hr, Option.map_some]

theorem mem_paths_of_framesAround (hf : f ∈ p.framesAround i) : f.path ∈ p.paths := by
  obtain ⟨l, -, hl⟩ := List.mem_filterMap.mp hf
  unfold frameAround? at hl
  split at hl
  · next ref slot endIndex hloop =>
      split at hl
      · cases hl
        exact mem_paths_of_ref? hloop rfl
      · cases hl
  · cases hl

/-- In a well linked program the frames of references are paths of the program, too. -/
theorem WellLinked.legible (h : p.WellLinked) (hpaths : ∀ path ∈ p.paths, IsPath path)
    (ha : p.actionAt? i = some a) (hr : a.ref? = some r) : r.Legible where
  frames _ hf := hpaths _ (mem_paths_of_framesAround ((h.frames ha hr).1 ▸ hf))
  path := hpaths _ (mem_paths_of_ref? ha hr)

end Program

/-- A program that is compiled from the tokens of a source refers to things by segments alone. -/
theorem isPath_of_compile {c : Compilation} {keepNewlines : Bool} {source : Text}
    {tokens : List Token} {p : Program} (hread : Token.ofSource keepNewlines source = .ok tokens)
    (h : (c.compile tokens).result = .ok p) : ∀ path ∈ p.paths, IsPath path := by
  intro path hpath
  rw [Compilation.paths_of_compile h] at hpath
  obtain ⟨t, ht, hsplit⟩ := List.mem_filterMap.mp hpath
  obtain ⟨name, hname, rfl⟩ := Option.map_eq_some_iff.mp hsplit
  exact isPath_splitPath (Token.isNamePart_of_reference? hread ht hname)

end TagTemplate
