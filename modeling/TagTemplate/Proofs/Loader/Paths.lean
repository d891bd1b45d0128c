/-
# Paths in a tree of files

What a path leads to is told by its parts, one after the other: a path from a directory on
goes on where the path of the directory ends (`FileTree.locate_join`).

    names             read as they are written, and led along to what has the name
    `.`               no part at all
    `..`              from a directory to one, so never to a file
    the code point 0  nowhere, wherever in a path it is
    a long path       an error

The trees here are those that a disk can hold (`FileTree.Proper`).  In them a name without a
slash leads from a directory to a file directly in it, or to no file
(`FileTree.Proper.of_file?_join`).
-/
import TagTemplate.Loader.FileTree
import TagTemplate.Proofs.Token.Lines

namespace TagTemplate

namespace FilePath

/-- The text could name a file: it is not empty, is none of the names for directories here and
above, and has neither a slash nor the code point zero in it. -/
structure IsName (part : Text) : Prop where
  ne_nil : part ≠ []
  ne_here : part ≠ "."
  ne_above : part ≠ ".."
  slash_notMem : slash ∉ part
  val_ne_zero : ∀ c ∈ part, c.val ≠ 0

instance (part : Text) : Decidable (IsName part) :=
  decidable_of_iff (part ≠ [] ∧ part ≠ "." ∧ part ≠ ".." ∧ slash ∉ part ∧ ∀ c ∈ part, c.val ≠ 0)
    ⟨fun ⟨h₁, h₂, h₃, h₄, h₅⟩ => ⟨h₁, h₂, h₃, h₄, h₅⟩,
      fun ⟨h₁, h₂, h₃, h₄, h₅⟩ => ⟨h₁, h₂, h₃, h₄, h₅⟩⟩

variable {part : Text} {parts : List Text}

theorem ofText_join (hne : parts ≠ []) (h : ∀ part ∈ parts, IsName part) :
    ofText (Text.join [slash] parts) = ⟨[], parts⟩ := by
  have hsplit := Text.splitOn_join hne fun part hpart => (h part hpart).slash_notMem
  have hparts : parts.filter (fun part : Text => !part.isEmpty && part != ".") = parts := by
    refine List.filter_eq_self.mpr fun part hpart => ?_
    simp [(h part hpart).ne_nil, (h part hpart).ne_here]
  have hroot : (Text.join [slash] parts).takeWhile (· == slash) = [] := by
    obtain ⟨first, rest, rfl⟩ := List.exists_cons_of_ne_nil hne
    have hfirst := h first List.mem_cons_self
    obtain ⟨c, r, rfl⟩ := List.exists_cons_of_ne_nil hfirst.ne_nil
    have hc : c ≠ slash := fun hc => hfirst.slash_notMem (hc ▸ List.mem_cons_self)
    rw [Text.join_cons, List.cons_append, List.takeWhile_cons_of_neg (by simpa using hc)]
  rw [ofText, hsplit, hparts, hroot]
  rfl

theorem ofText_of_not_mem (h : slash ∉ part) :
    ofText part = ⟨[], if part = [] ∨ part = "." then [] else [part]⟩ := by
  have hroot : part.takeWhile (· == slash) = [] := by
    cases part with
    | nil => rfl
    | cons c r =>
        have hc : c ≠ slash := fun hc => h (hc ▸ List.mem_cons_self)
        exact List.takeWhile_cons_of_neg (by simpa using hc)
  rw [ofText, Text.splitOn_of_not_mem h, hroot]
  by_cases hpart : part = [] ∨ part = "."
  · rcases hpart with rfl | rfl <;> rfl
  · rw [if_neg hpart]
    rw [not_or] at hpart
    simp [hpart.1, hpart.2]

@[simp] theorem join_parts (base : FilePath) (parts : List Text) :
    base.join ⟨[], parts⟩ = ⟨base.root, base.parts ++ parts⟩ := rfl

def HasZero (p : FilePath) : Prop := ∃ c ∈ p.text, c.val = 0

theorem hasZero_iff {p : FilePath} :
    p.HasZero ↔ (∃ c ∈ p.root, c.val = 0) ∨ ∃ part ∈ p.parts, ∃ c ∈ part, c.val = 0 := by
  have htext : p.HasZero ↔ ∃ c ∈ p.root ++ Text.join [slash] p.parts, c.val = 0 := by
    unfold HasZero text
    split
    · next heq =>
        rw [heq]
        decide
    · rfl
  have hslash : ∀ c : CodePoint, c.val = 0 → c ≠ slash := by
    rintro c hc rfl
    cases hc
  rw [htext]
  constructor
  · rintro ⟨c, hmem, hc⟩
    rcases List.mem_append.mp hmem with hmem | hmem
    · exact .inl ⟨c, hmem, hc⟩
    · obtain ⟨part, hpart, hmem⟩ := (Text.mem_join (hslash c hc)).mp hmem
      exact .inr ⟨part, hpart, c, hmem, hc⟩
  · rintro (⟨c, hmem, hc⟩ | ⟨part, hpart, c, hmem, hc⟩)
    · exact ⟨c, List.mem_append_left _ hmem, hc⟩
    · exact ⟨c, List.mem_append_right _ ((Text.mem_join (hslash c hc)).mpr ⟨part, hpart, hmem⟩), hc⟩

theorem hasZero_join {d : FilePath} :
    (d.join ⟨[], parts⟩).HasZero ↔ d.HasZero ∨ ∃ part ∈ parts, ∃ c ∈ part, c.val = 0 := by
  simp only [hasZero_iff, join_parts, List.mem_append, or_and_right, exists_or, or_assoc]

end FilePath

namespace FileTree

variable {t : FileTree} {here place parts rest : List Text} {p d : FilePath}

/-! ## Where paths lead -/

/-- What follows the parts of a path starts where those have led. -/
theorem walk_append (t : FileTree) (here parts rest : List Text) :
    t.walk here (parts ++ rest) = t.walk here parts >>= fun
      | some place => t.walk place rest
      | none => .ok none := by
  induction parts generalizing here with
  | nil => rfl
  | cons part parts ih =>
      rw [List.cons_append, walk, walk]
      split
      · rfl
      · split
        · exact ih _
        · split
          · rfl
          · exact ih _

/-- Only a part that is too long is an error. -/
theorem exists_walk (hparts : ∀ part ∈ parts, FilePath.byteCount part ≤ FilePath.maxPartBytes)
    (t : FileTree) (here : List Text) : ∃ place?, t.walk here parts = .ok place? := by
  induction parts generalizing here with
  | nil => exact ⟨some here, rfl⟩
  | cons part parts ih =>
      have hrest := ih fun part hpart => hparts part (List.mem_cons_of_mem _ hpart)
      rw [walk, if_neg (Nat.not_lt.mpr (hparts part List.mem_cons_self))]
      split
      · exact ⟨none, rfl⟩
      · split
        · exact hrest _
        · exact hrest _

/-- Without double dots, a path leads to what is below. -/
theorem eq_append_of_walk (habove : (".." : Text) ∉ parts)
    (h : t.walk here parts = .ok (some place)) : place = here ++ parts := by
  induction parts generalizing here with
  | nil =>
      cases h
      exact (List.append_nil _).symm
  | cons part parts ih =>
      obtain ⟨hpart, hparts⟩ := List.ne_and_not_mem_of_not_mem_cons habove
      rw [walk] at h
      split at h
      · cases h
      rw [if_neg (Ne.symm hpart)] at h
      split at h
      · cases h
      rw [ih hparts h, List.append_assoc]
      rfl

def origin (t : FileTree) (p : FilePath) : List Text :=
  if p.root.isEmpty then t.workingDirectory else []

theorem locate_of_hasZero (h : p.HasZero) : t.locate p = .ok none := by
  refine if_pos (List.any_eq_true.mpr ?_)
  simpa [FilePath.HasZero] using h

theorem locate_of_long (hzero : ¬ p.HasZero)
    (h : FilePath.maxPathBytes < FilePath.byteCount p.text) :
    t.locate p = .error (.nameTooLong p.text) := by
  rw [locate, if_neg, if_pos h]
  simpa [FilePath.HasZero] using hzero

theorem locate_eq_walk (hzero : ¬ p.HasZero)
    (h : FilePath.byteCount p.text ≤ FilePath.maxPathBytes) :
    t.locate p = match t.walk (t.origin p) p.parts with
      | .ok place => .ok place
      | .error () => .error (.nameTooLong p.text) := by
  rw [locate, if_neg, if_neg (Nat.not_lt.mpr h)]
  · rfl
  · simpa [FilePath.HasZero] using hzero

theorem of_locate {place? : Option (List Text)} (hzero : ¬ p.HasZero)
    (h : t.locate p = .ok place?) :
    FilePath.byteCount p.text ≤ FilePath.maxPathBytes ∧
      t.walk (t.origin p) p.parts = .ok place? := by
  rcases Nat.lt_or_ge FilePath.maxPathBytes (FilePath.byteCount p.text) with hlong | hshort
  · rw [locate_of_long hzero hlong] at h
    cases h
  · rw [locate_eq_walk hzero hshort] at h
    refine ⟨hshort, ?_⟩
    split at h <;> cases h
    assumption

theorem not_hasZero_of_locate (h : t.locate p = .ok (some place)) : ¬ p.HasZero := by
  intro hzero
  rw [locate_of_hasZero hzero] at h
  cases h

theorem walk_join (t : FileTree) (d : FilePath) (parts : List Text) :
    t.walk (t.origin (d.join ⟨[], parts⟩)) (d.join ⟨[], parts⟩).parts =
      t.walk (t.origin d) d.parts >>= fun
        | some place => t.walk place parts
        | none => .ok none := walk_append t (t.origin d) d.parts parts

/-- A path from a directory on leads to where its parts lead from there. -/
theorem locate_join (hd : t.locate d = .ok (some place))
    (hzero : ∀ part ∈ parts, ∀ c ∈ part, c.val ≠ 0)
    (hlong : FilePath.byteCount (d.join ⟨[], parts⟩).text ≤ FilePath.maxPathBytes) :
    t.locate (d.join ⟨[], parts⟩) = match t.walk place parts with
      | .ok place? => .ok place?
      | .error () => .error (.nameTooLong (d.join ⟨[], parts⟩).text) := by
  have hjoin : ¬ (d.join ⟨[], parts⟩).HasZero := by
    rw [FilePath.hasZero_join, not_or]
    refine ⟨not_hasZero_of_locate hd, ?_⟩
    rintro ⟨part, hpart, c, hmem, hc⟩
    exact hzero part hpart c hmem hc
  rw [locate_eq_walk hjoin hlong, walk_join, (of_locate (not_hasZero_of_locate hd) hd).2]
  rfl

theorem exists_of_locate_join {here? : Option (List Text)} (hd : t.locate d = .ok here?)
    (h : t.locate (d.join ⟨[], parts⟩) = .ok (some place)) :
    ∃ here, here? = some here ∧ t.walk here parts = .ok (some place) := by
  have hjoin := not_hasZero_of_locate h
  have hzero : ¬ d.HasZero := fun hd => hjoin (FilePath.hasZero_join.mpr (.inl hd))
  have hwalk := (of_locate hjoin h).2
  rw [walk_join, (of_locate hzero hd).2] at hwalk
  cases here? with
  | none => cases hwalk
  | some here => exact ⟨here, rfl, hwalk⟩

/-- From a directory that can be looked up, parts that are not too long make no error, unless the
whole path is too long. -/
theorem exists_locate_join {place? : Option (List Text)} (hd : t.locate d = .ok place?)
    (hparts : ∀ part ∈ parts, FilePath.byteCount part ≤ FilePath.maxPartBytes)
    (hlong : FilePath.byteCount (d.join ⟨[], parts⟩).text ≤ FilePath.maxPathBytes) :
    ∃ place?', t.locate (d.join ⟨[], parts⟩) = .ok place?' := by
  by_cases hzero : (d.join ⟨[], parts⟩).HasZero
  · exact ⟨none, locate_of_hasZero hzero⟩
  have hnone : ¬ d.HasZero := fun hd => hzero (FilePath.hasZero_join.mpr (.inl hd))
  rw [locate_eq_walk hzero hlong, walk_join, (of_locate hnone hd).2]
  cases place? with
  | none => exact ⟨none, rfl⟩
  | some place =>
      obtain ⟨place?', hwalk⟩ := exists_walk hparts t place
      refine ⟨place?', ?_⟩
      show (match t.walk place parts with | .ok place => _ | .error () => _) = _
      rw [hwalk]

/-! ## Files and directories -/

/-- A tree that a disk can hold: its entries have names, which are not too long, and no file is a
directory. -/
structure Proper (t : FileTree) : Prop where
  isName : ∀ l ∈ t.listed, ∀ part ∈ l, FilePath.IsName part
  byteCount_le : ∀ l ∈ t.listed, ∀ part ∈ l, FilePath.byteCount part ≤ FilePath.maxPartBytes
  apart : ∀ f ∈ t.files, t.isDirectory f.1 = false

instance (t : FileTree) : Decidable t.Proper :=
  decidable_of_iff
    ((∀ l ∈ t.listed, ∀ part ∈ l, FilePath.IsName part) ∧
      (∀ l ∈ t.listed, ∀ part ∈ l, FilePath.byteCount part ≤ FilePath.maxPartBytes) ∧
      ∀ f ∈ t.files, t.isDirectory f.1 = false)
    ⟨fun ⟨h₁, h₂, h₃⟩ => ⟨h₁, h₂, h₃⟩, fun ⟨h₁, h₂, h₃⟩ => ⟨h₁, h₂, h₃⟩⟩

theorem isDirectory_iff : t.isDirectory place = true ↔
    place = [] ∨ place ∈ t.workingDirectory :: t.directories ∨
      ∃ l ∈ t.listed, place <+: l ∧ place.length < l.length := by
  simp only [isDirectory, Bool.or_eq_true, List.isEmpty_iff, List.contains_iff_mem,
    List.any_eq_true, Bool.and_eq_true, decide_eq_true_eq, List.isPrefixOf_iff_prefix,
    or_assoc, and_comm]

theorem isDirectory_dropLast (h : t.isDirectory place = true) :
    t.isDirectory place.dropLast = true := by
  rcases Decidable.em (place = []) with rfl | hne
  · exact h
  have hlt : place.dropLast.length < place.length := by
    have := List.length_pos_iff.mpr hne
    rw [List.length_dropLast]
    omega
  rw [isDirectory_iff] at h ⊢
  rcases h with h | h | ⟨l, hl, hpre, hlt'⟩
  · exact absurd h hne
  · exact .inr (.inr ⟨place, List.mem_append_right _ h, List.dropLast_prefix _, hlt⟩)
  · exact .inr (.inr ⟨l, hl, (List.dropLast_prefix _).trans hpre, Nat.lt_trans hlt hlt'⟩)

theorem Proper.lookup_of_isDirectory (ht : t.Proper) (h : t.isDirectory place = true) :
    t.files.lookup place = none := by
  rw [List.lookup_eq_none_iff]
  intro f hf
  rw [bne_iff_ne]
  rintro rfl
  cases h.symm.trans (ht.apart f hf)

theorem isDirectory_or_file {l : List Text} (hl : l ∈ t.listed) (h : place <+: l) :
    t.isDirectory place = true ∨ ∃ bytes, t.files.lookup place = some bytes := by
  rcases Nat.lt_or_ge place.length l.length with hlt | hge
  · exact .inl (isDirectory_iff.mpr (.inr (.inr ⟨l, hl, h, hlt⟩)))
  obtain rfl := h.eq_of_length_le hge
  rcases List.mem_append.mp hl with hfile | hdirectory
  · obtain ⟨f, hf, rfl⟩ := List.mem_map.mp hfile
    refine .inr (Option.ne_none_iff_exists'.mp fun hnone => ?_)
    simpa using List.lookup_eq_none_iff.mp hnone f hf
  · exact .inl (isDirectory_iff.mpr (.inr (.inl hdirectory)))

theorem Proper.walk_listed (ht : t.Proper) {l : List Text} (hl : l ∈ t.listed)
    (h : here ++ parts <+: l) : t.walk here parts = .ok (some (here ++ parts)) := by
  induction parts generalizing here with
  | nil => rw [walk, List.append_nil]
  | cons part parts ih =>
      have hmem : part ∈ l := h.subset (by simp)
      have hhere : t.isDirectory here = true := by
        refine isDirectory_iff.mpr (.inr (.inr ⟨l, hl, (List.prefix_append _ _).trans h, ?_⟩))
        have := h.length_le
        rw [List.length_append, List.length_cons] at this
        omega
      rw [walk, if_neg (by simp [hhere]), if_neg (ht.isName l hl part hmem).ne_above,
        if_neg (Nat.not_lt.mpr (ht.byteCount_le l hl part hmem))]
      rw [List.append_cons] at h
      rw [List.append_cons here part parts]
      exact ih h

/-! ## Looking at paths -/

theorem file?_eq_ok_some {bytes : List UInt8} : t.file? p = .ok (some bytes) ↔
    ∃ place, t.locate p = .ok (some place) ∧ t.files.lookup place = some bytes := by
  unfold file?
  cases t.locate p with
  | error e => simp [bind, Except.bind]
  | ok place? => cases place? <;> simp [bind, Except.bind, pure, Except.pure]

theorem file?_eq_error {e : Error} : t.file? p = .error e ↔ t.locate p = .error e := by
  unfold file?
  cases t.locate p <;> simp [bind, Except.bind, pure, Except.pure]

theorem directory?_eq_ok_some : t.directory? p = .ok (some place) ↔
    t.locate p = .ok (some place) ∧ t.isDirectory place = true := by
  unfold directory?
  cases t.locate p with
  | error e => simp [bind, Except.bind]
  | ok place? =>
      simp only [bind, Except.bind, pure, Except.pure, Except.ok.injEq]
      exact Option.filter_eq_some_iff

theorem exists_directory? :
    (∃ location?, t.directory? p = .ok location?) ↔ ∃ place?, t.locate p = .ok place? := by
  unfold directory?
  cases t.locate p <;> simp [bind, Except.bind, pure, Except.pure]

/-- From a directory, a name without slashes leads to no file but one of this name, directly in the
directory. -/
theorem Proper.of_file?_join {name : Text} {bytes : List UInt8} (ht : t.Proper)
    (hd : t.locate d = .ok (some here)) (hdirectory : t.isDirectory here = true)
    (hslash : FilePath.slash ∉ name) (h : t.file? (d.join (.ofText name)) = .ok (some bytes)) :
    (name ≠ "." ∧ name ≠ "..") ∧ FilePath.ofText name = ⟨[], [name]⟩ ∧
      t.files.lookup (here ++ [name]) = some bytes := by
  obtain ⟨place, hlocate, hlookup⟩ := file?_eq_ok_some.mp h
  have hfile : ¬ t.isDirectory place = true := fun hplace => by
    cases (ht.lookup_of_isDirectory hplace).symm.trans hlookup
  rw [FilePath.ofText_of_not_mem hslash] at hlocate ⊢
  obtain ⟨_, heq, hwalk⟩ := exists_of_locate_join hd hlocate
  cases heq
  by_cases hname : name = [] ∨ name = "."
  · rw [if_pos hname, walk] at hwalk
    cases hwalk
    exact absurd hdirectory hfile
  rw [if_neg hname] at hwalk ⊢
  have habove : name ≠ ".." := by
    rintro rfl
    rw [walk, if_neg (by simp [hdirectory]), if_pos rfl, walk] at hwalk
    cases hwalk
    exact hfile (isDirectory_dropLast hdirectory)
  refine ⟨⟨fun h => hname (.inr h), habove⟩, rfl, ?_⟩
  rwa [← eq_append_of_walk (fun h => habove (List.mem_singleton.mp h).symm) hwalk]

/-! ## Entries below a place -/

theorem mem_below {location path : List Text} : path ∈ t.below location ↔
    path ≠ [] ∧ ∃ l ∈ t.listed, location ++ path <+: l := by
  simp only [below, List.mem_flatMap, List.mem_filter, List.isPrefixOf_iff_prefix, List.mem_map,
    List.mem_range]
  constructor
  · rintro ⟨l, ⟨hl, rest, rfl⟩, i, hi, rfl⟩
    rw [List.drop_left] at hi ⊢
    refine ⟨?_, _, hl, (List.prefix_append_right_inj location).mpr (List.take_prefix _ _)⟩
    rw [ne_eq, List.take_eq_nil_iff, not_or]
    exact ⟨Nat.succ_ne_zero i, List.ne_nil_of_length_pos (Nat.zero_lt_of_lt hi)⟩
  · rintro ⟨hne, l, hl, rest, rfl⟩
    have hpos := List.length_pos_iff.mpr hne
    refine ⟨_, ⟨hl, ?_⟩, path.length - 1, ?_, ?_⟩
    · rw [List.append_assoc]
      exact List.prefix_append _ _
    · rw [List.append_assoc, List.drop_left, List.length_append]
      omega
    · rw [List.append_assoc, List.drop_left, Nat.sub_add_cancel hpos, List.take_left]

end FileTree

end TagTemplate
