/-
# Files that are listed

Listing and fetching go through the directories each in its own way.  Listing takes the
entries below every directory, and keeps those that are named like templates.  Fetching puts
the name behind every directory, and looks there for a file.

    listed             fetched
    a file             the text of the first file of the name
    only directories   no template
    too far below      an error of the disk: the path is too long

So a name that is listed is that of an entry (`FileStore.Entry`), which is led to from its
directory; and the second case is one of a list that does not ask whether an entry is a file.
-/
import TagTemplate.Loader.Basic
import TagTemplate.Proofs.Loader.Leaves
import TagTemplate.Proofs.Loader.Paths
import TagTemplate.Proofs.Traced

namespace TagTemplate

open FilePath (slash)

/-- Looking at paths in order comes to one of them: no path before it leads to a file, and this is
what looking at it gives. -/
def FileTree.ComesTo (t : FileTree) (paths : List FilePath) (p : FilePath)
    (found : Except Error (Option (List UInt8))) : Prop :=
  ∃ before after, paths = before ++ p :: after ∧ (∀ q ∈ before, t.file? q = .ok none) ∧
    t.file? p = found

namespace FileTree

variable {t : FileTree} {paths : List FilePath} {p q : FilePath}
  {found : Except Error (Option (List UInt8))}

theorem ComesTo.head (h : t.file? p = found) : t.ComesTo (p :: paths) p found :=
  ⟨[], paths, rfl, nofun, h⟩

theorem ComesTo.cons (hq : t.file? q = .ok none) (h : t.ComesTo paths p found) :
    t.ComesTo (q :: paths) p found := by
  obtain ⟨before, after, rfl, hbefore, hp⟩ := h
  exact ⟨q :: before, after, rfl, List.forall_mem_cons.mpr ⟨hq, hbefore⟩, hp⟩

theorem ComesTo.file? (h : t.ComesTo paths p found) : t.file? p = found := by
  obtain ⟨-, -, -, -, hp⟩ := h
  exact hp

theorem ComesTo.mem (h : t.ComesTo paths p found) : p ∈ paths := by
  obtain ⟨before, after, rfl, -, -⟩ := h
  exact List.mem_append_right _ List.mem_cons_self

end FileTree

namespace FileStore

variable {s : FileStore} {name : Text} {names : List Text} {directory p : FilePath}
  {base path : List Text} {bytes : List UInt8} {e : Error}

/-! ## Fetching -/

/-- The paths at which a name is looked for, in order. -/
def paths (s : FileStore) (name : Text) : List FilePath :=
  s.directories.map (·.join (.ofText name))

/-- A search goes on up to the first file, or to the first path that is an error. -/
theorem find?_cases (s : FileStore) (name : Text) (directories : List FilePath) :
    ((∀ p ∈ directories.map (·.join (.ofText name)), s.tree.file? p = .ok none) ∧
      s.find? name directories = .ok none) ∨
    (∃ p bytes, s.tree.ComesTo (directories.map (·.join (.ofText name))) p (.ok (some bytes)) ∧
      s.find? name directories = .ok (some (p, bytes))) ∨
    ∃ p e, s.tree.ComesTo (directories.map (·.join (.ofText name))) p (.error e) ∧
      s.find? name directories = .error e := by
  induction directories with
  | nil => exact .inl ⟨nofun, rfl⟩
  | cons directory directories ih =>
      rw [List.map_cons, find?]
      cases hfile : s.tree.file? (directory.join (.ofText name)) with
      | error e => exact .inr (.inr ⟨_, e, .head hfile, rfl⟩)
      | ok found =>
          cases found with
          | some bytes => exact .inr (.inl ⟨_, bytes, .head hfile, rfl⟩)
          | none =>
              rcases ih with ⟨hnone, hfind⟩ | ⟨p, bytes, hcomes, hfind⟩ | ⟨p, e, hcomes, hfind⟩
              · exact .inl ⟨List.forall_mem_cons.mpr ⟨hfile, hnone⟩, hfind⟩
              · exact .inr (.inl ⟨p, bytes, hcomes.cons hfile, hfind⟩)
              · exact .inr (.inr ⟨p, e, hcomes.cons hfile, hfind⟩)

/-- What there is instead of a template that no directory has. -/
def absence (s : FileStore) (name : Text) : Error :=
  .notFound (.inDirectories name (s.directories.map FilePath.text)) (some .templateNotFound)

theorem fetch_cases (s : FileStore) (name : Text) :
    ((∀ p ∈ s.paths name, s.tree.file? p = .ok none) ∧ s.fetch name = .error (s.absence name)) ∨
    (∃ p bytes, s.tree.ComesTo (s.paths name) p (.ok (some bytes)) ∧
      s.fetch name = (s.read bytes).map fun t => .tuple [.text t, .text p.text]) ∨
    ∃ p e, s.tree.ComesTo (s.paths name) p (.error e) ∧ s.fetch name = .error e := by
  rw [fetch]
  rcases s.find?_cases name s.directories with
    ⟨hnone, hfind⟩ | ⟨p, bytes, hcomes, hfind⟩ | ⟨p, e, hcomes, hfind⟩
  · rw [hfind]
    exact .inl ⟨hnone, rfl⟩
  · rw [hfind]
    refine .inr (.inl ⟨p, bytes, hcomes, ?_⟩)
    show (s.read bytes >>= _) = _
    cases s.read bytes <;> rfl
  · rw [hfind]
    exact .inr (.inr ⟨p, e, hcomes, rfl⟩)

/-! ## Listing -/

/-- There is an entry below a directory to search, which is at `base`; `path` leads from there. -/
structure Entry (s : FileStore) (directory : FilePath) (base path : List Text) : Prop where
  mem : directory ∈ s.directories
  locate : s.tree.locate directory = .ok (some base)
  isDirectory : s.tree.isDirectory base = true
  ne_nil : path ≠ []
  listed : ∃ l ∈ s.tree.listed, base ++ path <+: l

/-- The name is that of an entry below a directory to search, which is named like a template. -/
def Lists (s : FileStore) (name : Text) : Prop :=
  ∃ directory base path, s.Entry directory base path ∧
    FileTree.isTemplateName (path.getLastD []) = true ∧ name = Text.join [slash] path

section
variable {α β : Type} {f : α → Except Error β} {xs : List α}

theorem exists_mapM : (∃ ys, xs.mapM f = .ok ys) ↔ ∀ x ∈ xs, ∃ y, f x = .ok y := by
  induction xs with
  | nil => exact ⟨fun _ => nofun, fun _ => ⟨[], rfl⟩⟩
  | cons x xs ih =>
      rw [List.forall_mem_cons, ← ih, List.mapM_cons]
      constructor
      · rintro ⟨_, h⟩
        obtain ⟨y, hy, h⟩ := Traced.bind_eq_ok.mp h
        obtain ⟨ys, hys, -⟩ := Traced.bind_eq_ok.mp h
        exact ⟨⟨y, hy⟩, ys, hys⟩
      · rintro ⟨⟨y, hy⟩, ys, hys⟩
        exact ⟨y :: ys, by rw [hy, hys]; rfl⟩

theorem mem_of_mapM {ys : List β} {y : β} (h : xs.mapM f = .ok ys) :
    y ∈ ys ↔ ∃ x ∈ xs, f x = .ok y := by
  induction xs generalizing ys with
  | nil =>
      rw [List.mapM_nil] at h
      cases h
      simp
  | cons x xs ih =>
      rw [List.mapM_cons] at h
      obtain ⟨z, hz, h⟩ := Traced.bind_eq_ok.mp h
      obtain ⟨zs, hzs, h⟩ := Traced.bind_eq_ok.mp h
      cases h
      simp [ih hzs, hz, eq_comm]

end

theorem exists_list : (∃ names, s.list = .ok names) ↔
    ∀ d ∈ s.directories, ∃ place?, s.tree.locate d = .ok place? := by
  have hlist : (∃ names, s.list = .ok names) ↔
      ∃ locations, s.directories.mapM s.tree.directory? = .ok locations := by
    unfold list
    constructor
    · rintro ⟨names, h⟩
      obtain ⟨locations, hlocations, -⟩ := Traced.bind_eq_ok.mp h
      exact ⟨locations, hlocations⟩
    · rintro ⟨locations, h⟩
      rw [h]
      exact ⟨_, rfl⟩
  rw [hlist, exists_mapM]
  refine forall₂_congr fun d _ => ?_
  exact FileTree.exists_directory?

/-- The list has the names of all entries that are named like templates, and no others. -/
theorem mem_list (h : s.list = .ok names) : name ∈ names ↔ s.Lists name := by
  obtain ⟨locations, hlocations, h⟩ := Traced.bind_eq_ok.mp h
  cases h
  rw [Loader.mem_sortNames, List.mem_flatMap]
  constructor
  · rintro ⟨location?, hlocation, hname⟩
    obtain ⟨directory, hmem, hdirectory⟩ := (mem_of_mapM hlocations).mp hlocation
    cases location? with
    | none => cases hname
    | some base =>
        obtain ⟨hlocate, hbase⟩ := FileTree.directory?_eq_ok_some.mp hdirectory
        obtain ⟨path, hpath, rfl⟩ := List.mem_map.mp hname
        obtain ⟨hbelow, hsuffix⟩ := List.mem_filter.mp hpath
        obtain ⟨hne, hlisted⟩ := FileTree.mem_below.mp hbelow
        exact ⟨directory, base, path, ⟨hmem, hlocate, hbase, hne, hlisted⟩, hsuffix, rfl⟩
  · rintro ⟨directory, base, path, hentry, hsuffix, rfl⟩
    have hdirectory := FileTree.directory?_eq_ok_some.mpr ⟨hentry.locate, hentry.isDirectory⟩
    refine ⟨some base, (mem_of_mapM hlocations).mpr ⟨directory, hentry.mem, hdirectory⟩, ?_⟩
    have hbelow := FileTree.mem_below.mpr ⟨hentry.ne_nil, hentry.listed⟩
    exact List.mem_map_of_mem (List.mem_filter.mpr ⟨hbelow, hsuffix⟩)

/-! ## Fetching what is listed -/

theorem Entry.isName (ht : s.tree.Proper) (h : s.Entry directory base path) :
    ∀ part ∈ path, FilePath.IsName part := by
  obtain ⟨l, hl, hpre⟩ := h.listed
  exact fun part hpart => ht.isName l hl part (hpre.subset (List.mem_append_right _ hpart))

theorem Entry.byteCount_le (ht : s.tree.Proper) (h : s.Entry directory base path) :
    ∀ part ∈ path, FilePath.byteCount part ≤ FilePath.maxPartBytes := by
  obtain ⟨l, hl, hpre⟩ := h.listed
  exact fun part hpart => ht.byteCount_le l hl part (hpre.subset (List.mem_append_right _ hpart))

theorem Entry.ofText (ht : s.tree.Proper) (h : s.Entry directory base path) :
    FilePath.ofText (Text.join [slash] path) = ⟨[], path⟩ :=
  FilePath.ofText_join h.ne_nil (h.isName ht)

theorem Entry.not_hasZero (ht : s.tree.Proper) (h : s.Entry directory base path) :
    ¬ (directory.join ⟨[], path⟩).HasZero := by
  rw [FilePath.hasZero_join, not_or]
  refine ⟨FileTree.not_hasZero_of_locate h.locate, ?_⟩
  rintro ⟨part, hpart, c, hmem, hc⟩
  exact (h.isName ht part hpart).val_ne_zero c hmem hc

theorem Entry.file? (ht : s.tree.Proper) (h : s.Entry directory base path)
    (hshort : FilePath.byteCount (directory.join ⟨[], path⟩).text ≤ FilePath.maxPathBytes) :
    s.tree.file? (directory.join ⟨[], path⟩) = .ok (s.tree.files.lookup (base ++ path)) := by
  obtain ⟨l, hl, hpre⟩ := h.listed
  have hlocate : s.tree.locate (directory.join ⟨[], path⟩) = .ok (some (base ++ path)) := by
    rw [FileTree.locate_join h.locate (fun part hpart => (h.isName ht part hpart).val_ne_zero)
      hshort, ht.walk_listed hl hpre]
  rw [FileTree.file?, hlocate]
  rfl

/-- The text of the first file of the name is what is fetched. -/
def Fetches (s : FileStore) (name : Text) : Prop :=
  ∃ p bytes t, s.tree.ComesTo (s.paths name) p (.ok (some bytes)) ∧ s.read bytes = .ok t ∧
    s.fetch name = .ok (.tuple [.text t, .text p.text])

/-- The name leads to no file, and every entry that it is the name of is a directory. -/
def OnlyDirectories (s : FileStore) (name : Text) : Prop :=
  (∀ p ∈ s.paths name, s.tree.file? p = .ok none) ∧
    ∀ directory base path, s.Entry directory base path → name = Text.join [slash] path →
      s.tree.isDirectory (base ++ path) = true

/-- The name of an entry leads to nothing but what is below a directory to search. -/
theorem Entry.exists_base {bytes : List UInt8} (ht : s.tree.Proper) (hlist : s.list = .ok names)
    (h : s.Entry directory base path) (hp : p ∈ s.paths (Text.join [slash] path))
    (hfile : s.tree.file? p = .ok (some bytes)) :
    ∃ directory' ∈ s.directories, ∃ base', s.tree.locate directory' = .ok (some base') ∧
      s.tree.files.lookup (base' ++ path) = some bytes := by
  obtain ⟨directory', hmem, rfl⟩ := List.mem_map.mp hp
  rw [h.ofText ht] at hfile
  obtain ⟨place, hlocate, hlookup⟩ := FileTree.file?_eq_ok_some.mp hfile
  obtain ⟨base'?, hbase⟩ := exists_list.mp ⟨names, hlist⟩ directory' hmem
  obtain ⟨base', rfl, hwalk⟩ := FileTree.exists_of_locate_join hbase hlocate
  refine ⟨directory', hmem, base', hbase, ?_⟩
  have habove : (".." : Text) ∉ path := fun hpart => (h.isName ht _ hpart).ne_above rfl
  rwa [← FileTree.eq_append_of_walk habove hwalk]

/-- A path that a listed name is looked for at is an error only if it is too long. -/
theorem Lists.of_file?_eq_error (ht : s.tree.Proper) (hlist : s.list = .ok names)
    (h : s.Lists name) (hp : p ∈ s.paths name) (he : s.tree.file? p = .error e) :
    FilePath.maxPathBytes < FilePath.byteCount p.text ∧ e = .nameTooLong p.text := by
  obtain ⟨directory, base, path, hentry, -, rfl⟩ := h
  obtain ⟨directory', hmem, rfl⟩ := List.mem_map.mp hp
  rw [hentry.ofText ht] at he ⊢
  rw [FileTree.file?_eq_error] at he
  obtain ⟨place?, hplace⟩ := exists_list.mp ⟨names, hlist⟩ directory' hmem
  have hlong : FilePath.maxPathBytes < FilePath.byteCount (directory'.join ⟨[], path⟩).text := by
    refine Nat.lt_of_not_le fun hshort => ?_
    obtain ⟨place?', hok⟩ := FileTree.exists_locate_join hplace (hentry.byteCount_le ht) hshort
    cases hok.symm.trans he
  refine ⟨hlong, ?_⟩
  by_cases hzero : (directory'.join ⟨[], path⟩).HasZero
  · cases (FileTree.locate_of_hasZero hzero).symm.trans he
  · cases (FileTree.locate_of_long hzero hlong).symm.trans he
    rfl

/-- A listed name that leads to no file is that of directories. -/
theorem onlyDirectories_of_forall (ht : s.tree.Proper)
    (h : ∀ p ∈ s.paths name, s.tree.file? p = .ok none) : s.OnlyDirectories name := by
  refine ⟨h, ?_⟩
  rintro directory base path hentry rfl
  have hnone := h _ (List.mem_map_of_mem hentry.mem)
  rw [hentry.ofText ht] at hnone
  have hshort : FilePath.byteCount (directory.join ⟨[], path⟩).text ≤ FilePath.maxPathBytes := by
    refine Nat.le_of_not_lt fun hlong => ?_
    have herror := FileTree.locate_of_long (t := s.tree) (hentry.not_hasZero ht) hlong
    cases (FileTree.file?_eq_error.mpr herror).symm.trans hnone
  obtain ⟨l, hl, hpre⟩ := hentry.listed
  refine (FileTree.isDirectory_or_file hl hpre).resolve_right ?_
  rintro ⟨bytes, hbytes⟩
  rw [hentry.file? ht hshort, hbytes] at hnone
  cases hnone

/-- The files below the directories to search can be read. -/
def Legible (s : FileStore) : Prop :=
  ∀ directory ∈ s.directories, ∀ base, s.tree.locate directory = .ok (some base) →
    ∀ f ∈ s.tree.files, base <+: f.1 → ∃ t, s.read f.2 = .ok t

/-- **What is listed can be fetched, unless it is a directory.**  There is a list just if every
directory can be looked up.  It is strictly ascending and has the names of all entries that are
named like templates.  Fetching a name in it gives the text of the first file of that name; or
there is none, as all entries of the name are directories; or a path is too long. -/
theorem fetch_listed (ht : s.tree.Proper) (hread : s.Legible) :
    ((∃ names, s.list = .ok names) ↔
      ∀ d ∈ s.directories, ∃ place?, s.tree.locate d = .ok place?) ∧
    ∀ names, s.list = .ok names →
      names.Pairwise (· < ·) ∧ (∀ name, name ∈ names ↔ s.Lists name) ∧
      ∀ name ∈ names, s.Fetches name ∨
        (s.OnlyDirectories name ∧ s.fetch name = .error (s.absence name)) ∨
        ∃ p, s.tree.ComesTo (s.paths name) p (.error (.nameTooLong p.text)) ∧
          FilePath.maxPathBytes < FilePath.byteCount p.text ∧
          s.fetch name = .error (.nameTooLong p.text) := by
  refine ⟨exists_list, ?_⟩
  intro names hlist
  refine ⟨?_, fun name => mem_list hlist, ?_⟩
  · obtain ⟨locations, -, h⟩ := Traced.bind_eq_ok.mp hlist
    cases h
    exact Loader.pairwise_sortNames _
  intro name hname
  rcases s.fetch_cases name with
    ⟨hnone, hfetch⟩ | ⟨p, bytes, hcomes, hfetch⟩ | ⟨p, e, hcomes, hfetch⟩
  · exact .inr (.inl ⟨onlyDirectories_of_forall ht hnone, hfetch⟩)
  · obtain ⟨directory, base, path, hentry, -, rfl⟩ := (mem_list hlist).mp hname
    obtain ⟨directory', hmem, base', hlocate, hlookup⟩ :=
      hentry.exists_base ht hlist hcomes.mem hcomes.file?
    obtain ⟨before, after, heq, -⟩ := List.lookup_eq_some_iff.mp hlookup
    obtain ⟨t, ht'⟩ := hread directory' hmem base' hlocate (base' ++ path, bytes)
      (heq ▸ List.mem_append_right _ List.mem_cons_self) (List.prefix_append _ _)
    exact .inl ⟨p, bytes, t, hcomes, ht', by rw [hfetch, ht']; rfl⟩
  · obtain ⟨hlong, rfl⟩ :=
      Lists.of_file?_eq_error ht hlist ((mem_list hlist).mp hname) hcomes.mem hcomes.file?
    exact .inr (.inr ⟨p, hcomes, hlong, hfetch⟩)

/-- A file of two directories to search, of which one is in the other.  A search starts at the root,
one goes up from the working directory, and elsewhere there is a file that cannot be read. -/
theorem fetch_listed_overlapping :
    let tree : FileTree :=
      { files := [(["srv", "base", "sub", "row.html"], [0x72]), (["tmp", "w", "nav.tmpl"], [0x6e]),
          (["bin", "x"], [0xff])]
        directories := [["srv", "sub"]]
        workingDirectory := ["tmp", "w"] }
    let directories : List FilePath :=
      [.ofText "../w", .ofText "/srv/base", .ofText "/srv/base/sub"]
    let s : FileStore := ⟨tree, directories, "utf-8"⟩
    s.tree.Proper ∧ s.Legible ∧
      ∃ names, s.list = .ok names ∧ ("sub/row.html" : Text) ∈ names ∧ s.Fetches "sub/row.html" := by
  intro tree directories s
  have ht : s.tree.Proper := by decide
  have hread : s.Legible := by
    refine List.forall_mem_cons.mpr ⟨?_, List.forall_mem_cons.mpr
      ⟨?_, List.forall_mem_singleton.mpr ?_⟩⟩
    all_goals
      intro base hbase
      obtain rfl := Option.some.inj (Except.ok.inj hbase)
      -- no directory to search is above the third file
      exact List.forall_mem_cons.mpr ⟨fun _ => ⟨"r", rfl⟩, List.forall_mem_cons.mpr
        ⟨fun _ => ⟨"n", rfl⟩, List.forall_mem_singleton.mpr fun h => absurd h (by decide)⟩⟩
  obtain ⟨names, hlist⟩ : ∃ names, s.list = .ok names := by
    refine (fetch_listed ht hread).1.mpr ?_
    exact List.forall_mem_cons.mpr ⟨⟨_, rfl⟩, List.forall_mem_cons.mpr
      ⟨⟨_, rfl⟩, List.forall_mem_singleton.mpr ⟨_, rfl⟩⟩⟩
  have hentry : s.Entry ⟨"/", ["srv", "base"]⟩ ["srv", "base"] ["sub", "row.html"] :=
    ⟨by decide, rfl, rfl, by decide, _, List.mem_cons_self, List.prefix_refl _⟩
  have hname : ("sub/row.html" : Text) ∈ names :=
    ((fetch_listed ht hread).2 names hlist).2.1 _ |>.mpr ⟨_, _, _, hentry, by decide, rfl⟩
  refine ⟨ht, hread, names, hlist, hname, ?_⟩
  refine (((fetch_listed ht hread).2 names hlist).2.2 _ hname).resolve_right ?_
  rintro (⟨⟨hnone, -⟩, -⟩ | ⟨p, hcomes, hlong, -⟩)
  · cases hnone ⟨"/", ["srv", "base", "sub", "row.html"]⟩ (by decide)
  · have hshort : ∀ p ∈ s.paths "sub/row.html",
        FilePath.byteCount p.text ≤ FilePath.maxPathBytes := by decide
    exact Nat.not_lt.mpr (hshort p hcomes.mem) hlong

/-- A directory that is named like a template is listed, and there is no template of the name. -/
theorem directory_listed_not_fetched :
    let s : FileStore := ⟨⟨[], [["tmp", "d", "x.tmpl"]], ["tmp"]⟩, [.ofText "d"], "utf-8"⟩
    s.tree.Proper ∧ s.Legible ∧ s.list = .ok ["x.tmpl"] ∧
      s.fetch "x.tmpl" =
        .error (.notFound (.inDirectories "x.tmpl" ["d"]) (some .templateNotFound)) := by
  refine ⟨by decide, fun _ _ _ _ => nofun, ?_, rfl⟩
  decide +kernel

end FileStore

end TagTemplate
