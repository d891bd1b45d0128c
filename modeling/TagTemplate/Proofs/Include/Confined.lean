/-
# Includes stay in the directories

A loader of files takes any path for a name: one that starts at the root, or that leads
through the directory above.  What a template can include is less:

    names        name parts only, so no slash, no code point zero, no path from the root
    `.`, `..`    are directories, and no files
    the rest     a file directly in one of the directories to search, or none

This is so for every source, and so for all the sources that are included while another one
compiles.  What a compilation seeks is read off its events, one by one (`Traced.Each`): the
includes it asks for, and what became of fetching them.  None of them is about a name that
is not in the tokens of some source (`Environment.Seeks`).
-/
import TagTemplate.Proofs.Include.Chains
import TagTemplate.Proofs.Loader.Files

namespace TagTemplate

open FilePath (slash)

open Traced

/-! ## What a compilation seeks -/

/-- The name of the template that is being included, for the events on the way to it. -/
def Event.sought? : Event → Option Text
  | including request => some request.name
  | fetched location _ | notFetched location _ => some location
  | _ => none

/-- The property is one of what is sought alone. -/
def SparesOthers (P : Event → Prop) : Prop := ∀ event : Event, event.sought? = none → P event

namespace Compilation

variable {c : Compilation} {P : Event → Prop} {t : Token} {ts : List Token}

theorem each_report (hP : SparesOthers P) (place : Position) (issue : Issue) :
    (c.report place issue).Each P := by
  rw [report]
  split
  · exact each_fail _
  · exact each_emit (hP _ rfl)

theorem each_step (hP : SparesOthers P)
    (h : ∀ name, t.content = .inclusion name → (c.fetchText name).Each P) (d : Draft) :
    (c.step d t).Each P := by
  rw [step_eq]
  refine Each.bind ?_ fun _ _ => ?_
  · cases t.issue? d.opened with
    | none => exact each_pure _
    | some issue => exact each_report hP _ issue
  · unfold apply
    cases hcontent : t.content with
    | inclusion name => exact (h name hcontent).bind fun _ _ => each_pure _
    | _ => exact each_pure _

theorem each_steps (hP : SparesOthers P)
    (h : ∀ t ∈ ts, ∀ name, t.content = .inclusion name → (c.fetchText name).Each P) (d : Draft) :
    (c.steps d ts).Each P := by
  induction ts generalizing d with
  | nil => exact each_pure _
  | cons t ts ih =>
      obtain ⟨ht, hts⟩ := List.forall_mem_cons.mp h
      exact (each_step hP ht d).bind fun d' _ => ih hts d'

theorem each_closeAll (hP : SparesOthers P) (d : Draft) (blocks : List OpenBlock) :
    (c.closeAll d blocks).Each P := by
  induction blocks generalizing d with
  | nil => exact each_pure _
  | cons block blocks ih => exact (each_report hP _ _).bind fun _ _ => ih _

theorem each_compile (hP : SparesOthers P)
    (h : ∀ t ∈ ts, ∀ name, t.content = .inclusion name → (c.fetchText name).Each P) :
    (c.compile ts).Each P := by
  refine (each_steps hP h _).bind fun d _ => (each_closeAll hP _ _).bind fun d' _ => ?_
  exact (each_emit (hP _ rfl)).bind fun _ _ => each_pure _

end Compilation

namespace Environment

variable {env : Environment} {context : Context} {data : Value} {source name : Text} {room : Nat}
  {event : Event}

/-- An event on the way to an include is about a name in the tokens of a source: the include is
asked for, or its template is fetched. -/
def Seeks (env : Environment) (event : Event) : Prop :=
  ∀ name, event.sought? = some name → (∃ source, name ∈ env.inclusions source) ∧
    ((∃ request, event = .including request) ∨ event ∈ (env.fetch name).events)

theorem sparesOthers_seeks : SparesOthers env.Seeks := by
  intro event h name hname
  rw [h] at hname
  cases hname

theorem sought?_of_fetch (h : event ∈ (env.fetch name).events) : event.sought? = some name := by
  unfold fetch at h
  split at h
  · cases h
  split at h
  · cases List.mem_singleton.mp h
    rfl
  split at h
  · cases h
  · cases List.mem_singleton.mp h
    rfl

theorem result_of_fetched {location : Text} {filename : Value}
    (h : .fetched location filename ∈ (env.fetch name).events) :
    ∃ found, (env.fetch name).result = .ok (found, filename) := by
  unfold fetch at h ⊢
  split at h
  · cases h
  split at h
  · cases List.mem_singleton.mp h
  split at h
  · cases h
  · next hholds =>
      cases List.mem_singleton.mp h
      rw [if_neg hholds]
      exact ⟨_, rfl⟩

variable [Traits]

theorem each_compileWithin_of_includeText
    (h : ∀ request : IncludeRequest, (∃ source, request.name ∈ env.inclusions source) →
      (env.includeText room request).Each env.Seeks)
    (context : Context) (data : Value) (source : Text) :
    (env.compileWithin room context data source).Each env.Seeks := by
  rw [compileWithin_eq]
  refine (each_of _).bind fun tokens htokens => ?_
  refine Compilation.each_compile sparesOthers_seeks fun t ht name hname => ?_
  have hmem : ∃ source, name ∈ env.inclusions source :=
    ⟨source, mem_inclusions.mpr ⟨tokens, htokens, t, ht, hname⟩⟩
  refine (each_of _).bind fun _ _ => Each.bind ?_ fun _ _ => h _ hmem
  refine each_emit fun name' hname' => ?_
  cases hname'
  exact ⟨hmem, .inl ⟨_, rfl⟩⟩

/-- What an include seeks, its own template and what that includes, is in the tokens of a source.
The induction is on the room for includes. -/
theorem each_includeText (request : IncludeRequest)
    (h : ∃ source, request.name ∈ env.inclusions source) :
    (env.includeText room request).Each env.Seeks := by
  induction room generalizing request with
  | zero => exact each_fail _
  | succ room ih =>
      refine Each.bind (fun event hevent name hname => ?_) fun found _ => ?_
      · cases (sought?_of_fetch hevent).symm.trans hname
        exact ⟨h, .inr hevent⟩
      refine (each_of _).bind fun stored _ => Each.bind ?_ fun program _ => each_of _
      exact each_compileWithin_of_includeText ih _ _ _

/-- Whatever a compilation seeks is in the tokens of a source: of the one that is compiled, or of
one that was fetched. -/
theorem seeks_of_mem_events (h : event ∈ (env.compile context data source).events) :
    env.Seeks event :=
  each_compileWithin_of_includeText each_includeText context data source event h

end Environment

/-! ## Files in the directories -/

namespace FileStore

variable {s : FileStore} {name : Text} {p : FilePath} {bytes : List UInt8}

def Rooted (s : FileStore) : Prop :=
  ∀ directory ∈ s.directories, ∃ place, s.tree.locate directory = .ok (some place) ∧
    s.tree.isDirectory place = true

/-- The file of a name lies directly in one of the directories to search. -/
def Holds (s : FileStore) (name : Text) (p : FilePath) (bytes : List UInt8) : Prop :=
  ∃ directory ∈ s.directories, ∃ base, s.tree.locate directory = .ok (some base) ∧
    p = directory.join ⟨[], [name]⟩ ∧ s.tree.files.lookup (base ++ [name]) = some bytes

/-- A name without slashes leads to no other files than those directly in a directory to search. -/
theorem holds_of_find? (ht : s.tree.Proper) (hs : s.Rooted) (hslash : slash ∉ name)
    (h : s.find? name s.directories = .ok (some (p, bytes))) :
    (name ≠ "." ∧ name ≠ "..") ∧ s.Holds name p bytes := by
  rcases s.find?_cases name s.directories with
    ⟨-, hfind⟩ | ⟨p', bytes', hcomes, hfind⟩ | ⟨p', e, -, hfind⟩
  · cases hfind.symm.trans h
  · cases hfind.symm.trans h
    obtain ⟨directory, hmem, hp⟩ := List.mem_map.mp hcomes.mem
    obtain ⟨base, hlocate, hdirectory⟩ := hs directory hmem
    have hfile := hcomes.file?
    rw [← hp] at hfile
    obtain ⟨hdots, htext, hlookup⟩ := ht.of_file?_join hlocate hdirectory hslash hfile
    refine ⟨hdots, directory, hmem, base, hlocate, ?_, hlookup⟩
    rw [← hp, htext]
  · cases hfind.symm.trans h

end FileStore

/-- Where a name can lead that names one part of a path: not to the root, and to nothing that is not
in a directory. -/
structure FilePath.IsLocal (name : Text) : Prop where
  slash_notMem : slash ∉ name
  val_ne_zero : ∀ c ∈ name, c.val ≠ 0
  root : (FilePath.ofText name).root = []

theorem FilePath.isLocal_of_isNamePart {name : Text} (h : ∀ c ∈ name, Tag.isNamePart c = true) :
    IsLocal name := by
  have hpart : ∀ c ∈ name, c.val ≠ slash.val ∧ c.val ≠ 0 := by
    intro c hc
    have hc' := Tag.isNamePart_iff.mp (h c hc)
    have hslash : slash.val = 0x2f := rfl
    rcases c.fold_cases with hfold | hfold
    · rw [hfold] at hc'
      omega
    · omega
  have hslash : slash ∉ name := fun hmem => (hpart slash hmem).1 rfl
  exact ⟨hslash, fun c hc => (hpart c hc).2, by rw [FilePath.ofText_of_not_mem hslash]⟩

namespace Environment

variable {env : Environment} {s : FileStore} {name : Text}

/-- What including a name can come to: it names a part of a path, it leads to no other file than
one directly in a directory to search, and its text is that of this file, or there is none. -/
structure Confines (env : Environment) (s : FileStore) (name : Text) : Prop where
  isLocal : FilePath.IsLocal name
  holds : ∀ p bytes, s.find? name s.directories = .ok (some (p, bytes)) → s.Holds name p bytes
  fetch : (∃ e, (env.fetch name).result = .error e) ∨ ∃ p bytes t, s.Holds name p bytes ∧
    s.read bytes = .ok t ∧ (env.fetch name).result = .ok (.text t, .text p.text)

theorem exists_of_fetch (hloader : env.loader = some (.files s)) {found : Value × Value}
    (h : (env.fetch name).result = .ok found) :
    ∃ p bytes t, s.find? name s.directories = .ok (some (p, bytes)) ∧ s.read bytes = .ok t ∧
      found = (.text t, .text p.text) := by
  have hpair : s.fetch name >>= Value.pair = .ok found := by
    simp only [fetch, hloader] at h
    split at h
    · cases h
    · next heq =>
        split at h
        · cases h
        · cases h
          exact heq
  obtain ⟨answer, hanswer, hpair⟩ := Traced.bind_eq_ok.mp hpair
  obtain ⟨found?, hfind, hanswer⟩ := Traced.bind_eq_ok.mp hanswer
  cases found? with
  | none => cases hanswer
  | some file =>
      obtain ⟨p, bytes⟩ := file
      obtain ⟨t, hread, hanswer⟩ := Traced.bind_eq_ok.mp hanswer
      cases hanswer
      cases hpair
      exact ⟨p, bytes, t, hfind, hread, rfl⟩

theorem confines_of_isLocal (hloader : env.loader = some (.files s)) (ht : s.tree.Proper)
    (hs : s.Rooted) (h : FilePath.IsLocal name) : env.Confines s name := by
  refine ⟨h, fun p bytes hfind => (FileStore.holds_of_find? ht hs h.slash_notMem hfind).2, ?_⟩
  cases hfetch : (env.fetch name).result with
  | error e => exact .inl ⟨e, rfl⟩
  | ok found =>
      obtain ⟨p, bytes, t, hfind, hread, rfl⟩ := exists_of_fetch hloader hfetch
      exact .inr ⟨p, bytes, t, (FileStore.holds_of_find? ht hs h.slash_notMem hfind).2, hread, rfl⟩

theorem isLocal_of_mem_inclusions {source : Text} (h : name ∈ env.inclusions source) :
    FilePath.IsLocal name := FilePath.isLocal_of_isNamePart (isNamePart_of_mem_inclusions h).2

section

variable [Traits]

/-- **Includes stay in the directories to search.**  What tokens include is local, and dots alone
are no files; so whatever a compilation asks for, at any depth of includes, is a file directly in
one of the directories, or fails. -/
theorem includes_confined (hloader : env.loader = some (.files s)) (ht : s.tree.Proper)
    (hs : s.Rooted) :
    (∀ (keepNewlines : Bool) (source name : Text) (tokens : List Token) (t : Token),
      Token.ofSource keepNewlines source = .ok tokens → t ∈ tokens → t.content = .inclusion name →
        FilePath.IsLocal name) ∧
    (∀ p bytes, s.find? "." s.directories ≠ .ok (some (p, bytes)) ∧
      s.find? ".." s.directories ≠ .ok (some (p, bytes))) ∧
    ∀ (context : Context) (data : Value) (source : Text),
      (∀ request, .including request ∈ (env.compile context data source).events →
        env.Confines s request.name) ∧
      ∀ location filename, .fetched location filename ∈ (env.compile context data source).events →
        ∃ p bytes, s.Holds location p bytes ∧ filename = .text p.text := by
  refine ⟨?_, ?_, ?_⟩
  · intro keepNewlines source name tokens t htokens hmem hname
    exact FilePath.isLocal_of_isNamePart (isNamePart_of_inclusion htokens hmem hname).2
  · intro p bytes
    constructor
    · intro h
      exact (FileStore.holds_of_find? ht hs (by decide) h).1.1 rfl
    · intro h
      exact (FileStore.holds_of_find? ht hs (by decide) h).1.2 rfl
  intro context data source
  constructor
  · intro request h
    obtain ⟨⟨source, hmem⟩, -⟩ := seeks_of_mem_events h _ rfl
    exact confines_of_isLocal hloader ht hs (isLocal_of_mem_inclusions hmem)
  · intro location filename h
    obtain ⟨⟨source, hmem⟩, ⟨request, heq⟩ | hfetched⟩ := seeks_of_mem_events h _ rfl
    · cases heq
    · have hlocal := isLocal_of_mem_inclusions hmem
      obtain ⟨found, hfound⟩ := result_of_fetched hfetched
      obtain ⟨p, bytes, t, hfind, -, heq⟩ := exists_of_fetch hloader hfound
      cases heq
      exact ⟨p, bytes, (FileStore.holds_of_find? ht hs hlocal.slash_notMem hfind).2, rfl⟩

end

attribute [local instance] Traits.bare

/-- An include in an included template.  A search starts at the root, one goes up from the working
directory, and a file above is one that the loader gives to whoever asks. -/
theorem includes_confined_nested :
    let tree : FileTree :=
      { files := [(["srv", "t", "nav.tmpl"], "<TMPL_INCLUDE row.html>".toUTF8.toList),
          (["tmp", "t", "row.html"], [0x72]), (["srv", "secret"], [0x73])]
        directories := []
        workingDirectory := ["tmp", "w"] }
    let s : FileStore := ⟨tree, [.ofText "/srv/t", .ofText "../t"], "utf-8"⟩
    let env : Environment := .make (some (.files s)) true true 10 .standard
    s.tree.Proper ∧ s.Rooted ∧
      (∃ found, s.find? "../secret" s.directories = .ok (some found)) ∧
      ∃ filename, .fetched "row.html" filename ∈
        (env.compile (env.context none) .null "<TMPL_INCLUDE nav.tmpl>").events ∧
      ∃ p bytes, s.Holds "row.html" p bytes ∧ filename = .text p.text := by
  intro tree s env
  have ht : s.tree.Proper := by decide
  have hs : s.Rooted := List.forall_mem_cons.mpr
    ⟨⟨_, rfl, by decide⟩, List.forall_mem_singleton.mpr ⟨_, rfl, by decide⟩⟩
  have hsome : (env.compile (env.context none) .null "<TMPL_INCLUDE nav.tmpl>").events.any
      (fun event => match event with
        | .fetched location _ => location == "row.html"
        | _ => false) = true := by
    decide +kernel
  obtain ⟨event, hevent, hlocation⟩ := List.any_eq_true.mp hsome
  refine ⟨ht, hs, ⟨_, rfl⟩, ?_⟩
  cases event with
  | fetched location filename =>
      obtain rfl := eq_of_beq hlocation
      exact ⟨filename, hevent, ((includes_confined rfl ht hs).2.2 _ _ _).2 _ _ hevent⟩
  | _ => cases hlocation

end Environment

end TagTemplate
