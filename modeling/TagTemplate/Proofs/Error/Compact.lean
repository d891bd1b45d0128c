/-
# Compact messages — which errors lead with their code

A message is made of wording and of texts from outside: names, locations, a line of a source, what
a loader says.  In its compact form the code comes first, unless it is in the message already.

    H-PAR-001: Syntax Error: … closes …  --> page.tmpl:4:0  4 | …line…
               ~~~~~~~~~~~~~~ ~~~~~~~~   ~~~~          ~~~~~~~~~        wording
                             detail          name                line   from outside

The wording has no code in it, since all codes begin with a capital letter that it does not have
(`initial`), and no code straddles the border of a text, since next to the border the wording has a
code point that no code has (`IsApart`).  So a code is in a message just if it is in one of the
texts (`Embeds`), and the error leads with its code just if none of them has it
(`compact_cases`).  Which texts these are is a function of the error (`carried`).
-/
import TagTemplate.Error
import TagTemplate.Proofs.Text.Numerals
import TagTemplate.Proofs.Token.Lines

namespace TagTemplate

/-! ## Parts of a text -/

namespace Text

variable {part t u : Text} {s : CodePoint}

theorem hasPart_iff_infix (part t : Text) : part.hasPart t = true ↔ part <:+: t := by
  induction t with
  | nil => rw [hasPart, List.isEmpty_iff, List.infix_nil]
  | cons c t ih =>
      rw [hasPart, Bool.or_eq_true, List.isPrefixOf_iff_prefix, ih, List.infix_cons_iff]

theorem prefix_append_cons_iff (hs : s ∉ part) : part <+: t ++ s :: u ↔ part <+: t := by
  refine ⟨fun h => ?_, fun h => h.trans (List.prefix_append t _)⟩
  induction t generalizing part with
  | nil =>
      rcases List.prefix_cons_iff.mp h with rfl | ⟨part, rfl, -⟩
      · exact List.nil_prefix
      · exact absurd List.mem_cons_self hs
  | cons c t ih =>
      rcases List.prefix_cons_iff.mp h with rfl | ⟨part, rfl, hpart⟩
      · exact List.nil_prefix
      · have hs : s ∉ part := fun hmem => hs (List.mem_cons_of_mem _ hmem)
        exact List.cons_prefix_cons.mpr ⟨rfl, ih hs hpart⟩

/-- A part does not reach over a code point that it does not have. -/
theorem infix_append_cons_iff (hs : s ∉ part) :
    part <:+: t ++ s :: u ↔ part <:+: t ∨ part <:+: u := by
  induction t with
  | nil =>
      rw [List.nil_append, List.infix_cons_iff, List.infix_nil]
      refine or_congr_left ⟨fun h => ?_, fun h => h ▸ List.nil_prefix⟩
      exact List.prefix_nil.mp ((prefix_append_cons_iff (t := []) hs).mp h)
  | cons c t ih =>
      rw [List.cons_append, List.infix_cons_iff, List.infix_cons_iff, ih, or_assoc]
      exact or_congr_left (prefix_append_cons_iff (t := c :: t) hs)

end Text

/-! ## Codes in a message -/

namespace ErrorCode

/-- What every code begins with. -/
def initial : CodePoint := .ofChar 'H'

theorem exists_text_eq_cons (code : ErrorCode) : ∃ rest, code.text = initial :: rest := by
  cases code <;> exact ⟨_, rfl⟩

theorem mem_all (code : ErrorCode) : code ∈ all := by
  cases code <;> decide

/-- No code has the code point. -/
def IsApart (s : CodePoint) : Prop := ∀ code : ErrorCode, s ∉ code.text

instance (s : CodePoint) : Decidable (IsApart s) :=
  decidable_of_iff (∀ code ∈ all, s ∉ code.text)
    ⟨fun h code => h code code.mem_all, fun h code _ => h code⟩

/-- Wording after which a text can come. -/
structure Introduces (w : Text) : Prop where
  initial_not_mem : initial ∉ w
  isApart : ∃ s ∈ w.getLast?, IsApart s

/-- Wording that can come after a text. -/
structure Concludes (w : Text) : Prop where
  initial_not_mem : initial ∉ w
  isApart : ∃ s ∈ w.head?, IsApart s

instance (w : Text) : Decidable (Introduces w) :=
  decidable_of_iff (initial ∉ w ∧ ∃ s ∈ w.getLast?, IsApart s)
    ⟨fun h => ⟨h.1, h.2⟩, fun h => ⟨h.1, h.2⟩⟩

instance (w : Text) : Decidable (Concludes w) :=
  decidable_of_iff (initial ∉ w ∧ ∃ s ∈ w.head?, IsApart s)
    ⟨fun h => ⟨h.1, h.2⟩, fun h => ⟨h.1, h.2⟩⟩

variable {v w m m' : Text} {ts us : List Text} {s : CodePoint}

theorem Introduces.prepend (hv : initial ∉ v) (hw : Introduces w) : Introduces (v ++ w) := by
  obtain ⟨hmem, s, hs, hapart⟩ := hw
  obtain ⟨w, rfl⟩ := List.getLast?_eq_some_iff.mp hs
  refine ⟨List.not_mem_append hv hmem, s, ?_, hapart⟩
  exact List.getLast?_eq_some_iff.mpr ⟨v ++ w, (List.append_assoc v w [s]).symm⟩

theorem Concludes.append (hw : Concludes w) (hv : initial ∉ v) : Concludes (w ++ v) := by
  obtain ⟨hmem, s, hs, hapart⟩ := hw
  obtain ⟨w, rfl⟩ := List.head?_eq_some_iff.mp hs
  exact ⟨List.not_mem_append hmem hv, s, rfl, hapart⟩

theorem initial_not_mem_ofInt (n : Int) : initial ∉ Text.ofInt n := by
  intro h
  rcases Text.of_mem_ofInt h with h | h
  · exact absurd h (by decide)
  · exact absurd h.2 (by decide)

/-- A code is in the message just if it is in one of the texts. -/
def Embeds (m : Text) (ts : List Text) : Prop :=
  ∀ code : ErrorCode, code.text <:+: m ↔ ∃ t ∈ ts, code.text <:+: t

theorem embeds_wording (hw : initial ∉ w) : Embeds w [] := by
  intro code
  refine iff_of_false (fun h => hw ?_) nofun
  obtain ⟨rest, hcode⟩ := code.exists_text_eq_cons
  exact h.subset (hcode ▸ List.mem_cons_self)

theorem embeds_self (t : Text) : Embeds t [t] := by
  intro code
  simp

namespace Embeds

theorem apart (h : Embeds m ts) (hs : IsApart s) (h' : Embeds m' us) :
    Embeds (m ++ s :: m') (ts ++ us) := by
  intro code
  rw [Text.infix_append_cons_iff (hs code), h code, h' code]
  simp only [List.mem_append, or_and_right, exists_or]

theorem before (h : Embeds m ts) (hw : Concludes w) : Embeds (m ++ w) ts := by
  obtain ⟨hmem, s, hs, hapart⟩ := hw
  obtain ⟨w, rfl⟩ := List.head?_eq_some_iff.mp hs
  rw [← List.append_nil ts]
  exact h.apart hapart (embeds_wording fun h => hmem (List.mem_cons_of_mem _ h))

theorem after (hw : Introduces w) (h : Embeds m ts) : Embeds (w ++ m) ts := by
  obtain ⟨hmem, s, hs, hapart⟩ := hw
  obtain ⟨w, rfl⟩ := List.getLast?_eq_some_iff.mp hs
  rw [List.append_assoc]
  exact (embeds_wording fun h => hmem (List.mem_append_left _ h)).apart hapart h

theorem maybe {p : Prop} [Decidable p] (h : Embeds m ts) (hw : Concludes w) :
    Embeds (m ++ if p then w else []) ts := by
  split
  · exact h.before hw
  · rwa [List.append_nil]

/-- Wording between two messages keeps codes from reaching from one to the other. -/
theorem between (h : Embeds m ts) (hconcludes : Concludes w) (hintroduces : Introduces w)
    (h' : Embeds m' us) : Embeds (m ++ w ++ m') (ts ++ us) := by
  obtain ⟨hmem, s, hs, hapart⟩ := hintroduces
  obtain ⟨v, rfl⟩ := List.getLast?_eq_some_iff.mp hs
  rw [← List.append_assoc, List.append_assoc, List.singleton_append]
  refine Embeds.apart ?_ hapart h'
  cases v with
  | nil => rwa [List.append_nil]
  | cons c v =>
      obtain ⟨c', hc, hapart⟩ := hconcludes.isApart
      exact h.before ⟨fun h => hmem (List.mem_append_left _ h), c', hc, hapart⟩

/-- Texts in a row, each after the same wording. -/
theorem listed (h : Embeds m ts) (hconcludes : Concludes w) (hintroduces : Introduces w)
    (us : List Text) : Embeds (m ++ us.flatMap (w ++ ·)) (ts ++ us) := by
  induction us generalizing m ts with
  | nil =>
      rw [List.flatMap_nil, List.append_nil, List.append_nil]
      exact h
  | cons u us ih =>
      rw [List.flatMap_cons, ← List.append_assoc, ← List.append_assoc, List.append_cons ts u us]
      exact ih (h.between hconcludes hintroduces (embeds_self u))

end Embeds

theorem embeds_join (hconcludes : Concludes w) (hintroduces : Introduces w) (us : List Text) :
    Embeds (Text.join w us) us := by
  cases us with
  | nil => exact embeds_wording List.not_mem_nil
  | cons u us =>
      rw [Text.join_cons]
      exact (embeds_self u).listed hconcludes hintroduces us

theorem embeds_displayName (name : Option Text) : Embeds (displayName name) name.toList := by
  have hplaceholder : Embeds (displayName none) [] := embeds_wording (by decide)
  match name with
  | none => exact hplaceholder
  | some (c :: r) => exact embeds_self (c :: r)
  | some [] =>
      intro code
      obtain ⟨rest, hcode⟩ := code.exists_text_eq_cons
      have hnil : ¬ code.text <:+: [] := by
        rw [List.infix_nil, hcode]
        exact List.cons_ne_nil _ _
      exact (hplaceholder code).trans (iff_of_false nofun (by simpa using hnil))

end ErrorCode

/-! ## Texts from outside -/

open ErrorCode

def Absence.carried : Absence → List Text
  | inDirectories name directories => name :: directories
  | similar name suggestion => [name, suggestion]
  | among name available => name :: available.take listed
  | inChoices name _ => [name]
  | unanswered name => [name]
  | stated message => [message]

def Missing.carried : Missing → List Text
  | nothingGiven => []
  | noLoader location | emptySource location | noInclude location => [location]
  | stated message _ => [message]

/-- The texts in a report that are from outside: the template's name and the line of its source. -/
def SyntaxReport.outside (r : SyntaxReport) : List Text :=
  r.name.toList ++ (r.sourceLine?.map (·.2)).toList

namespace Error

/-- The texts that an error is put in words with. -/
def carried : Error → List Text
  | general message _ => [message]
  | notFound absence _ => absence.carried
  | missing reason => reason.carried
  | fetchFailed location cause => location :: cause.carried
  | malformed report | mismatched report => report.detail :: report.outside
  | tooDeep name _ stack => name :: stack
  | e => [e.message]

/-- The texts that an error carries, without what is said to be wrong with a block tag. -/
def outside : Error → List Text
  | mismatched report => report.outside
  | e => e.carried

end Error

/-! ## Messages -/

theorem Absence.embeds_message (a : Absence) : Embeds a.message a.carried := by
  have hnamed : ∀ name : Text, Embeds ("Template '" ++ name) [name] :=
    fun name => (embeds_self name).after (by decide)
  cases a with
  | inDirectories name directories =>
      exact (hnamed name).between (by decide) (by decide)
        (embeds_join (by decide) (by decide) directories)
  | similar name suggestion =>
      exact ((hnamed name).between (by decide) (by decide) (embeds_self suggestion)).before
        (by decide)
  | among name available =>
      cases available with
      | nil => exact (hnamed name).before (by decide)
      | cons first available =>
          have hlisted := (hnamed name).between (w := "' not found. Available: ") (by decide)
            (by decide) (embeds_join (w := ", ") (by decide) (by decide)
              ((first :: available).take listed))
          have hcount := initial_not_mem_ofInt (first :: available).length
          exact hlisted.maybe (((by decide : Concludes " ... (").append hcount).append (by decide))
  | inChoices name count =>
      have hcount := initial_not_mem_ofInt count
      have hwhole := (hnamed name).before
        (((by decide : Concludes "' not found in any of ").append hcount).append
          (by decide : initial ∉ (" loaders" : Text)))
      rwa [← List.append_assoc, ← List.append_assoc] at hwhole
  | unanswered name => exact (hnamed name).before (by decide)
  | stated message => exact embeds_self message

theorem Missing.embeds_message (m : Missing) : Embeds m.message m.carried := by
  cases m with
  | nothingGiven => exact embeds_wording (by decide)
  | noLoader location => exact ((embeds_self location).after (by decide)).before (by decide)
  | emptySource location => exact ((embeds_self location).after (by decide)).before (by decide)
  | noInclude name => exact ((embeds_self name).after (by decide)).before (by decide)
  | stated message _ => exact embeds_self message

namespace SyntaxReport

variable (r : SyntaxReport)

theorem embeds_place : Embeds r.place r.name.toList := by
  have hname := embeds_displayName r.name
  have hnumber : ∀ n : Int, Concludes (":" ++ Text.ofInt n) := fun n =>
    Concludes.append (by decide) (initial_not_mem_ofInt n)
  unfold place
  cases r.knownLine? with
  | none => rwa [List.append_nil]
  | some line =>
      refine hname.before ((hnumber line).append ?_)
      cases r.column with
      | none => exact List.not_mem_nil
      | some column => exact (hnumber column).initial_not_mem

theorem embeds_snippet {m : Text} {ts : List Text} (h : Embeds m ts) :
    Embeds (m ++ r.snippet) (ts ++ (r.sourceLine?.map (·.2)).toList) := by
  unfold snippet
  cases r.sourceLine? with
  | none =>
      rw [List.append_nil]
      exact (List.append_nil ts).symm ▸ h
  | some found =>
      obtain ⟨line, quoted⟩ := found
      have hblanks : ∀ n, initial ∉ Text.replicate n ' ' := fun n h =>
        absurd (List.eq_of_mem_replicate h) (by decide)
      have hnumber : initial ∉ (Text.ofInt line).padLeft 3 ' ' :=
        List.not_mem_append (hblanks _) (initial_not_mem_ofInt line)
      have hgutter : Concludes ("\n   |\n" ++ (Text.ofInt line).padLeft 3 ' ') :=
        Concludes.append (by decide) hnumber
      have hline : Embeds (m ++ ("\n   |\n" ++ (Text.ofInt line).padLeft 3 ' ' ++ " | ") ++ quoted)
          (ts ++ [quoted]) :=
        h.between (hgutter.append (by decide))
          (Introduces.prepend hgutter.initial_not_mem (by decide)) (embeds_self quoted)
      rw [← List.append_assoc, ← List.append_assoc]
      cases r.column with
      | none =>
          rw [List.append_nil]
          exact hline
      | some column =>
          have hcaret : Concludes ("\n   | " ++ Text.replicate column.toNat ' ' ++ "^") :=
            Concludes.append (Concludes.append (by decide) (hblanks column.toNat)) (by decide)
          exact hline.before hcaret

theorem embeds_message : Embeds r.message (r.detail :: r.outside) := by
  have hdetail : Embeds ("Syntax Error: " ++ r.detail) [r.detail] :=
    (embeds_self r.detail).after (by decide)
  exact r.embeds_snippet (hdetail.between (by decide) (by decide) r.embeds_place)

end SyntaxReport

namespace Error

theorem embeds_message (e : Error) : Embeds e.message e.carried := by
  induction e with
  | general message _ => exact embeds_self message
  | notFound absence _ => exact absence.embeds_message
  | missing reason => exact reason.embeds_message
  | fetchFailed location cause ih =>
      exact ((embeds_self location).after (by decide)).between (by decide) (by decide) ih
  | malformed report => exact report.embeds_message
  | mismatched report => exact report.embeds_message
  | tooDeep name limit stack =>
      have hlimit : initial ∉ "Maximum include depth exceeded (" ++ Text.ofInt limit :=
        List.not_mem_append (by decide) (initial_not_mem_ofInt limit)
      have hname : Embeds ("Maximum include depth exceeded (" ++ Text.ofInt limit ++
          ") when including '" ++ name ++ "'") [name] :=
        ((embeds_self name).after (Introduces.prepend hlimit (by decide))).before (by decide)
      refine Embeds.before ?_ (by decide)
      cases stack with
      | nil => exact (List.append_nil (_ : Text)).symm ▸ hname
      | cons first stack =>
          have hstack := (hname.before (by decide : Concludes ("\n" ++ "Include stack:"))).listed
            (w := "\n  • ") (by decide) (by decide) (first :: stack)
          rwa [List.append_assoc, List.append_assoc (Text.ofString "\n")] at hstack
  | _ => exact embeds_self _

/-- **When an error leads with its code.**  In its compact form it does so, with the message after
it, unless one of the texts that it carries has the code in it; then the message is all there is. -/
theorem compact_cases {e : Error} {code : ErrorCode} (hcode : e.code? = some code) :
    (e.compact = code.text ++ ": " ++ e.message ∧ ∀ t ∈ e.carried, ¬ code.text <:+: t) ∨
      (e.compact = e.message ∧ ∃ t ∈ e.carried, code.text <:+: t) := by
  have hpart := (Text.hasPart_iff_infix code.text e.message).trans (e.embeds_message code)
  simp only [compact, hcode]
  split
  · next h => exact .inr ⟨rfl, hpart.mp h⟩
  · next h => exact .inl ⟨rfl, fun t ht hinfix => h (hpart.mpr ⟨t, ht, hinfix⟩)⟩

theorem message_suffix_compact (e : Error) : e.message <:+ e.compact := by
  cases hcode : e.code? with
  | none => simp only [compact, hcode, List.suffix_refl]
  | some code =>
      rcases compact_cases hcode with ⟨h, -⟩ | ⟨h, -⟩
      · exact ⟨_, h.symm⟩
      · exact ⟨[], h.symm⟩

end Error

end TagTemplate
