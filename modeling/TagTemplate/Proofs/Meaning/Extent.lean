/-
# Extent — how far a run can go

The spread of a value is the length of all sequences in it.  What a path leads to
is spread no wider than the value, or than the attributes that values have by their
types, and so is what a loop goes through there: its reach does not grow.  So a loop
goes through `n` items at most if the reach of the data is `n`, and a body takes at
most

    b.steps n  ≤  b.size * (n + 1) ^ b.loops

steps.
-/
import TagTemplate.Proofs.Layout.Code
import TagTemplate.Proofs.Meaning.Basic
import TagTemplate.Proofs.Traced

namespace TagTemplate

namespace Value

theorem spread_le_spreads {v : Value} {vs : List Value} (h : v ∈ vs) : v.spread ≤ spreads vs := by
  induction vs with
  | nil => cases h
  | cons w ws ih =>
      rw [spreads]
      rcases List.mem_cons.mp h with rfl | h
      · exact Nat.le_add_right _ _
      · have := ih h; omega

theorem spread_le_entrySpreads {k v : Value} {es : List (Value × Value)} (h : (k, v) ∈ es) :
    v.spread ≤ entrySpreads es := by
  induction es with
  | nil => cases h
  | cons e es ih =>
      obtain ⟨k', v'⟩ := e
      rw [entrySpreads]
      rcases List.mem_cons.mp h with h | h
      · cases h; omega
      · have := ih h; omega

theorem spread_le_attributeSpreads {n : Text} {v : Value} {as : List (Text × Value)}
    (h : (n, v) ∈ as) : v.spread ≤ attributeSpreads as := by
  induction as with
  | nil => cases h
  | cons a as ih =>
      obtain ⟨n', v'⟩ := a
      rw [attributeSpreads]
      rcases List.mem_cons.mp h with h | h
      · cases h; omega
      · have := ih h; omega

theorem length_le_spread {v : Value} {s : Sequence} (h : v.sequence? = some s) :
    s.length ≤ v.spread := by
  cases v with
  | sequence kind items => cases h; rw [spread]; exact Nat.le_add_right _ _
  | range start stop step => cases h; rw [spread]; exact Nat.le_refl _
  | _ => cases h

theorem spread_le_of_mem_values {v w : Value} {s : Sequence} (h : v.sequence? = some s)
    (hw : w ∈ s.values) : w.spread ≤ v.spread := by
  cases v with
  | sequence kind items =>
      cases h
      rw [spread]
      exact Nat.le_trans (spread_le_spreads hw) (Nat.le_add_left _ _)
  | range start stop step =>
      cases h
      obtain ⟨i, -, rfl⟩ := List.mem_map.mp hw
      exact Nat.zero_le _
  | _ => cases h

theorem mem_of_findText? {key : Text} {es : List (Value × Value)} {v : Value}
    (h : findText? key es = some v) : ∃ k, (k, v) ∈ es := by
  induction es with
  | nil => cases h
  | cons e es ih =>
      have next : findText? key es = some v → ∃ k, (k, v) ∈ e :: es := by
        intro h
        obtain ⟨k, hk⟩ := ih h
        exact ⟨k, List.mem_cons_of_mem _ hk⟩
      unfold findText? at h
      split at h
      · contradiction
      · next k v' rest heq =>
          cases heq
          split at h
          · cases h
            exact ⟨_, List.mem_cons_self⟩
          · exact next h
      · next heq =>
          cases heq
          exact next h

theorem spread_intPart? {n : Int} {part : Part} {w : Value} (h : intPart? n part = some w) :
    w.spread = 0 := by
  cases part <;> cases h <;> rfl

theorem spread_part? {v w : Value} {part : Part} (h : v.part? part = some w) : w.spread = 0 := by
  unfold part? at h
  split at h
  case h_1 | h_2 => exact spread_intPart? h
  all_goals cases h <;> rfl

theorem spread_ownAttribute {v w : Value} {name : Text} (h : v.ownAttribute name = .ok w) :
    w.spread ≤ v.spread := by
  unfold ownAttribute at h
  split at h
  · next attributes =>
      cases h
      cases hf : attributes.find? (·.1 == name) with
      | none => exact Nat.zero_le _
      | some a =>
          rw [spread]
          exact spread_le_attributeSpreads (List.mem_of_find?_eq_some hf)
  · split at h
    · cases h; exact Nat.zero_le _
    · split at h <;> cases h
      exact Nat.zero_le _
  · cases h
    cases hpart : Part.ofName? name >>= v.part? with
    | none => exact Nat.zero_le _
    | some w =>
        obtain ⟨part, -, hw⟩ := Option.bind_eq_some_iff.mp hpart
        exact Nat.le_trans (Nat.le_of_eq (spread_part? hw)) (Nat.zero_le _)

theorem spread_itemOf {v w : Value} {s : Sequence} {key : Text} (hs : v.sequence? = some s)
    (h : itemOf s key = .ok w) : w.spread ≤ v.spread := by
  obtain ⟨index, -, h⟩ := Traced.bind_eq_ok.mp h
  obtain ⟨n, -, h⟩ := Traced.bind_eq_ok.mp h
  split at h
  · cases h
    rw [s.get?_eq]
    cases hi : s.values[index]? with
    | none => exact Nat.zero_le _
    | some w => exact spread_le_of_mem_values hs (List.mem_of_getElem? hi)
  · cases h; exact Nat.zero_le _

/-! ## Paths -/

variable [Traits]

theorem spread_le_reach (v : Value) : v.spread ≤ v.reach := Nat.le_max_left _ _

theorem reach_le_of_spread_le {v w : Value} (h : w.spread ≤ v.reach) : w.reach ≤ v.reach :=
  Nat.max_le.mpr ⟨h, Nat.le_max_right _ _⟩

theorem spread_attributeOf {v w : Value} {name : Text} (h : v.attributeOf name = .ok w) :
    w.spread ≤ v.reach := by
  unfold attributeOf at h
  split at h
  · next htrait =>
      cases h
      exact Traits.spread_trait? htrait
  · exact Nat.le_trans (spread_ownAttribute h) v.spread_le_reach

theorem spread_lookup {v w : Value} {key : Text} (h : v.lookup key = .ok w) :
    w.spread ≤ v.reach := by
  have entries : ∀ es : List (Value × Value),
      ((findText? key es).getD undefined).spread ≤ entrySpreads es := by
    intro es
    cases hf : findText? key es with
    | none => exact Nat.zero_le _
    | some v =>
        obtain ⟨k, hk⟩ := mem_of_findText? hf
        exact spread_le_entrySpreads hk
  unfold lookup at h
  split at h
  · cases h; exact Nat.zero_le _
  · cases h; exact Nat.zero_le _
  · cases h; exact Nat.le_trans (entries _) (spread_le_reach (dict _))
  · cases h; exact Nat.le_trans (entries _) (spread_le_reach (view _))
  · split at h
    · next hs =>
        split at h
        · exact Nat.le_trans (spread_itemOf hs h) (spread_le_reach _)
        · exact spread_attributeOf h
    · exact spread_attributeOf h

theorem reach_follow {v w : Value} {path : List Text} (h : v.follow path = .ok w) :
    w.reach ≤ v.reach := by
  induction path generalizing v with
  | nil => cases h; exact Nat.le_refl _
  | cons key path ih =>
      obtain ⟨u, hu, h⟩ := Traced.bind_eq_ok.mp h
      split at h
      · cases h; exact reach_le_of_spread_le (Nat.zero_le _)
      · exact Nat.le_trans (ih h) (reach_le_of_spread_le (spread_lookup hu))

theorem reach_lookupPath {v w : Value} {path : List Text} (h : v.lookupPath path = .ok w) :
    w.reach ≤ v.reach := by
  cases path with
  | nil => cases h; exact reach_le_of_spread_le (Nat.zero_le _)
  | cons key path => exact reach_follow h

theorem sequenceAt_le {v : Value} {name : Text} {s : Sequence} (h : v.sequenceAt name = .ok s) :
    s.length ≤ v.reach ∧ ∀ w ∈ s.values, w.reach ≤ v.reach := by
  obtain ⟨u, hl, h⟩ := Traced.bind_eq_ok.mp h
  have hu := reach_lookupPath hl
  cases h
  cases hs : u.sequence? with
  | none => exact ⟨Nat.zero_le _, fun w hw => by cases hw⟩
  | some s =>
      have hspread := Nat.le_trans u.spread_le_reach hu
      exact ⟨Nat.le_trans (length_le_spread hs) hspread, fun w hw =>
        reach_le_of_spread_le (Nat.le_trans (spread_le_of_mem_values hs hw) hspread)⟩

end Value

/-! ## Steps -/

namespace Body

def loops : Body → Nat
  | empty => 0
  | text before _ _ | output before _ _ _ => before.loops
  | branch before _ _ _ body _ => before.loops + body.loops
  | choice before _ _ _ body _ other _ => before.loops + body.loops + other.loops
  | loop before _ _ body _ => before.loops + body.loops + 1

/-- No run of a body takes more steps than this, if no sequence is longer than `n`. -/
def steps (n : Nat) : Body → Nat
  | empty => 0
  | text before _ _ | output before _ _ _ => before.steps n + 1
  | branch before _ _ _ body _ => before.steps n + (body.steps n + 2)
  | choice before _ _ _ body _ other _ => before.steps n + (body.steps n + other.steps n + 2)
  | loop before _ _ body _ => before.steps n + (n * (body.steps n + 1) + 1)

/-- Each loop multiplies the steps by the items it goes through. -/
theorem steps_le (n : Nat) (b : Body) {l : Nat} (hl : b.loops ≤ l) :
    b.steps n ≤ b.size * Nat.pow (n + 1) l := by
  have one_le : ∀ l, 1 ≤ Nat.pow (n + 1) l := fun l => Nat.pow_pos (Nat.succ_pos n)
  induction b generalizing l with
  | empty => exact Nat.zero_le _
  | text before place value ih | output before place name escape ih =>
      rw [size, Nat.succ_mul]
      exact Nat.add_le_add (ih hl) (one_le l)
  | branch before place negated name body close ih₁ ih₂ =>
      simp only [loops] at hl
      have h₁ := ih₁ (l := l) (by omega)
      have h₂ := ih₂ (l := l) (by omega)
      have h := one_le l
      simp only [steps, size, Nat.add_mul]
      omega
  | choice before place negated name body turn other close ih₁ ih₂ ih₃ =>
      simp only [loops] at hl
      have h₁ := ih₁ (l := l) (by omega)
      have h₂ := ih₂ (l := l) (by omega)
      have h₃ := ih₃ (l := l) (by omega)
      have h := one_le l
      simp only [steps, size, Nat.add_mul]
      omega
  | loop before place name body close ih₁ ih₂ =>
      simp only [loops] at hl
      obtain ⟨l, rfl⟩ : ∃ l', l = l' + 1 := ⟨l - 1, by omega⟩
      have h₁ := ih₁ (l := l + 1) (by omega)
      have h₂ := ih₂ (l := l) (by omega)
      have h := one_le l
      have hbody : n * (body.steps n + 1) + 1 ≤ (body.size + 1) * Nat.pow (n + 1) (l + 1) := by
        calc n * (body.steps n + 1) + 1
            ≤ (n + 1) * (body.steps n + 1) := by rw [Nat.succ_mul]; omega
          _ ≤ (n + 1) * (body.size * Nat.pow (n + 1) l + Nat.pow (n + 1) l) :=
            Nat.mul_le_mul_left _ (Nat.add_le_add h₂ h)
          _ = (body.size + 1) * Nat.pow (n + 1) (l + 1) := by
            rw [← Nat.succ_mul, Nat.mul_comm, Nat.mul_assoc]
            rfl
      simp only [steps, size, Nat.add_mul] at hbody ⊢
      omega

theorem countP_code (b : Body) (start : Nat) (scope : Scope) :
    (b.code start scope).countP (·.action.isLoop) = b.loops := by
  induction b generalizing start scope with
  | empty => rfl
  | text before place value ih | output before place name escape ih =>
      rw [code, List.countP_append, ih]
      rfl
  | branch before place negated name body close ih₁ ih₂
  | loop before place name body close ih₁ ih₂ =>
      rw [code, List.countP_append, List.countP_cons, List.countP_append, ih₁, ih₂]
      rfl
  | choice before place negated name body turn other close ih₁ ih₂ ih₃ =>
      rw [code, List.countP_append, List.countP_cons, List.countP_append, List.countP_cons,
        List.countP_append, ih₁, ih₂, ih₃]
      exact (Nat.add_assoc before.loops body.loops other.loops).symm

end Body

end TagTemplate
