/-
# Meaning — what a body puts out, read off its tree

`body.meaning escapers item` is what a body puts out, or how it fails, when
names are looked up from `item`.  It knows no indices, no numbers of loops and
no frames:

    text     its value
    output   the text of what the name leads to, escaped
    if       the body if the guard holds, else the other body or nothing
    unless   the same with a guard of its own
    loop     the body for each item of the sequence, in order

The first failure is that of the whole.  A loop is over a sequence in one of two
ways: `Sequence.concat` goes through the items; `Sequence.concatCounted` also
counts them, once the first is done, and fails if there are too many to count.
The two differ for no sequence that can be counted.
-/
import TagTemplate.Escape.Standard
import TagTemplate.Proofs.Block.Body
import TagTemplate.Scope
import TagTemplate.Value.Display
import TagTemplate.Value.Lookup
import TagTemplate.Value.Truth

namespace TagTemplate

/-! ## Outcomes -/

/-- What is put out, or the failure that ends it. -/
abbrev Outcome := Except Error Text

namespace Outcome

/-- One outcome and then another, which counts unless the first is a failure. -/
def append (a b : Outcome) : Outcome := do return (← a) ++ (← b)

@[simp] theorem ok_append_ok (s t : Text) : append (.ok s) (.ok t) = .ok (s ++ t) := rfl

@[simp] theorem error_append (e : Error) (b : Outcome) : append (.error e) b = .error e := rfl

@[simp] theorem ok_append_error (s : Text) (e : Error) : append (.ok s) (.error e) = .error e := rfl

@[simp] theorem append_nil (a : Outcome) : a.append (.ok []) = a := by
  cases a with
  | error e => rfl
  | ok s => simp

@[simp] theorem nil_append (a : Outcome) : append (.ok []) a = a := by
  cases a <;> rfl

theorem append_assoc (a b c : Outcome) : (a.append b).append c = a.append (b.append c) := by
  cases a with
  | error e => rfl
  | ok s =>
      cases b with
      | error e => rfl
      | ok t =>
          cases c with
          | error e => rfl
          | ok u => simp

end Outcome

/-! ## Sequences -/

namespace Sequence

def values : Sequence → List Value
  | items values => values
  | range start stop step =>
    (List.range (Value.rangeLength start stop step)).map fun i : Nat => .int (start + i * step)

theorem length_values (s : Sequence) : s.values.length = s.length := by
  cases s with
  | items values => rfl
  | range start stop step => simp [values, length]

theorem get?_eq (s : Sequence) (i : Nat) : s.get? i = s.values[i]? := by
  cases s with
  | items values => rfl
  | range start stop step =>
      simp only [get?, values, List.getElem?_map]
      split
      · next h => rw [List.getElem?_range h]; rfl
      · next h => rw [List.getElem?_eq_none (by simpa using h)]; rfl

theorem length_of_size {s : Sequence} {n : Nat} (h : s.size = .ok n) : s.length = n := by
  unfold size at h
  split at h <;> cases h
  rfl

/-- The outcomes of values, one after the other. -/
def each (f : Value → Outcome) : List Value → Outcome
  | [] => .ok []
  | v :: vs => (f v).append (each f vs)

def concat (s : Sequence) (f : Value → Outcome) : Outcome := each f s.values

/-- The outcomes of the items, where after the first the items are counted. -/
def concatCounted (s : Sequence) (f : Value → Outcome) : Outcome :=
  match s.values with
  | [] => .ok []
  | v :: vs => (f v).append (s.size >>= fun _ => each f vs)

theorem each_congr {f g : Value → Outcome} {vs : List Value} (h : ∀ v ∈ vs, f v = g v) :
    each f vs = each g vs := by
  induction vs with
  | nil => rfl
  | cons v vs ih =>
      rw [each, each, h v List.mem_cons_self, ih fun w hw => h w (List.mem_cons_of_mem _ hw)]

theorem each_nil {f : Value → Outcome} (h : ∀ v, f v = .ok []) (vs : List Value) :
    each f vs = .ok [] := by
  induction vs with
  | nil => rfl
  | cons v vs ih => rw [each, h, ih, Outcome.nil_append]

theorem concatCounted_eq_concat {s : Sequence} (h : s.length ≤ maxLength) (f : Value → Outcome) :
    s.concatCounted f = s.concat f := by
  have hs : s.size = .ok s.length := by rw [size, if_pos h]
  unfold concatCounted concat
  cases s.values with
  | nil => rfl
  | cons v vs =>
      rw [hs]
      rfl

/-- An overlong sequence fails once its first item is done. -/
theorem concatCounted_of_overlong {s : Sequence} {f : Value → Outcome}
    (h : maxLength < s.length) (hf : ∀ v, ∃ t, f v = .ok t) :
    s.concatCounted f = .error .lengthOverflow := by
  have hs : s.size = .error .lengthOverflow := by rw [size, if_neg (Nat.not_le_of_lt h)]
  unfold concatCounted
  cases hv : s.values with
  | nil =>
      rw [← s.length_values, hv] at h
      cases h
  | cons v vs =>
      obtain ⟨t, ht⟩ := hf v
      simp only [hs, ht]
      rfl

end Sequence

/-! ## Bodies -/

namespace Value

variable [Traits]

/-- What a variable puts out. -/
def shown (item : Value) (escapers : EscapeTable) (name : Text) (escape : EscapeMode) :
    Outcome := do
  let value ← item.lookupPath (splitPath name)
  let text ← value.toText
  escapers.apply escape text

/-- The guard of an if block, or of an unless block, holds. -/
def guards (item : Value) (negated : Bool) (name : Text) : Except Error Bool := do
  let value ← item.lookupPath (splitPath name)
  if negated then return !(← value.isTruthy) else value.passesIf

/-- The sequence that a loop is over; other values have no items. -/
def sequenceAt (item : Value) (name : Text) : Except Error Sequence := do
  let value ← item.lookupPath (splitPath name)
  return value.sequence?.getD (.items [])

end Value

namespace Body

variable [Traits]

/-- What a body puts out for an item, given how a loop visits a sequence. -/
def meaningBy (visit : Sequence → (Value → Outcome) → Outcome) (escapers : EscapeTable) :
    Body → (item : Value) → Outcome
  | empty, _ => .ok []
  | text before _ value, item => (before.meaningBy visit escapers item).append (.ok value)
  | output before _ name escape, item =>
    (before.meaningBy visit escapers item).append (item.shown escapers name escape)
  | branch before _ negated name body _, item =>
    (before.meaningBy visit escapers item).append do
      if ← item.guards negated name then body.meaningBy visit escapers item else .ok []
  | choice before _ negated name body _ other _, item =>
    (before.meaningBy visit escapers item).append do
      if ← item.guards negated name then body.meaningBy visit escapers item
      else other.meaningBy visit escapers item
  | loop before _ name body _, item =>
    (before.meaningBy visit escapers item).append do
      visit (← item.sequenceAt name) fun v => body.meaningBy visit escapers v

def meaning (b : Body) (escapers : EscapeTable) (item : Value) : Outcome :=
  b.meaningBy Sequence.concatCounted escapers item

end Body

end TagTemplate
