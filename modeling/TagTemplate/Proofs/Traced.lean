/-
# Traced results — taking a sequence apart

A traced computation is two things at once: a result, which a failure cuts
short, and a list of events, which a failure leaves standing.  The lemmas here
separate the two.  The result of a sequence is the sequence of the results

    (t >>= f).result = t.result >>= fun a => (f a).result

and its events are those of `t`, followed by those of `f a` if `t` gives `a`.  So what is true of
each event of the parts is true of each event of the whole (`Each.bind`).
-/
import TagTemplate.Event

namespace TagTemplate.Traced

variable {α β γ : Type}

/-! ## Results -/

deriving instance DecidableEq for Except

@[simp] theorem ok_bind (a : α) (f : α → Except Error β) : (Except.ok a >>= f) = f a := rfl

@[simp] theorem error_bind (e : Error) (f : α → Except Error β) :
    (Except.error e >>= f) = .error e := rfl

@[simp] theorem result_pure (a : α) : (pure a : Traced α).result = .ok a := rfl

@[simp] theorem result_of (r : Except Error α) : (of r).result = r := rfl

@[simp] theorem result_emit (event : Event) : (emit event).result = .ok () := rfl

@[simp] theorem result_fail (e : Error) : (fail e : Traced α).result = .error e := rfl

@[simp] theorem result_bind (t : Traced α) (f : α → Traced β) :
    (t >>= f).result = t.result >>= fun a => (f a).result := by
  show (t.andThen f).result = _
  cases h : t.result <;> simp only [andThen, h] <;> rfl

theorem bind_eq_ok {r : Except Error α} {f : α → Except Error β} {b : β} :
    r >>= f = .ok b ↔ ∃ a, r = .ok a ∧ f a = .ok b := by
  cases r with
  | error e =>
      constructor
      · intro h; cases h
      · rintro ⟨_, h, _⟩; cases h
  | ok a =>
      constructor
      · intro h; exact ⟨a, rfl, h⟩
      · rintro ⟨_, h, h'⟩; cases h; exact h'

theorem bind_eq_error {r : Except Error α} {f : α → Except Error β} {e : Error} :
    r >>= f = .error e ↔ r = .error e ∨ ∃ a, r = .ok a ∧ f a = .error e := by
  cases r with
  | error e' =>
      constructor
      · intro h; cases h; exact .inl rfl
      · rintro (h | ⟨_, h, _⟩) <;> cases h; rfl
  | ok a =>
      constructor
      · intro h; exact .inr ⟨a, rfl, h⟩
      · rintro (h | ⟨_, h, h'⟩) <;> cases h; exact h'

theorem result_bind_eq_ok {t : Traced α} {f : α → Traced β} {b : β} :
    (t >>= f).result = .ok b ↔ ∃ a, t.result = .ok a ∧ (f a).result = .ok b := by
  rw [result_bind, bind_eq_ok]

/-! ## Events -/

@[simp] theorem events_pure (a : α) : (pure a : Traced α).events = [] := rfl

@[simp] theorem events_emit (event : Event) : (emit event).events = [event] := rfl

theorem events_bind_of_ok {t : Traced α} {a : α} (f : α → Traced β) (h : t.result = .ok a) :
    (t >>= f).events = t.events ++ (f a).events := by
  show (t.andThen f).events = _
  simp only [andThen, h]

theorem events_bind_of_error {t : Traced α} {e : Error} (f : α → Traced β)
    (h : t.result = .error e) : (t >>= f).events = t.events := by
  show (t.andThen f).events = _
  simp only [andThen, h]

/-! ## Events one by one -/

/-- Every event has the property. -/
def Each (P : Event → Prop) (t : Traced α) : Prop := ∀ event ∈ t.events, P event

variable {P : Event → Prop} {t : Traced α} {f : α → Traced β}

theorem each_of (r : Except Error α) : (of r).Each P := nofun

theorem each_pure (a : α) : (pure a : Traced α).Each P := nofun

theorem each_fail (e : Error) : (fail e : Traced α).Each P := nofun

theorem each_emit {event : Event} (h : P event) : (emit event).Each P :=
  List.forall_mem_singleton.mpr h

theorem Each.bind (ht : t.Each P) (hf : ∀ a, t.result = .ok a → (f a).Each P) :
    (t >>= f).Each P := by
  cases hresult : t.result with
  | error e =>
      rw [Each, events_bind_of_error f hresult]
      exact ht
  | ok a =>
      rw [Each, events_bind_of_ok f hresult]
      exact List.forall_mem_append.mpr ⟨ht, hf a hresult⟩

/-! ## Laws of sequencing -/

@[simp] theorem pure_bind (a : α) (f : α → Traced β) : (pure a : Traced α) >>= f = f a := rfl

theorem bind_assoc (t : Traced α) (f : α → Traced β) (g : β → Traced γ) :
    t >>= f >>= g = t >>= fun a => f a >>= g := by
  show (t.andThen f).andThen g = t.andThen fun a => (f a).andThen g
  cases h : t.result with
  | error e => simp only [andThen, h]
  | ok a => cases h' : (f a).result <;> simp only [andThen, h, h', List.append_assoc]

/-- How a sequence goes on matters for the result alone. -/
theorem bind_congr_of_ok {t : Traced α} {f g : α → Traced β}
    (h : ∀ a, t.result = .ok a → f a = g a) : t >>= f = t >>= g := by
  show t.andThen f = t.andThen g
  cases hresult : t.result with
  | error e => simp only [andThen, hresult]
  | ok a => simp only [andThen, hresult, h a hresult]

end TagTemplate.Traced
