/-
# Faults — how a step can fail

A step looks into three things besides values: the program at the position, the
table of loops for the item that names are looked up from, and at the end of a loop
the opener and, once more, the table.  If all that is there (`m.Supplied s`), what
is left to fail are the values that the operation meets:

    a reference      a part of its path that fails to be looked up
    output           the text of the value, and its escape
    branch           the test of the value
    end of a loop    the count of the items

A place in the table with no item, a position outside the program, an end without
its loop and an operation without an action are no way to fail any more.
-/
import TagTemplate.Proofs.Layout.Links
import TagTemplate.Proofs.Machine.Moves

namespace TagTemplate.Machine.Setup

variable {m : Setup} {s : State} {a : Action} {ref : Ref} {e : Error}

/-- What a step looks into is there. -/
structure Supplied (m : Setup) (s : State) : Prop where
  /-- The operation at the position. -/
  operation : s.pc < m.program.size → ∃ op, m.opAt? s.pc = some op ∧ op.action ≠ .inert
  /-- The value that its reference is looked up from. -/
  item : ∀ {op : Op} {ref : Ref}, m.opAt? s.pc = some op → op.action.ref? = some ref →
    ∃ v, m.base s ref.slot = .ok v
  /-- At the end of a loop its opener, and the loop. -/
  opener : ∀ {op : Op} {start : Int}, m.opAt? s.pc = some op →
    op.action = .finish BlockKind.loopBlock.word start →
    ∃ (place : Position) (ref : Ref) (slot endIndex : Int) (l : LoopState),
      m.opAt? start = some ⟨place, .loop ref slot endIndex⟩ ∧ s.loop? slot = some l

variable [Traits]

/-- The ways in which the values that an operation meets can fail. -/
inductive Faults (m : Setup) (s : State) : Action → Error → Prop
  | lookup {a : Action} {ref : Ref} {item : Value} {e : Error} :
      a.ref? = some ref → m.base s ref.slot = .ok item → item.lookupPath ref.path = .error e →
      m.Faults s a e
  | text {ref : Ref} {escape : EscapeMode} {value : Value} {e : Error} :
      m.resolve s ref = .ok value → value.toText = .error e → m.Faults s (.output ref escape) e
  | escape {ref : Ref} {escape : EscapeMode} {value : Value} {t : Text} {e : Error} :
      m.resolve s ref = .ok value → value.toText = .ok t → m.escapers.apply escape t = .error e →
      m.Faults s (.output ref escape) e
  | truth {ref : Ref} {elseIndex : Option Int} {endIndex : Int} {value : Value} {e : Error} :
      m.resolve s ref = .ok value → value.isTruthy = .error e →
      m.Faults s (.branch true ref elseIndex endIndex) e
  | test {ref : Ref} {elseIndex : Option Int} {endIndex : Int} {value : Value} {e : Error} :
      m.resolve s ref = .ok value → value.passesIf = .error e →
      m.Faults s (.branch false ref elseIndex endIndex) e
  | count {start slot : Int} {l : LoopState} {e : Error} :
      s.loop? slot = some l → l.items.size = .error e →
      m.Faults s (.finish BlockKind.loopBlock.word start) e

theorem faults_of_resolve (hr : a.ref? = some ref) (h : ∃ v, m.base s ref.slot = .ok v)
    (he : m.resolve s ref = .error e) : m.Faults s a e := by
  obtain ⟨item, hitem⟩ := h
  rw [resolve, hitem] at he
  exact .lookup hr hitem he

theorem faults_of_output {escape : EscapeMode} (h : ∃ v, m.base s ref.slot = .ok v)
    (he : m.output s ref escape = .error e) : m.Faults s (.output ref escape) e := by
  rcases Traced.bind_eq_error.mp he with he | ⟨value, hvalue, he⟩
  · exact faults_of_resolve rfl h he
  rcases Traced.bind_eq_error.mp he with he | ⟨t, ht, he⟩
  · exact .text hvalue he
  rcases Traced.bind_eq_error.mp he with he | ⟨_, -, he⟩
  · exact .escape hvalue ht he
  · cases he

theorem faults_of_passes {negated : Bool} {elseIndex : Option Int} {endIndex : Int}
    (h : ∃ v, m.base s ref.slot = .ok v) (he : m.passes s negated ref = .error e) :
    m.Faults s (.branch negated ref elseIndex endIndex) e := by
  rcases Traced.bind_eq_error.mp he with he | ⟨value, hvalue, he⟩
  · exact faults_of_resolve rfl h he
  cases negated with
  | false => exact .test hvalue he
  | true =>
      rcases Traced.bind_eq_error.mp he with he | ⟨_, -, he⟩
      · exact .truth hvalue he
      · cases he

theorem faults_of_startLoop {slot endIndex : Int} (h : ∃ v, m.base s ref.slot = .ok v)
    (he : m.startLoop s ref slot endIndex = .error e) :
    m.Faults s (.loop ref slot endIndex) e := by
  rcases Traced.bind_eq_error.mp he with he | ⟨value, -, he⟩
  · exact faults_of_resolve rfl h he
  split at he
  · split at he <;> cases he
  · cases he

theorem faults_of_endLoop {place : Position} {start slot endIndex : Int} {l : LoopState}
    (hop : m.opAt? start = some ⟨place, .loop ref slot endIndex⟩) (hl : s.loop? slot = some l)
    (he : m.endLoop s start = .error e) :
    m.Faults s (.finish BlockKind.loopBlock.word start) e := by
  simp only [endLoop, hop, hl] at he
  rcases Traced.bind_eq_error.mp he with he | ⟨n, -, he⟩
  · exact .count hl he
  · split at he <;> cases he

/-- With all that it looks into at hand, a step fails only where a value does. -/
theorem Supplied.faults_of_failed (h : m.Supplied s) (hs : m.step s = .failed e) :
    ∃ op, m.opAt? s.pc = some op ∧ m.Faults s op.action e := by
  unfold step at hs
  split at hs
  · cases hs
  · next hpc =>
      obtain ⟨op, hop, hne⟩ := h.operation (Int.not_le.mp hpc)
      refine ⟨op, hop, ?_⟩
      have hitem : ∀ ref, op.action.ref? = some ref → ∃ v, m.base s ref.slot = .ok v :=
        fun _ => h.item hop
      have hopener : ∀ start, op.action = .finish BlockKind.loopBlock.word start →
          ∃ (place : Position) (ref : Ref) (slot endIndex : Int) (l : LoopState),
            m.opAt? start = some ⟨place, .loop ref slot endIndex⟩ ∧ s.loop? slot = some l :=
        fun _ => h.opener hop
      simp only [hop] at hs
      split at hs
      · cases hs
      · next e' he =>
          cases hs
          cases ha : op.action with
          | text value => rw [ha] at he; cases he
          | output ref escape =>
              rw [ha] at he hitem
              exact faults_of_output (hitem ref rfl) he
          | branch negated ref elseIndex endIndex =>
              rw [ha] at he hitem
              rcases Traced.bind_eq_error.mp he with he | ⟨passes, -, he⟩
              · exact faults_of_passes (hitem ref rfl) he
              · split at he <;> cases he
          | alternative endIndex => rw [ha] at he; cases he
          | loop ref slot endIndex =>
              rw [ha] at he hitem
              exact faults_of_startLoop (hitem ref rfl) he
          | finish word start =>
              rw [ha] at he hopener
              rw [perform] at he
              split at he
              · next hword =>
                  subst hword
                  obtain ⟨place, ref, slot, endIndex, l, hloop, hl⟩ := hopener start rfl
                  exact faults_of_endLoop hloop hl he
              · cases he
          | inert => exact absurd ha hne

end TagTemplate.Machine.Setup
