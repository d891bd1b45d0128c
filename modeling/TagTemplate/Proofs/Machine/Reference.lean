/-
# References — what is written is what is read

A reference `data.rows[i1].cells[i2].x` is written when a template compiles, with
a frame for each loop that it stands in.  The machine does not follow it: it takes
the current item of the innermost loop from its table, and looks `x` up from there.
Both come to the same: at every state of a run of a compiled program

    data                                          v₀
    rows    a sequence with an item i₁, that is   v₁
    cells   a sequence with an item i₂, that is   v₂
    x       looked up from v₂, with what that gives or how it fails

where `i₁` and `i₂` are the indices of the loops being run.

Of the frames the machine reads the number of the last one and nothing else:
whatever else is put into the references of a program, every step of every run is
the same (`step_mapRefs`).
-/
import TagTemplate.Proofs.Machine.Safety

namespace TagTemplate

/-! ## Programs with other references -/

def Action.mapRef (f : Ref → Ref) : Action → Action
  | output ref escape => output (f ref) escape
  | branch negated ref elseIndex endIndex => branch negated (f ref) elseIndex endIndex
  | loop ref slot endIndex => loop (f ref) slot endIndex
  | action => action

def Op.mapRef (f : Ref → Ref) (op : Op) : Op := { op with action := op.action.mapRef f }

def Program.mapRefs (f : Ref → Ref) (p : Program) : Program :=
  { p with ops := p.ops.map (·.mapRef f) }

open Program

namespace Machine.Setup

variable {m : Setup} {s s' : State} {i : Nat} {a : Action} {ref : Ref} {f : Ref → Ref}

/-- The same data, for the program with other references. -/
def mapRefs (f : Ref → Ref) (m : Setup) : Setup := { m with program := m.program.mapRefs f }

@[simp] theorem size_mapRefs (f : Ref → Ref) (m : Setup) :
    (m.mapRefs f).program.size = m.program.size := by
  simp [mapRefs, Program.mapRefs, Program.size]

@[simp] theorem opAt?_mapRefs (f : Ref → Ref) (m : Setup) (i : Int) :
    (m.mapRefs f).opAt? i = (m.opAt? i).map (·.mapRef f) := by
  have hops (n : Nat) : (m.mapRefs f).program.ops[n]? = m.program.ops[n]?.map (·.mapRef f) :=
    Array.getElem?_map
  simp only [opAt?, size_mapRefs, hops, apply_ite (Option.map _), Option.map_none]

/-- The end of a loop reads the number of its opener, not what that refers to. -/
theorem endLoop_mapRefs (f : Ref → Ref) (s : State) (start : Int) :
    (m.mapRefs f).endLoop s start = m.endLoop s start := by
  rw [endLoop, endLoop, opAt?_mapRefs]
  cases m.opAt? start with
  | none => rfl
  | some op =>
      obtain ⟨place, action⟩ := op
      cases action with
      | branch negated ref elseIndex endIndex => cases negated <;> rfl
      | _ => rfl

section
variable (hslot : ∀ r, (f r).slot = r.slot) (hpath : ∀ r, (f r).path = r.path)
include hslot hpath

variable [Traits]

theorem resolve_mapRefs (s : State) (ref : Ref) :
    (m.mapRefs f).resolve s (f ref) = m.resolve s ref := by
  rw [resolve, resolve, hslot, hpath]
  rfl

theorem perform_mapRefs (s : State) (a : Action) :
    (m.mapRefs f).perform s (a.mapRef f) = m.perform s a := by
  have hresolve := resolve_mapRefs (m := m) hslot hpath s
  cases a with
  | output ref escape => simp only [Action.mapRef, perform, output, hresolve]; rfl
  | branch negated ref elseIndex endIndex => simp only [Action.mapRef, perform, passes, hresolve]
  | loop ref slot endIndex => simp only [Action.mapRef, perform, startLoop, hresolve]
  | finish word start =>
      simp only [Action.mapRef, perform, endLoop_mapRefs]
  | _ => rfl

/-- References with the same last numbers and the same paths make the same steps. -/
theorem step_mapRefs (s : State) : (m.mapRefs f).step s = m.step s := by
  rw [step, step, size_mapRefs, opAt?_mapRefs]
  split
  · rfl
  · cases m.opAt? s.pc with
    | none => rfl
    | some op =>
        simp only [Option.map_some, Op.mapRef, perform_mapRefs hslot hpath]

theorem run_mapRefs (fuel : Nat) (s : State) : (m.mapRefs f).run fuel s = m.run fuel s := by
  induction fuel generalizing s with
  | zero => rfl
  | succ fuel ih =>
      rw [run, run, step_mapRefs hslot hpath]
      cases m.step s with
      | running s' => exact ih s'
      | finished t => rfl
      | failed e => rfl

end

end Machine.Setup

namespace Compilation

open Machine Machine.Setup

section

variable [Traits] {c : Compilation} {tokens : List Token}

/-- **What a reference says is what the machine reads.**  At every state of a run of a compiled
program, for every reference about to be used: each of its loops is at an index, the data has an
item along the loops at these indices, and the reference stands for what its path leads to from
that item.  In references the machine reads only the number of the innermost loop and the path. -/
theorem resolve_eq_lookup_along {m : Setup} {s : State} {op : Op} {ref : Ref}
    (h : (c.compile tokens).result = .ok m.program) (hs : m.Reachable s)
    (hop : m.opAt? s.pc = some op) (hr : op.action.ref? = some ref) :
    (Numbered ref.frames ∧ ∀ f ∈ ref.frames, ∃ index, s.index? f.slot = some index) ∧
    (∃ item, m.data.along? s.index? ref.frames = some item ∧
      m.resolve s ref = item.lookupPath ref.path) ∧
    ∀ f : Ref → Ref, (∀ r, (f r).slot = r.slot) → (∀ r, (f r).path = r.path) →
      (∀ s', (m.mapRefs f).step s' = m.step s') ∧
        ∀ fuel s', (m.mapRefs f).run fuel s' = m.run fuel s' := by
  obtain ⟨body, hb⟩ := exists_body_of_compile h
  have hw := WellLinked.of_linkedOn (linkedOn_of_code hb)
  obtain ⟨i, hi⟩ := placed_of_reachable hw hs
  have ha := hi.actionAt?_eq hop
  have hframes := frames_eq_framesEntered hw ha hr
  refine ⟨⟨hframes ▸ hi.loops.numbered, fun f hf => ?_⟩, ?_, fun f hslot hpath => ?_⟩
  · obtain ⟨l, hl⟩ := hi.loops.exists_loop (hframes ▸ hf)
    exact ⟨l.index, by rw [State.index?, hl, Option.map_some]⟩
  · obtain ⟨item, hitem, hbase⟩ := hi.exists_item hw ha hr
    refine ⟨item, hitem, ?_⟩
    rw [resolve, hbase]
    rfl
  · exact ⟨step_mapRefs hslot hpath, run_mapRefs hslot hpath⟩

end

attribute [local instance] Traits.bare

/-- At the second cell of the first row, `data.rows[i1].cells[i2].x` is about to be put out. -/
theorem resolve_second_cell :
    let c : Compilation := ⟨true, none, .outermost none, .null⟩
    let tokens : List Token :=
      [⟨.opening .loopBlock "rows", ⟨1, 0⟩, .plain⟩, ⟨.opening .loopBlock "cells", ⟨1, 17⟩, .plain⟩,
        ⟨.output "x", ⟨1, 35⟩, .html⟩, ⟨.closing "loop", ⟨1, 47⟩, .plain⟩,
        ⟨.closing "loop", ⟨1, 59⟩, .plain⟩]
    let row : Frame := ⟨["rows"], 1⟩
    let ref : Ref := ⟨[row, ⟨["cells"], 2⟩], ["x"]⟩
    let p : Program :=
      ⟨#[⟨⟨1, 0⟩, .loop ⟨[], ["rows"]⟩ 1 4⟩, ⟨⟨1, 17⟩, .loop ⟨[row], ["cells"]⟩ 2 3⟩,
        ⟨⟨1, 35⟩, .output ref .html⟩, ⟨⟨1, 47⟩, .finish "loop" 1⟩,
        ⟨⟨1, 59⟩, .finish "loop" 0⟩], none⟩
    let cells : List Value := [.dict [(.text "x", .int 7)], .dict [(.text "x", .int 8)]]
    let rows : List Value := [.dict [(.text "cells", .list cells)]]
    let m : Setup := ⟨p, .dict [(.text "rows", .list rows)], .standard⟩
    let s : State := ⟨2, ["7"], [(2, ⟨.items cells, 1⟩), (1, ⟨.items rows, 0⟩)]⟩
    (c.compile tokens).result = .ok p ∧ m.Reachable s ∧
      m.opAt? s.pc = some ⟨⟨1, 35⟩, .output ref .html⟩ ∧ ref.text = "data.rows[i1].cells[i2].x" ∧
      (s.index? 1 = some 0 ∧ s.index? 2 = some 1) ∧
      ∃ item, m.data.along? s.index? ref.frames = some item ∧
        m.resolve s ref = item.lookupPath ["x"] := by
  intro c tokens row ref p cells rows m s
  have h : (c.compile tokens).result = .ok m.program := by rfl
  have hs : m.Reachable s := ⟨4, .cons rfl (.cons rfl (.cons rfl (.cons rfl (.refl s))))⟩
  have hop : m.opAt? s.pc = some ⟨⟨1, 35⟩, .output ref .html⟩ := by rfl
  have hr : (Action.output ref .html).ref? = some ref := rfl
  obtain ⟨-, hitem, -⟩ := resolve_eq_lookup_along h hs hop hr
  exact ⟨h, hs, hop, by decide, ⟨rfl, rfl⟩, hitem⟩

end Compilation

end TagTemplate
