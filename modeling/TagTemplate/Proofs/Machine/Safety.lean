/-
# Safety — a compiled program finds what it looks for

Every state of a run of a well-linked program is placed (`m.Placed i s`): it is at
a position of the program or at its end, and the loops being run are those that
the position is in.  A move keeps that, with one case for each way to move, and so
does a run.

A placed state has all that a step looks into (`m.Supplied s`), so what is left to
fail are the values.  With what else follows from its place, it is safe (`m.Safe s`):

    pc        within the program, or at its end
    table     the loops 1, …, k, where k loops are around the position, each at an item
    opener    of a loop: its number is not in the table, whichever loop had it before
    end       of the program: the table is empty
-/
import TagTemplate.Proofs.Machine.Faults
import TagTemplate.Proofs.Machine.Loops

namespace TagTemplate

open Program

namespace Machine.Setup

variable [Traits] {m : Setup} {s s' : State} {i j : Nat} {a : Action}

/-- The state is at a position of the program, or at its end, and in the loops around it. -/
structure Placed (m : Setup) (i : Nat) (s : State) : Prop where
  pc : s.pc = i
  le_size : i ≤ m.program.size
  loops : m.InLoops (m.program.framesEntered i) s

theorem Placed.actionAt?_eq {op : Op} (h : m.Placed i s) (hop : m.opAt? s.pc = some op) :
    m.program.actionAt? i = some op.action := by
  rw [h.pc, opAt?_natCast] at hop
  rw [Program.actionAt?, hop, Option.map_some]

theorem Placed.goto (h : m.Placed i s) (hpc : s'.pc = j) (hl : s'.loops = s.loops)
    (hj : j ≤ m.program.size) (hf : m.program.framesEntered j = m.program.framesEntered i) :
    m.Placed j s' :=
  ⟨hpc, hj, hf ▸ h.loops.of_loops hl⟩

theorem Placed.advance (hw : m.program.WellLinked) (h : m.Placed i s)
    (ha : m.program.actionAt? i = some a) (hpc : s'.pc = s.pc + 1) (hl : s'.loops = s.loops)
    (hloop : ∀ ref slot endIndex, a ≠ .loop ref slot endIndex)
    (hend : ∀ word start, a ≠ .finish word start) : m.Placed (i + 1) s' :=
  h.goto (by rw [hpc, h.pc]; rfl) hl (lt_size_of_actionAt? ha)
    (framesEntered_succ hw ha hloop hend)

theorem Placed.past {kind : BlockKind} {o : Nat} (hw : m.program.WellLinked) (h : m.Placed i s)
    (hb : m.program.Block kind o j) (hpc : s'.pc = j + 1) (hl : s'.loops = s.loops)
    (hf : m.program.framesEntered i = m.program.framesEntered o) : m.Placed (j + 1) s' :=
  h.goto hpc hl (lt_size_of_actionAt? (hb.ends hw).2) ((framesEntered_past hw hb).trans hf.symm)

/-- The value that a reference is looked up from. -/
theorem Placed.exists_item {ref : Ref} (hw : m.program.WellLinked) (h : m.Placed i s)
    (ha : m.program.actionAt? i = some a) (hr : a.ref? = some ref) :
    ∃ item, m.data.along? s.index? ref.frames = some item ∧ m.base s ref.slot = .ok item := by
  obtain ⟨item, hitem, hbase⟩ := h.loops.exists_item
  have hframes := frames_eq_framesEntered hw ha hr
  have hslot : ref.slot = (m.program.framesEntered i).length := by
    rw [← hframes]
    have hnumbered : Numbered (Scope.mk ref.frames).frames := hframes ▸ h.loops.numbered
    exact slot_resolve hnumbered []
  exact ⟨item, by rw [hframes, hitem], by rw [hslot, hbase]⟩

theorem placed_initial (m : Setup) : m.Placed 0 .initial :=
  ⟨rfl, Nat.zero_le _, inLoops_initial⟩

theorem Placed.bypass {kind : BlockKind} {endIndex : Int} (hw : m.program.WellLinked)
    (h : m.Placed i s) (ha : m.program.actionAt? i = some a) (ho : a.opens? = some kind)
    (he : a.endIndex? = some endIndex) : ∃ i', m.Placed i' (s.goto (endIndex + 1)) := by
  obtain ⟨j, hj, -⟩ := hw.opener ha ho
  rw [he] at hj
  cases hj
  exact ⟨j + 1, h.past hw ⟨a, ha, ho, he⟩ rfl rfl rfl⟩

/-- A skipped branch goes on after its block, or after the else of it. -/
theorem Placed.skip {negated : Bool} {ref : Ref} {elseIndex : Option Int} {endIndex : Int}
    (hw : m.program.WellLinked) (h : m.Placed i s)
    (ha : m.program.actionAt? i = some (.branch negated ref elseIndex endIndex)) :
    ∃ i', m.Placed i' (s.goto (elseIndex.getD endIndex + 1)) := by
  cases elseIndex with
  | none => exact h.bypass hw ha rfl rfl
  | some index =>
      obtain ⟨kind, e, j, rfl, -, -, -, he, -⟩ := hw.elseIndex ha rfl
      exact ⟨e + 1, h.goto rfl rfl (lt_size_of_actionAt? he) (framesEntered_else hw ⟨_, ha, rfl⟩)⟩

theorem Placed.turn {endIndex : Int} (hw : m.program.WellLinked) (h : m.Placed i s)
    (ha : m.program.actionAt? i = some (.alternative endIndex)) :
    ∃ i', m.Placed i' (s.goto (endIndex + 1)) := by
  obtain ⟨o, ho, -⟩ := hw.alternative ha
  obtain ⟨a, hopener, helse⟩ := id ho
  obtain ⟨kind, e, j, he, hb, -, -, hturn, -⟩ := hw.elseIndex hopener helse
  cases he
  rw [ha] at hturn
  cases hturn
  have hsame := framesEntered_succ hw ha (fun _ _ _ h => by cases h) fun _ _ h => by cases h
  exact ⟨j + 1, h.past hw hb rfl rfl (hsame.symm.trans (framesEntered_else hw ho))⟩

theorem Placed.enter {ref : Ref} {slot endIndex : Int} {value : Value} {items : Sequence}
    (hw : m.program.WellLinked) (h : m.Placed i s)
    (ha : m.program.actionAt? i = some (.loop ref slot endIndex))
    (hvalue : m.resolve s ref = .ok value) (hitems : value.sequence? = some items)
    (hlength : 0 < items.length) : m.Placed (i + 1) (s.enter slot ⟨items, 0⟩).advance := by
  obtain ⟨item, hitem, hbase⟩ := h.exists_item hw ha rfl
  have hfound : item.lookupPath ref.path = .ok value := by
    rw [← hvalue, resolve, hbase]
    rfl
  rw [frames_eq_framesEntered hw ha rfl] at hitem
  have hloops := h.loops.enter (f := ⟨ref.path, slot⟩) (slot_eq_framesEntered hw ha) hitem hfound
    hitems hlength
  rw [← framesEntered_loop hw ha] at hloops
  exact ⟨by simp [h.pc], lt_size_of_actionAt? ha, hloops.of_loops rfl⟩

theorem Placed.close {word : Text} {start : Int} (hw : m.program.WellLinked) (h : m.Placed i s)
    (ha : m.program.actionAt? i = some (.finish word start))
    (hword : word ≠ BlockKind.loopBlock.word) : m.Placed (i + 1) s.advance := by
  obtain ⟨kind, o, rfl, rfl, hb⟩ := hw.finish ha
  obtain ⟨a, ho, hopens, -⟩ := id hb
  have hsame : m.program.framesEntered i = m.program.framesEntered o := by
    rw [framesEntered_end hw hb]
    refine framesEntered_succ hw ho ?_ ?_
    · rintro ref slot endIndex rfl
      cases hopens
      exact hword rfl
    · rintro word start rfl
      cases hopens
  exact h.past hw hb (by simp [h.pc]) rfl hsame

theorem Placed.exists_loop {start : Int} (hw : m.program.WellLinked) (h : m.Placed i s)
    (ha : m.program.actionAt? i = some (.finish BlockKind.loopBlock.word start)) :
    ∃ (o : Nat) (place : Position) (ref : Ref) (slot : Int), start = o ∧
      m.opAt? start = some ⟨place, .loop ref slot i⟩ ∧
      m.program.actionAt? o = some (.loop ref slot i) ∧ m.program.Block .loopBlock o i ∧
      m.InLoops (m.program.framesEntered o ++ [⟨ref.path, slot⟩]) s := by
  obtain ⟨o, ref, slot, rfl, hb, ho⟩ := hw.exists_loop_of_finish ha
  have hloops := h.loops
  rw [framesEntered_loop_end hw hb ho] at hloops
  obtain ⟨⟨place, action⟩, hop, rfl⟩ := Option.map_eq_some_iff.mp ho
  exact ⟨o, place, ref, slot, rfl, by rw [opAt?_natCast, hop], ho, hb, hloops⟩

theorem Placed.next {start : Int} {place : Position} {ref : Ref} {slot endIndex : Int}
    {l : LoopState} (hw : m.program.WellLinked) (h : m.Placed i s)
    (ha : m.program.actionAt? i = some (.finish BlockKind.loopBlock.word start))
    (hop : m.opAt? start = some ⟨place, .loop ref slot endIndex⟩) (hl : s.loop? slot = some l)
    (hindex : l.index + 1 < l.items.length) :
    ∃ i', m.Placed i' ((s.enter slot ⟨l.items, l.index + 1⟩).goto (start + 1)) := by
  obtain ⟨o, place', ref', slot', rfl, hop', ho, -, hloops⟩ := h.exists_loop hw ha
  rw [hop] at hop'
  cases hop'
  have hnext := hloops.next hl hindex
  rw [← framesEntered_loop hw ho] at hnext
  exact ⟨o + 1, rfl, lt_size_of_actionAt? ho, hnext.of_loops rfl⟩

theorem Placed.leave {start : Int} {place : Position} {ref : Ref} {slot endIndex : Int}
    (hw : m.program.WellLinked) (h : m.Placed i s)
    (ha : m.program.actionAt? i = some (.finish BlockKind.loopBlock.word start))
    (hop : m.opAt? start = some ⟨place, .loop ref slot endIndex⟩) :
    m.Placed (i + 1) (s.leave slot).advance := by
  obtain ⟨o, place', ref', slot', rfl, hop', -, hb, hloops⟩ := h.exists_loop hw ha
  rw [hop] at hop'
  cases hop'
  have hleave := hloops.leave
  rw [← framesEntered_past hw hb] at hleave
  exact ⟨by simp [h.pc], lt_size_of_actionAt? ha, hleave.of_loops rfl⟩

/-- A move leads from a placed state to a placed state. -/
theorem placed_of_moves (hw : m.program.WellLinked) (h : m.Placed i s)
    (ha : m.program.actionAt? i = some a) (hm : m.Moves s a s') : ∃ i', m.Placed i' s' := by
  cases hm with
  | text | output | pass =>
      exact ⟨i + 1, h.advance hw ha rfl rfl (fun _ _ _ h => by cases h) fun _ _ h => by cases h⟩
  | skip => exact h.skip hw ha
  | turn => exact h.turn hw ha
  | enter hvalue hitems hlength => exact ⟨i + 1, h.enter hw ha hvalue hitems hlength⟩
  | bypass => exact h.bypass hw ha rfl rfl
  | close hword => exact ⟨i + 1, h.close hw ha hword⟩
  | next hop hl hindex => exact h.next hw ha hop hl hindex
  | leave hop hl => exact ⟨i + 1, h.leave hw ha hop⟩

theorem placed_of_reachable (hw : m.program.WellLinked) (h : m.Reachable s) :
    ∃ i, m.Placed i s := by
  obtain ⟨k, h⟩ := h
  refine h.invariant (P := fun s => ∃ i, m.Placed i s) ⟨0, placed_initial m⟩
    fun {s s' op} hs hpc hop hm => ?_
  obtain ⟨i, hi⟩ := hs
  exact placed_of_moves hw hi (hi.actionAt?_eq hop) hm

/-! ## What a placed state has -/

/-- What holds of the state of a run. -/
structure Safe (m : Setup) (s : State) : Prop where
  pc_nonneg : 0 ≤ s.pc
  pc_le_size : s.pc ≤ m.program.size
  /-- The loops being run have the numbers 1, …, k, where k loops are around the position. -/
  live : ∀ slot : Int, (∃ l, s.loop? slot = some l) ↔
    1 ≤ slot ∧ slot ≤ (m.program.framesEntered s.pc.toNat).length
  /-- A loop is at one of its items, so it has some. -/
  index : ∀ {slot : Int} {l : LoopState}, s.loop? slot = some l → l.index < l.items.length
  /-- The position, the table and the links are as a step needs them. -/
  supplied : m.Supplied s
  /-- A step fails only where a value does. -/
  failed : ∀ {e : Error}, m.step s = .failed e →
    ∃ op, m.opAt? s.pc = some op ∧ m.Faults s op.action e
  /-- A loop that is about to start has a number of which no loop is left. -/
  fresh : ∀ {op : Op} {ref : Ref} {slot endIndex : Int}, m.opAt? s.pc = some op →
    op.action = .loop ref slot endIndex → s.loop? slot = none
  /-- No loop is left where the run ends. -/
  ended : ∀ {t : Text}, m.step s = .finished t → s.loops = []

theorem Placed.supplied (hl : m.program.LinkedOn 0 m.program.size []) (h : m.Placed i s) :
    m.Supplied s := by
  have hw := WellLinked.of_linkedOn hl
  constructor
  case operation =>
    intro hpc
    rw [h.pc] at hpc
    obtain ⟨a, ha, hne⟩ := hl.exists_action (Nat.zero_le i) (Int.ofNat_lt.mp hpc)
    obtain ⟨op, hop, rfl⟩ := Option.map_eq_some_iff.mp ha
    exact ⟨op, by rw [h.pc, opAt?_natCast, hop], hne⟩
  case item =>
    intro op ref hop hr
    obtain ⟨item, -, hbase⟩ := h.exists_item hw (h.actionAt?_eq hop) hr
    exact ⟨item, hbase⟩
  case opener =>
    intro op start hop hfinish
    have ha := h.actionAt?_eq hop
    rw [hfinish] at ha
    obtain ⟨o, place, ref, slot, -, hopener, -, -, hloops⟩ := h.exists_loop hw ha
    obtain ⟨l, item, found, hl, -⟩ := hloops.holds _ _ [] rfl
    exact ⟨place, ref, slot, i, l, hopener, hl⟩

theorem Placed.safe (hl : m.program.LinkedOn 0 m.program.size []) (h : m.Placed i s) :
    m.Safe s := by
  have hw := WellLinked.of_linkedOn hl
  have hpc : s.pc.toNat = i := by rw [h.pc, Int.toNat_natCast]
  constructor
  case pc_nonneg => exact h.pc ▸ Int.natCast_nonneg i
  case pc_le_size => exact h.pc ▸ Int.ofNat_le.mpr h.le_size
  case live => exact hpc ▸ h.loops.live
  case index => exact h.loops.index_lt
  case supplied => exact h.supplied hl
  case failed => exact (h.supplied hl).faults_of_failed
  case fresh =>
    intro op ref slot endIndex hop hact
    have ha := h.actionAt?_eq hop
    rw [hact] at ha
    refine Option.eq_none_iff_forall_ne_some.mpr fun l hlive => ?_
    have hle := (h.loops.live slot).mp ⟨l, hlive⟩
    have hslot := slot_eq_framesEntered hw ha
    omega
  case ended =>
    intro t hstep
    have hsize := size_le_of_finished hstep
    rw [h.pc] at hsize
    obtain rfl : i = m.program.size := Nat.le_antisymm h.le_size (Int.ofNat_le.mp hsize)
    refine State.loops_eq_nil fun slot => Option.eq_none_iff_forall_ne_some.mpr fun l hlive => ?_
    have hle := (h.loops.live slot).mp ⟨l, hlive⟩
    rw [framesEntered_size hw, List.length_nil] at hle
    omega

end Machine.Setup

namespace Compilation

open Program Machine Machine.Setup

section

variable [Traits] {c : Compilation} {tokens : List Token}

/-- **Every state of a run of a compiled program is safe**, whatever the data and the escapers. -/
theorem safe_of_reachable {m : Setup} {s : State} (h : (c.compile tokens).result = .ok m.program)
    (hs : m.Reachable s) : m.Safe s := by
  obtain ⟨body, hb⟩ := exists_body_of_compile h
  have hl := linkedOn_of_code hb
  obtain ⟨i, hi⟩ := placed_of_reachable (.of_linkedOn hl) hs
  exact hi.safe hl

end

attribute [local instance] Traits.bare

/-- At the second row of a loop, before its end, in a template whose next loop has the same
number. -/
theorem safe_second_row :
    let c : Compilation := ⟨false, none, .outermost none, .null⟩
    let tokens : List Token :=
      [⟨.opening .loopBlock "rows", ⟨1, 0⟩, .plain⟩, ⟨.output "a", ⟨1, 17⟩, .html⟩,
        ⟨.closing "loop", ⟨1, 30⟩, .plain⟩, ⟨.opening .loopBlock "rows", ⟨1, 42⟩, .plain⟩]
    let p : Program :=
      ⟨#[⟨⟨1, 0⟩, .loop ⟨[], ["rows"]⟩ 1 2⟩, ⟨⟨1, 17⟩, .output ⟨[⟨["rows"], 1⟩], ["a"]⟩ .html⟩,
        ⟨⟨1, 30⟩, .finish "loop" 0⟩, ⟨⟨1, 42⟩, .loop ⟨[], ["rows"]⟩ 1 4⟩,
        ⟨⟨1, 42⟩, .finish "loop" 3⟩], none⟩
    let rows : List Value := [.dict [(.text "a", .text "x")], .dict [(.text "a", .text "y")]]
    let data : Value := .dict [(.text "rows", .list rows)]
    let s : State := ⟨2, ["y", "x"], [(1, ⟨.items rows, 1⟩)]⟩
    let m : Setup := ⟨p, data, .standard⟩
    (c.compile tokens).result = .ok p ∧ m.Reachable s ∧ m.Safe s := by
  intro c tokens p rows data s m
  have h : (c.compile tokens).result = .ok p := by rfl
  have hs : m.Reachable s := ⟨4, .cons rfl (.cons rfl (.cons rfl (.cons rfl (.refl s))))⟩
  exact ⟨h, hs, safe_of_reachable h hs⟩

end Compilation

end TagTemplate
