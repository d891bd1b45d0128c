/-
# The layout of bodies — where a tree lies in a program

`body.code start scope` lays a body out as the operations from index `start` on,
with names resolved in `scope` and with every index filled in:

    i        branch … j        opener, with the index j of its end
    i + 1    body
    j        finish "if" i     end, with the index i of its opener

What a program holds from an index on (`HasCode`) is taken apart along the body,
one lemma for each constructor, so that no later proof counts operations.
-/
import TagTemplate.Program.Basic
import TagTemplate.Proofs.Block.Body

namespace TagTemplate

/-! ## Bodies -/

namespace Body

def size : Body → Nat
  | empty => 0
  | text before _ _ | output before _ _ _ => before.size + 1
  | branch before _ _ _ body _ | loop before _ _ body _ => before.size + body.size + 2
  | choice before _ _ _ body _ other _ => before.size + body.size + other.size + 3

/-- The operations of a body that starts at an index, in a scope. -/
def code : Body → (start : Nat) → Scope → List Op
  | empty, _, _ => []
  | text before place value, start, scope => before.code start scope ++ [⟨place, .text value⟩]
  | output before place name escape, start, scope =>
    before.code start scope ++ [⟨place, .output (scope.resolve name) escape⟩]
  | branch before place negated name body close, start, scope =>
    let opener := start + before.size
    let finish := opener + 1 + body.size
    before.code start scope ++
      ⟨place, .branch negated (scope.resolve name) none finish⟩ ::
        (body.code (opener + 1) scope ++ [⟨close, .finish (BlockKind.guarded negated).word opener⟩])
  | choice before place negated name body turn other close, start, scope =>
    let opener := start + before.size
    let alternative := opener + 1 + body.size
    let finish := alternative + 1 + other.size
    before.code start scope ++
      ⟨place, .branch negated (scope.resolve name) (some alternative) finish⟩ ::
        (body.code (opener + 1) scope ++
          ⟨turn, .alternative finish⟩ ::
            (other.code (alternative + 1) scope ++
              [⟨close, .finish (BlockKind.guarded negated).word opener⟩]))
  | loop before place name body close, start, scope =>
    let opener := start + before.size
    let finish := opener + 1 + body.size
    before.code start scope ++
      ⟨place, .loop (scope.resolve name) (scope.frameFor name).slot finish⟩ ::
        (body.code (opener + 1) (scope.push name) ++
          [⟨close, .finish BlockKind.loopBlock.word opener⟩])

@[simp] theorem length_code (b : Body) :
    ∀ (start : Nat) (scope : Scope), (b.code start scope).length = b.size := by
  induction b with
  | empty => intro _ _; rfl
  | text before _ _ ih | output before _ _ _ ih => intro start scope; simp [code, size, ih]
  | branch before _ _ _ body _ ih₁ ih₂ | loop before _ _ body _ ih₁ ih₂ =>
      intro start scope
      simp only [code, size, List.length_append, List.length_cons, List.length_nil, ih₁, ih₂]
      omega
  | choice before _ _ _ body _ other _ ih₁ ih₂ ih₃ =>
      intro start scope
      simp only [code, size, List.length_append, List.length_cons, List.length_nil, ih₁, ih₂, ih₃]
      omega

end Body

/-! ## Code in programs -/

/-- The operations stand in the program from an index on. -/
def Program.HasCode (p : Program) (start : Nat) (ops : List Op) : Prop :=
  ∀ i, i < ops.length → p.ops[start + i]? = ops[i]?

namespace Program.HasCode

variable {p : Program} {start : Nat} {op : Op} {xs ys : List Op}

theorem left (h : p.HasCode start (xs ++ ys)) : p.HasCode start xs := by
  intro i hi
  rw [h i (by simp; omega), List.getElem?_append_left hi]

theorem right (h : p.HasCode start (xs ++ ys)) : p.HasCode (start + xs.length) ys := by
  intro i hi
  have hx := h (xs.length + i) (by simp; omega)
  rw [Nat.add_assoc, hx, List.getElem?_append_right (by omega), Nat.add_sub_cancel_left]

theorem head (h : p.HasCode start (op :: xs)) : p.ops[start]? = some op := h 0 (by simp)

theorem tail (h : p.HasCode start (op :: xs)) : p.HasCode (start + 1) xs := by
  intro i hi
  have hx := h (i + 1) (by simp; omega)
  rw [Nat.add_assoc, Nat.add_comm 1, hx, List.getElem?_cons_succ]

theorem whole (h : p.ops.toList = xs) : p.HasCode 0 xs := by
  intro i hi
  rw [Nat.zero_add, ← h, Array.getElem?_toList]

end Program.HasCode

/-! The pieces of a body's code, each with the index it starts at. -/

namespace Body

variable {p : Program} {start : Nat} {scope : Scope} {before body other : Body}
  {place turn close : Position} {name : Text} {negated : Bool}

theorem code_text {value : Text}
    (h : p.HasCode start ((text before place value).code start scope)) :
    p.HasCode start (before.code start scope) ∧
      p.ops[start + before.size]? = some ⟨place, .text value⟩ :=
  ⟨h.left, by simpa using h.right.head⟩

theorem code_output {escape : EscapeMode}
    (h : p.HasCode start ((output before place name escape).code start scope)) :
    p.HasCode start (before.code start scope) ∧
      p.ops[start + before.size]? = some ⟨place, .output (scope.resolve name) escape⟩ :=
  ⟨h.left, by simpa using h.right.head⟩

theorem code_branch
    (h : p.HasCode start ((branch before place negated name body close).code start scope)) :
    let opener := start + before.size
    let finish := opener + 1 + body.size
    p.HasCode start (before.code start scope) ∧
      p.ops[opener]? = some ⟨place, .branch negated (scope.resolve name) none finish⟩ ∧
      p.HasCode (opener + 1) (body.code (opener + 1) scope) ∧
      p.ops[finish]? = some ⟨close, .finish (BlockKind.guarded negated).word opener⟩ := by
  have h₁ := h.right
  rw [length_code] at h₁
  exact ⟨h.left, h₁.head, h₁.tail.left, by simpa using h₁.tail.right.head⟩

theorem code_choice (h : p.HasCode start
      ((choice before place negated name body turn other close).code start scope)) :
    let opener := start + before.size
    let alternative := opener + 1 + body.size
    let finish := alternative + 1 + other.size
    p.HasCode start (before.code start scope) ∧
      p.ops[opener]? =
        some ⟨place, .branch negated (scope.resolve name) (some alternative) finish⟩ ∧
      p.HasCode (opener + 1) (body.code (opener + 1) scope) ∧
      p.ops[alternative]? = some ⟨turn, .alternative finish⟩ ∧
      p.HasCode (alternative + 1) (other.code (alternative + 1) scope) ∧
      p.ops[finish]? = some ⟨close, .finish (BlockKind.guarded negated).word opener⟩ := by
  have h₁ := h.right
  rw [length_code] at h₁
  have h₂ := h₁.tail.right
  rw [length_code] at h₂
  exact ⟨h.left, h₁.head, h₁.tail.left, h₂.head, h₂.tail.left, by simpa using h₂.tail.right.head⟩

theorem code_loop (h : p.HasCode start ((loop before place name body close).code start scope)) :
    let opener := start + before.size
    let finish := opener + 1 + body.size
    p.HasCode start (before.code start scope) ∧
      p.ops[opener]? =
        some ⟨place, .loop (scope.resolve name) (scope.frameFor name).slot finish⟩ ∧
      p.HasCode (opener + 1) (body.code (opener + 1) (scope.push name)) ∧
      p.ops[finish]? = some ⟨close, .finish BlockKind.loopBlock.word opener⟩ := by
  have h₁ := h.right
  rw [length_code] at h₁
  exact ⟨h.left, h₁.head, h₁.tail.left, by simpa using h₁.tail.right.head⟩

end Body

end TagTemplate
