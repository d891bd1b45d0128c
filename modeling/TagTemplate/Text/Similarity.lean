/-
# Similarity — the close match of a name

Two texts are compared by their *matching blocks*: take the longest run that
occurs in both (the earliest in the first text, then in the second, if several
are as long), then do the same to the left and to the right of it.  With `m`
code points in blocks, texts of lengths `k` and `l` are similar to the degree

    2 m / (k + l)          and two empty texts to the degree 1.

In a second text of 200 code points or more those that fill over one per cent of
it start no block, though a block may extend over them.
-/
import TagTemplate.Text.Basic

namespace TagTemplate.Similarity

/-- A run of `length` code points at `left` in one text and at `right` in another. -/
structure Block where
  left : Nat
  right : Nat
  length : Nat

/-- The code points of a long text that are too frequent to start a block. -/
def popular (t : Text) : Text :=
  if t.length < 200 then []
  else t.eraseDups.filter fun c => t.count c > t.length / 100 + 1

/-- How far `a` and `b` agree from their start, up to the first code point in `stop`. -/
def commonStart (stop : Text) : Text → Text → Nat
  | x :: a, y :: b => if x = y && !stop.contains x then commonStart stop a b + 1 else 0
  | _, _ => 0

/-- The suffixes of a text, each with its place; `start` is the place of the first. -/
def suffixes (start : Nat) : Text → List (Nat × Text)
  | [] => []
  | c :: r => (start, c :: r) :: suffixes (start + 1) r

/-- The longest common run without the code points in `stop`,
the earliest in `a` and then in `b`. -/
def seed (stop a b : Text) : Block :=
  (suffixes 0 a).foldl
    (fun best l => (suffixes 0 b).foldl
      (fun best r =>
        let n := commonStart stop l.2 r.2
        if best.length < n then ⟨l.1, r.1, n⟩ else best)
      best)
    ⟨0, 0, 0⟩

/-- The block with what the texts share on either side of it. -/
def extend (a b : Text) (s : Block) : Block :=
  let before := commonStart [] (a.take s.left).reverse (b.take s.right).reverse
  let after := commonStart [] (a.drop (s.left + s.length)) (b.drop (s.right + s.length))
  ⟨s.left - before, s.right - before, before + s.length + after⟩

/-- The number of code points in matching blocks, found to a depth of `fuel`. -/
def matched (stop : Text) : (fuel : Nat) → Text → Text → Nat
  | 0, _, _ => 0
  | fuel + 1, a, b =>
    let m := extend a b (seed stop a b)
    if m.length = 0 then 0
    else matched stop fuel (a.take m.left) (b.take m.right) + m.length +
      matched stop fuel (a.drop (m.left + m.length)) (b.drop (m.right + m.length))

/-- A degree of similarity, as a quotient of two numbers. -/
structure Degree where
  numerator : Nat
  denominator : Nat

namespace Degree

/-- How similar `a` is to `b`. -/
def of (a b : Text) : Degree :=
  if a.length + b.length = 0 then ⟨1, 1⟩
  else ⟨2 * matched (popular b) (a.length + 1) a b, a.length + b.length⟩

/-- The order of degrees. -/
def le (d e : Degree) : Bool := d.numerator * e.denominator ≤ e.numerator * d.denominator

/-- Below three fifths, texts are not close. -/
def isClose (d : Degree) : Bool := le ⟨3, 5⟩ d

end Degree

/-- The candidate most similar to `name` if one is close; of equals, the last in order. -/
def closest? (name : Text) (candidates : List Text) : Option Text :=
  let scored := (candidates.map fun c => (Degree.of c name, c)).filter (·.1.isClose)
  let better (x y : Degree × Text) : Bool :=
    !x.1.le y.1 || (y.1.le x.1 && !x.2.le y.2)
  (scored.foldl (fun best x => match best with
    | none => some x
    | some y => if better x y then some x else some y) none).map (·.2)

end TagTemplate.Similarity
