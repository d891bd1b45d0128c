/-
# Charts — code points in rows and columns

A chart gives code points to pairs of numbers.  It is put together from blocks,
each a rectangle of the chart; a blank in a block is a place without code point.
Where blocks overlap, the first one counts.
-/
import TagTemplate.Text.Case

namespace TagTemplate

/-- A rectangle of a chart. -/
structure Chart.Block where
  /-- The number of its first row. -/
  row : Nat
  /-- The number of its first column. -/
  column : Nat
  lines : List String

/-- Code points in rows and columns. -/
structure Chart where
  blocks : List Chart.Block

namespace Chart

def Block.at? (b : Block) (row column : Nat) : Option CodePoint := do
  if row < b.row || column < b.column then none
  else
    let line ← b.lines[row - b.row]?
    let c ← line.toList[column - b.column]?
    if c = ' ' then none else some (.ofChar c)

def at? (chart : Chart) (row column : Nat) : Option CodePoint :=
  chart.blocks.findSome? (·.at? row column)

/-- The code point of two bytes that are a row and a column with 80 added to each. -/
def raised? (chart : Chart) (b₀ b₁ : Nat) : Option CodePoint :=
  if b₀ < 0x80 || b₁ < 0x80 then none else chart.at? (b₀ - 0x80) (b₁ - 0x80)

end Chart

end TagTemplate
