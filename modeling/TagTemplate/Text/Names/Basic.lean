/-
# Names — runs of code points with names

The names of neighbours often begin alike.  A run gives the names of code points
that follow one another, by what all of them begin with and what comes after that
in each.
-/
import TagTemplate.Text.Case

namespace TagTemplate

/-- Names of code points that follow one another. -/
structure NameRun where
  /-- The first of the code points. -/
  first : Nat
  /-- What the names begin with. -/
  stem : String
  /-- What comes after that, with commas between the names. -/
  tails : List String

namespace NameRun

/-- The code point of a name, if it is one of the run. -/
def find? (run : NameRun) (name : Text) : Option CodePoint := do
  let stem : Text := run.stem
  if stem.isPrefixOf name then
    let tail := name.drop stem.length
    let tails := run.tails.flatMap fun (line : String) => Text.splitOn ',' line
    CodePoint.ofNat? (run.first + (← tails.findIdx? (· == tail)))
  else none

end NameRun

end TagTemplate
