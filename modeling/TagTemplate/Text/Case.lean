/-
# Case of letters

Two notions of case, for two purposes.

* **Folding** compares tag keywords without case.  Every code point that is a
  case variant of an ASCII letter counts as that letter: besides `A` to `Z`
  these are the dotted capital and the dotless small i, the long s and the
  kelvin sign.
* **Mapping** turns a whole text into upper or lower case.  One letter may
  become several, and a capital sigma at the end of a word has a form of its
  own.
-/
import TagTemplate.Text.CaseTable
import TagTemplate.Text.Basic

namespace TagTemplate

namespace CodePoint

/-- The code point numbered `n`; beyond the last one, the replacement character. -/
def ofNatOrReplacement (n : Nat) : CodePoint := (ofNat? n).getD (ofChar '\uFFFD')

/-- The small ASCII letter that `c` is a case variant of, else `c` itself. -/
def fold (c : CodePoint) : CodePoint :=
  if 0x41 ≤ c.val && c.val ≤ 0x5a then ofNatOrReplacement (c.val + 0x20)
  else if c.val = 0x130 || c.val = 0x131 then ofChar 'i'
  else if c.val = 0x17f then ofChar 's'
  else if c.val = 0x212a then ofChar 'k'
  else c

/-- The lower case of `c` on its own. -/
def lower (c : CodePoint) : Text :=
  if c.val = 0x130 then [ofNatOrReplacement 0x69, ofNatOrReplacement 0x307]
  else match CaseRun.find? lowerRuns c.val with
    | some n => [ofNatOrReplacement n]
    | none => [c]

def upper (c : CodePoint) : Text :=
  match upperExpansions.find? (·.1 == c.val) with
  | some (_, ns) => ns.map ofNatOrReplacement
  | none => match CaseRun.find? upperRuns c.val with
    | some n => [ofNatOrReplacement n]
    | none => [c]

/-- The next code point that is not ignored by case rules is a cased letter. -/
def meetsCased (t : Text) : Bool :=
  ((t.dropWhile (·.inRanges caseIgnorableRanges)).head?.map (·.inRanges casedRanges)).getD false

end CodePoint

namespace Text

def upper (t : Text) : Text := t.flatMap CodePoint.upper

/-- The text in lower case, given what stands before it, nearest first.
A capital sigma that ends a word becomes the final form. -/
def lowerAfter : (before : Text) → Text → Text
  | _, [] => []
  | before, c :: after =>
    let small :=
      if c.val = 0x3a3 && CodePoint.meetsCased before && !CodePoint.meetsCased after then
        [CodePoint.ofNatOrReplacement 0x3c2]
      else c.lower
    small ++ lowerAfter (c :: before) after

def lower (t : Text) : Text := lowerAfter [] t

/-- The texts agree up to the case of ASCII letters. -/
def sameFolded (a b : Text) : Bool := a.map CodePoint.fold == b.map CodePoint.fold

end Text

end TagTemplate
