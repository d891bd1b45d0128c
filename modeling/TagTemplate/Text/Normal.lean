/-
# Normal form — texts that are alike made equal

Texts that differ only in how their code points are put together, or in the style of
these, have one normal form.  It is found in three steps.

    taken apart      every code point is replaced by its parts
    put in order     marks of different classes behind a letter are sorted
    put together     a letter and a mark become one code point where there is one

A mark is not put together with a letter if one of the same or a higher class
stands between them.
-/
import TagTemplate.Text.Normal.Compositions
import TagTemplate.Text.Normal.Decompositions

namespace TagTemplate

namespace Normal

/-- The sounds of a syllable of Hangul. -/
def sounds? (c : CodePoint) : Option (List Nat) :=
  if 0xac00 ≤ c.val && c.val ≤ 0xd7a3 then
    let index := c.val - 0xac00
    let final := index % 28
    some ([0x1100 + index / 588, 0x1161 + index % 588 / 28] ++
      if final = 0 then [] else [0x11a7 + final])
  else none

/-- The decomposition of a code point that is listed. -/
def listed? (c : CodePoint) : Option String :=
  (decompositions.findSome? fun d => if d.1 ≤ c.val then d.2[c.val - d.1]? else none).filter
    (· != "")

/-- The parts of a code point. -/
def parts (c : CodePoint) : Text :=
  match sounds? c with
  | some ns => ns.filterMap CodePoint.ofNat?
  | none => match listed? c with
    | some t => t
    | none => [c]

/-- The class of a mark; zero for what is no mark. -/
def markClass (c : CodePoint) : Nat :=
  ((classRuns.find? fun r => r.1 ≤ c.val && c.val ≤ r.2.1).map (·.2.2)).getD 0

/-- A code point put in front of a text in order, behind marks of a lower class. -/
def place (c : CodePoint) : Text → Text
  | [] => [c]
  | d :: r =>
    if 0 < markClass d && markClass d < markClass c then d :: place c r else c :: d :: r

/-- The text with its marks in order. -/
def ordered : Text → Text
  | [] => []
  | c :: r => place c (ordered r)

/-- The syllable of Hangul that two code points become: two sounds, or a syllable and a sound. -/
def syllable? (a b : CodePoint) : Option CodePoint :=
  if 0x1100 ≤ a.val && a.val ≤ 0x1112 && 0x1161 ≤ b.val && b.val ≤ 0x1175 then
    CodePoint.ofNat? (0xac00 + ((a.val - 0x1100) * 21 + (b.val - 0x1161)) * 28)
  else if 0xac00 ≤ a.val && a.val ≤ 0xd7a3 && (a.val - 0xac00) % 28 = 0 &&
      0x11a8 ≤ b.val && b.val ≤ 0x11c2 then
    CodePoint.ofNat? (a.val + (b.val - 0x11a7))
  else none

/-- What stands behind a code point in a text of pairs. -/
def partner? (a : CodePoint) : Text → Option CodePoint
  | b :: c :: r => if b = a then some c else partner? a r
  | _ => none

/-- The code point that two become. -/
def pair? (a b : CodePoint) : Option CodePoint :=
  syllable? a b <|>
    (compositions.lookup b.val).bind fun lines =>
      lines.findSome? fun (line : String) => partner? a line

/-- A text put together, of which `base` and the `marks` behind it have been read; `last` is the class
of the last of these. -/
def composedFrom (base : CodePoint) (marks : Text) (last : Nat) : Text → Text
  | [] => base :: marks
  | c :: r =>
    let rank := markClass c
    let isBlocked := !marks.isEmpty && rank ≤ last
    match if isBlocked then none else pair? base c with
    | some b => composedFrom b marks last r
    | none =>
      if rank = 0 then base :: marks ++ composedFrom c [] 0 r
      else composedFrom base (marks ++ [c]) rank r

/-- A text in order put together. -/
def composed : Text → Text
  | [] => []
  | c :: r => composedFrom c [] 0 r

end Normal

def Text.normal (t : Text) : Text := Normal.composed (Normal.ordered (t.flatMap Normal.parts))

end TagTemplate
