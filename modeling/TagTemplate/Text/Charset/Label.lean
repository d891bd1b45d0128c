/-
# Labels — names in ASCII with labels that stand for other texts

A name has labels with dots between them.  A label with the prefix `xn--` stands for
the text that the rest of it is in Punycode, if that text in turn has this label.

The label of a text is found as follows.  An ASCII text is its own label.  Another
one is prepared: code points that do not count are left out, case is lost, and what is
alike is made equal.  If it is ASCII then, it is its own label; else its label is the
prefix and the text in Punycode.
-/
import TagTemplate.Text.Charset.LabelTable
import TagTemplate.Text.Charset.Punycode
import TagTemplate.Text.Normal

namespace TagTemplate.Label

/-- What labels that stand for other texts begin with. -/
def marker : Text := "xn--"

/-- A code point without case. -/
def caseless (c : CodePoint) : Text :=
  match (folded.findSome? fun f => if f.1 ≤ c.val then f.2[c.val - f.1]? else none).filter
    (· != "") with
  | some t => t
  | none => c.lower

/-- A code point without case, also after what is alike has been made equal. -/
def mapped (c : CodePoint) : Text :=
  let t := caseless c
  let u := Text.normal t
  let v := Text.normal (u.flatMap caseless)
  if u = v then t else v

/-- A label may not have code points of both directions; one from right to left begins and ends so. -/
def checkDirection (t : Text) : Except LabelFault Unit :=
  let isLeftward (c : CodePoint) : Bool := c.inRanges leftward
  if !t.any isLeftward then .ok ()
  else if t.any (·.inRanges rightward) then .error .mixedDirections
  else if (t.head?.any isLeftward) && (t.getLast?.any isLeftward) then .ok ()
  else .error .openDirection

/-- A text prepared for a label. -/
def prepare (t : Text) : Except LabelFault Text := do
  let t := Text.normal ((t.filter fun c => !c.inRanges ignored).flatMap mapped)
  match t.find? (·.inRanges forbidden) with
  | some c => throw (.forbidden c)
  | none =>
    checkDirection t
    return t

def isAscii (t : Text) : Bool := t.all (·.val < 0x80)

/-- A label of a size that labels may have. -/
def sized (t : Text) : Except LabelFault Text :=
  if 0 < t.length && t.length < 64 then .ok t else .error .badSize

def ofText (t : Text) : Except LabelFault Text := do
  if isAscii t then sized t
  else
    let t ← prepare t
    if isAscii t then sized t
    else if marker.isPrefixOf t then throw .prefixed
    else sized (marker ++ Punycode.encode t)

/-- The text of a label, in which a fault in its Punycode counts as one of the label. -/
def text (label : Text) : Except Undecodable Text :=
  if marker.isPrefixOf label then do
    let t ← match Punycode.decode ((label.drop marker.length).map fun c => .ofNat c.val) with
      | .error (.punycode fault) => .error (.label (.punycode fault))
      | decoded => decoded
    let other ← (ofText t).mapError .label
    if label.lower = other then return t else throw (.label (.altered label other))
  else .ok label

/-- The text that bytes are as labels between dots. -/
def decode (bytes : List UInt8) : Except Undecodable Text := do
  let labels := (← (Text.decodeAscii bytes).mapError .badBytes).splitOn '.'
  return Text.join "." (← labels.mapM text)

end TagTemplate.Label
