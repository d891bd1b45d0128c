/-
# White space

The code points that may stand between the parts of a tag: those with the
Unicode bidirectional class or category of a space, and the separators
U+001C to U+001F.
-/
import TagTemplate.Text.Basic

namespace TagTemplate

def blankRanges : List (Nat × Nat) :=
  [
    (0x9, 0xd), (0x1c, 0x20), (0x85, 0x85), (0xa0, 0xa0), (0x1680, 0x1680), (0x2000, 0x200a),
    (0x2028, 0x2029), (0x202f, 0x202f), (0x205f, 0x205f), (0x3000, 0x3000)]

def CodePoint.isBlank (c : CodePoint) : Bool := c.inRanges blankRanges

end TagTemplate
