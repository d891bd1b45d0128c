/-
# Lines

Two ways to cut a text into lines.

* A template counts lines by line feeds, once carriage returns (alone or
  before a line feed) have been turned into line feeds.
* The snippet of an error message cuts at every line boundary of the Unicode
  standard: line feed, carriage return or both, the vertical tab and form feed,
  the separators U+001C to U+001E, U+0085, U+2028 and U+2029.  Nothing follows
  a boundary at the end.
-/
import TagTemplate.Text.Basic

namespace TagTemplate.Text

def lineFeed : CodePoint := .ofChar '\n'

def carriageReturn : CodePoint := .ofChar '\r'

/-- The text with every carriage return, alone or before a line feed, as one line feed. -/
def normalizeNewlines : Text → Text
  | [] => []
  | [c] => if c = carriageReturn then [lineFeed] else [c]
  | c :: d :: r =>
    if c = carriageReturn then
      if d = lineFeed then lineFeed :: normalizeNewlines r
      else lineFeed :: normalizeNewlines (d :: r)
    else c :: normalizeNewlines (d :: r)

/-- The lines of a template: the pieces between its line feeds. -/
def lines (t : Text) : List Text := t.splitOn lineFeed

/-- The code points that bound lines. -/
def isLineBoundary (c : CodePoint) : Bool :=
  c.inRanges [(0x0a, 0x0d), (0x1c, 0x1e), (0x85, 0x85), (0x2028, 0x2029)]

/-- The lines of a text cut at every boundary, after the code points of `line` (last first). -/
def boundedLinesAfter : (line : Text) → Text → List Text
  | [], [] => []
  | line, [] => [line.reverse]
  | line, [c] => if isLineBoundary c then [line.reverse] else [(c :: line).reverse]
  | line, c :: d :: r =>
    if c = carriageReturn && d = lineFeed then line.reverse :: boundedLinesAfter [] r
    else if isLineBoundary c then line.reverse :: boundedLinesAfter [] (d :: r)
    else boundedLinesAfter (c :: line) (d :: r)

/-- The lines of a text cut at every boundary. -/
def boundedLines (t : Text) : List Text := boundedLinesAfter [] t

end TagTemplate.Text
