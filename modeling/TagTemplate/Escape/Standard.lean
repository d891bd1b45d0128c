/-
# The standard escapers

Unless a table of escapers says otherwise, `html` escapes for markup and `url`
percent-encodes.
-/
import TagTemplate.Escape.Html
import TagTemplate.Escape.Percent

namespace TagTemplate.EscapeTable

/-- The escapers used unless others are given. -/
def standard : EscapeTable where
  plain := none
  html := some fun t => .ok (Text.htmlEscaped t)
  url := some Text.percentEncoded

/-- The table itself, or the standard one if it has no escaper. -/
def orStandard (t : EscapeTable) : EscapeTable := if t.isEmpty then standard else t

end TagTemplate.EscapeTable
