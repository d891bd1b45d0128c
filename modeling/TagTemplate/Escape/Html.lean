/-
# HTML escaping

The five characters that mean something in markup become entities, so that
the text can stand in the content of an element or in a quoted attribute:

    &  &amp;     <  &lt;     >  &gt;     "  &quot;     '  &#39;
-/
import TagTemplate.Escape.Basic

namespace TagTemplate

/-- The characters that are escaped, each with its entity. -/
def htmlEntities : List (CodePoint × Text) :=
  [(.ofChar '&', "&amp;"), (.ofChar '<', "&lt;"), (.ofChar '>', "&gt;"),
   (.ofChar '\x22', "&quot;"), (.ofChar '\x27', "&#39;")]

/-- A code point as it is written in markup. -/
def CodePoint.htmlEscaped (c : CodePoint) : Text := (htmlEntities.lookup c).getD [c]

def Text.htmlEscaped (t : Text) : Text := t.flatMap CodePoint.htmlEscaped

end TagTemplate
