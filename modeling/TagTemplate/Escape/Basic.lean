/-
# Escaping — what stands between a value and the output

A variable may ask for its text to be escaped, in one of two ways.  What the
ways do is not fixed: an escaper is any function on texts that may fail, and a
table says which escaper serves which mode.  A mode without an escaper leaves
text as it is.
-/
import TagTemplate.Error

namespace TagTemplate

/-- How a variable's text is escaped. -/
inductive EscapeMode where
  | plain
  | html
  | url
deriving DecidableEq

namespace EscapeMode

def word : EscapeMode → Text
  | plain => "none"
  | html => "html"
  | url => "url"

def all : List EscapeMode := [plain, html, url]

def ofWord? (word : Text) : Option EscapeMode := all.find? (·.word == word)

end EscapeMode

/-- An escaper turns one text into another, or fails. -/
abbrev Escaper := Text → Except Error Text

/-- Which escaper serves which mode. -/
structure EscapeTable where
  plain : Option Escaper
  html : Option Escaper
  url : Option Escaper

namespace EscapeTable

def empty : EscapeTable := ⟨none, none, none⟩

def isEmpty (t : EscapeTable) : Bool := t.plain.isNone && t.html.isNone && t.url.isNone

def get? (t : EscapeTable) : EscapeMode → Option Escaper
  | .plain => t.plain
  | .html => t.html
  | .url => t.url

def apply (t : EscapeTable) (mode : EscapeMode) (text : Text) : Except Error Text :=
  match t.get? mode with
  | some escaper => escaper text
  | none => .ok text

end EscapeTable

end TagTemplate
