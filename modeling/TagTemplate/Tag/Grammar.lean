/-
# Tags — the grammar of the markup

A tag is one of four forms, its letters in any case:

    <tmpl_K name="N" escape="E">    K one of var, if, unless, loop, include
    </tmpl_K>                       K one of if, unless, loop
    <tmpl_else>
    <tmpl_unless>

In the first form the words `name=`, each quotation mark and the escape are
optional, white space must stand before the name and may stand after it and
after the escape.  A name is made of ASCII letters (in any case), digits,
underscores, dashes and dots; an escape is `html` or `url`.

No space is needed between a name and an escape, so a run of code points that
may be in a name need not all be the name: in `xescape=html` the name is `x`.
Since `=` is in no name, this is so only where `=` follows, and then the word
`escape` must stand before it.  Nothing else leaves a choice.
-/
import TagTemplate.Tag.Recogniser

namespace TagTemplate

/-- A tag, with its words as they were written. -/
inductive Tag where
  /-- A tag with a name. -/
  | named (keyword name : Text) (escape : Option Text)
  /-- A closing tag. -/
  | closing (keyword : Text)
  /-- The else tag. -/
  | otherwise
  /-- An unless tag without a name. -/
  | nameless
deriving DecidableEq

namespace Tag

open Recogniser

def namedKeywords : List Text := ["var", "if", "unless", "loop", "include"]

def closingKeywords : List Text := ["if", "unless", "loop"]

def escapeWords : List Text := ["url", "html"]

/-- A code point that a name may contain. -/
def isNamePart (c : CodePoint) : Bool :=
  c.fold.inRanges [(0x61, 0x7a), (0x30, 0x39), (0x5f, 0x5f), (0x2d, 0x2e)]

/-- A quotation mark, if there is one. -/
def quotationMark : Recogniser (Option CodePoint) := maybe (ahead (· == .ofChar '\x22'))

/-- The escape of a tag. -/
def escapePart : Recogniser Text := do
  let _ ← literally "escape="
  let _ ← quotationMark
  let word ← anyOf escapeWords
  let _ ← quotationMark
  return word

/-- How much of a run of name parts is the name, given the text after the run. -/
def nameLength (run rest : Text) : Nat :=
  let word : Text := "escape"
  let front := run.length - word.length
  if rest.head? = some (.ofChar '=') ∧ (run.drop front).map CodePoint.fold = word then front
  else run.length

def namePart : Recogniser Text := fun t =>
  let run := t.takeWhile isNamePart
  match nameLength run (t.drop run.length) with
  | 0 => none
  | length => some (t.take length, t.drop length)

def namedTag : Recogniser Tag := do
  let _ ← literally "<tmpl_"
  let keyword ← anyOf namedKeywords
  let _ ← blanks₁
  let _ ← maybe (literally "name=")
  let _ ← quotationMark
  let name ← namePart
  let _ ← quotationMark
  let _ ← blanks
  let escape ← maybe escapePart
  let _ ← blanks
  let _ ← literally ">"
  return named keyword name escape

def closingTag : Recogniser Tag := do
  let _ ← literally "</tmpl_"
  let keyword ← anyOf closingKeywords
  let _ ← literally ">"
  return closing keyword

def elseTag : Recogniser Tag := do
  let _ ← literally "<tmpl_else>"
  return otherwise

/-- The unless tag without a name. -/
def namelessTag : Recogniser Tag := do
  let _ ← literally "<tmpl_unless>"
  return nameless

/-- A tag of any form. -/
def recogniser : Recogniser Tag :=
  either namedTag (either closingTag (either elseTag namelessTag))

/-- The tag that a text starts with, and how long it is. -/
def atStart? (t : Text) : Option (Tag × Nat) :=
  (recogniser t).map fun read => (read.1, t.length - read.2.length)

end Tag

end TagTemplate
