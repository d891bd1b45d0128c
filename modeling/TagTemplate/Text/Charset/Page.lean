/-
# Code pages — charsets of one byte for a code point

A code page is a chart of sixteen rows with sixteen code points each: the row of
a byte is its first hexadecimal digit, the column its second.  The noncharacter
U+FFFE stands where a byte has no code point.
-/
import TagTemplate.Text.Case

namespace TagTemplate

/-- A charset of one byte for a code point. -/
structure CodePage where
  rows : List String
deriving DecidableEq

namespace CodePage

/-- The rows of ASCII. -/
def asciiRows : List String :=
  ["\x00\x01\x02\x03\x04\x05\x06\x07\x08\x09\x0a\x0b\x0c\x0d\x0e\x0f",
   "\x10\x11\x12\x13\x14\x15\x16\x17\x18\x19\x1a\x1b\x1c\x1d\x1e\x1f",
   "\x20!\x22#$%&\x27()*+,-./", "0123456789:;<=>?", "@ABCDEFGHIJKLMNO", "PQRSTUVWXYZ[\x5c]^_",
   "\x60abcdefghijklmno", "pqrstuvwxyz\x7b|\x7d~\x7f"]

/-- The row of the control codes U+0080 to U+008F. -/
def firstControls : String := "\x80\x81\x82\x83\x84\x85\x86\x87\x88\x89\x8a\x8b\x8c\x8d\x8e\x8f"

/-- The row of the control codes U+0090 to U+009F. -/
def secondControls : String := "\x90\x91\x92\x93\x94\x95\x96\x97\x98\x99\x9a\x9b\x9c\x9d\x9e\x9f"

/-- A row without code points. -/
def noRow : String :=
  "\ufffe\ufffe\ufffe\ufffe\ufffe\ufffe\ufffe\ufffe\ufffe\ufffe\ufffe\ufffe\ufffe\ufffe\ufffe\ufffe"

/-- A code page whose first half is ASCII. -/
def upper (rows : List String) : CodePage := ⟨asciiRows ++ rows⟩

/-- Stands where there is no code point. -/
def absent : Char := '\ufffe'

/-- The code point of a byte. -/
def point? (page : CodePage) (b : UInt8) : Option CodePoint := do
  let row ← page.rows[b.toNat / 16]?
  let c ← row.toList[b.toNat % 16]?
  if c = absent then none else some (.ofChar c)

end CodePage

end TagTemplate
