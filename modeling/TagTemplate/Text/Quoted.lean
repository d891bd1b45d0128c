/-
# Quoted texts

How a text is written in listings, messages and inside other values: between
quotes, on one line, with nothing unprintable left.

    quote        a single one, or a double one if the text has a single but
                 no double quote
    \\ and quote a backslash before them
    \t \n \r     as such
    the rest     itself if printable, else \xHH, \uHHHH or \UHHHHHHHH

Bytes are quoted by the same rule with a b in front; of them, only ASCII
counts as printable.  In bytes that can be changed, a single quote has a
backslash before it whichever quotes are around.
-/
import TagTemplate.Text.Printable

namespace TagTemplate.Text

/-- The quotation mark for a text. -/
def quoteFor (t : Text) : CodePoint :=
  if t.contains (.ofChar '\x27') && !t.contains (.ofChar '\x22') then .ofChar '\x22' else .ofChar '\x27'

/-- The shortest hexadecimal escape that holds a number. -/
def hexEscape (n : Nat) : Text :=
  if n ≤ 0xff then "\\x" ++ hex 2 n
  else if n ≤ 0xffff then "\\u" ++ hex 4 n
  else "\\U" ++ hex 8 n

/-- A code point as it is written between two `quote`s. -/
def escaped (quote c : CodePoint) : Text :=
  if c = quote || c = .ofChar '\\' then [.ofChar '\\', c]
  else if c = .ofChar '\t' then "\\t"
  else if c = .ofChar '\n' then "\\n"
  else if c = .ofChar '\r' then "\\r"
  else if c.isPrintable then [c]
  else hexEscape c.val

def quoted (t : Text) : Text :=
  let quote := t.quoteFor
  quote :: t.flatMap (escaped quote) ++ [quote]

/-- A byte as it is written between two `quote`s. -/
def escapedByte (quote : CodePoint) (b : UInt8) : Text :=
  let c : CodePoint := ⟨b.toNat, Nat.lt_trans b.toNat_lt (by decide)⟩
  if c.val < 0x80 then escaped quote c else hexEscape c.val

/-- The quotation mark for bytes. -/
def quoteForBytes (bytes : List UInt8) : CodePoint :=
  if bytes.contains 0x27 && !bytes.contains 0x22 then .ofChar '\x22' else .ofChar '\x27'

/-- Bytes between quotes, after a b. -/
def quotedBytes (bytes : List UInt8) : Text :=
  let quote := quoteForBytes bytes
  .ofChar 'b' :: quote :: bytes.flatMap (escapedByte quote) ++ [quote]

/-- Bytes that can be changed between quotes, after a b. -/
def quotedByteArray (bytes : List UInt8) : Text :=
  let quote := quoteForBytes bytes
  let escape (b : UInt8) : Text := if b = 0x27 then "\\'" else escapedByte quote b
  .ofChar 'b' :: quote :: bytes.flatMap escape ++ [quote]

end TagTemplate.Text
