/-
# Backslash escapes — text in bytes that a backslash gives a meaning

Bytes are the code points of their numbers, but a backslash begins an escape:

    \n \t \r \b \f \v \a     control codes
    \\ \' \"                 the second of them
    \ and a line end         nothing
    \1 \12 \123              the code point of an octal number
    \x12                     the code point of a hexadecimal number
    \u1234 \U12345678        the same
    \N and a name            the code point of that name

A backslash before anything else stands for itself.  The raw form has only `\u`
and `\U`.
-/
import TagTemplate.Text.Charset.Multibyte
import TagTemplate.Text.Names

namespace TagTemplate.Backslash

def hexValue? (b : UInt8) : Option Nat :=
  position? [(0x30, 0x39)] b.toNat <|>
    (position? [(0x61, 0x66)] b.toNat <|> position? [(0x41, 0x46)] b.toNat).map (· + 10)

/-- An escape of `size` hexadecimal digits, from the bytes after its letter. -/
def readHex (size : Nat) (short beyond : BadBytes.Reason) (r : List UInt8) : Reading Unit :=
  let digits := (r.take size).map hexValue?
  let valid := (digits.takeWhile (·.isSome)).filterMap id
  if valid.length < size then .wrong (2 + valid.length) short
  else match CodePoint.ofNat? (valid.foldl (fun n d => n * 16 + d) 0) with
    | some c => .text [c] (2 + size) ()
    | none => .wrong (2 + size) beyond

/-- An escape of one to three octal digits, from its first digit on. -/
def readOctal (r : List UInt8) : Reading Unit :=
  let digits := (r.take 3).takeWhile fun b => 0x30 ≤ b && b ≤ 0x37
  let n := digits.foldl (fun n d => n * 8 + (d.toNat - 0x30)) 0
  .text [.ofNatOrReplacement n] (1 + digits.length) ()

/-- An escape with a name, from the bytes after its letter. -/
def readName : List UInt8 → Reading Unit
  | 0x7b :: r =>
    let name := r.takeWhile (· != 0x7d)
    if name.length = r.length then .wrong (3 + name.length) .malformedName
    else if name.isEmpty then .wrong 3 .malformedName
    else match CodePoint.ofName? (name.map .ofByte) with
      | some c => .text [c] (4 + name.length) ()
      | none => .wrong (4 + name.length) .unknownName
  | _ => .wrong 2 .malformedName

/-- The control codes and marks that are escaped by one byte. -/
def simple : List (UInt8 × Char) :=
  [(0x5c, '\\'), (0x27, '\''), (0x22, '"'), (0x62, '\x08'), (0x66, '\x0c'), (0x74, '\t'),
   (0x6e, '\n'), (0x72, '\r'), (0x76, '\x0b'), (0x61, '\x07')]

/-- What stands at the front of bytes with escapes. -/
def read : List UInt8 → Reading Unit
  | 0x5c :: b :: r =>
    match simple.lookup b with
    | some c => .text [.ofChar c] 2 ()
    | none =>
      if b = 0x0a then .text [] 2 ()
      else if 0x30 ≤ b && b ≤ 0x37 then readOctal (b :: r)
      else if b = 0x78 then readHex 2 .shortX .illegalCodePoint r
      else if b = 0x75 then readHex 4 .shortU .illegalCodePoint r
      else if b = 0x55 then readHex 8 .shortLongU .illegalCodePoint r
      else if b = 0x4e then readName r
      else .text ['\\', .ofByte b] 2 ()
  | [0x5c] => .wrong 1 .escapeAtEnd
  | b :: _ => .text [.ofByte b] 1 ()
  | [] => .short

/-- What stands at the front of bytes with escapes of the raw form. -/
def readRaw : List UInt8 → Reading Unit
  | 0x5c :: b :: r =>
    if b = 0x75 then readHex 4 .shortU .outOfRange r
    else if b = 0x55 then readHex 8 .shortLongU .outOfRange r
    else .text ['\\', .ofByte b] 2 ()
  | b :: _ => .text [.ofByte b] 1 ()
  | [] => .short

end TagTemplate.Backslash
