/-
# Percent encoding

A text becomes part of a URL: what a URL may contain stays as it is, so that a
whole URL survives, and every other code point is written as the bytes of its
UTF-8 form, each as a percent sign and two digits.  A text with a surrogate
has no such form and is refused.
-/
import TagTemplate.Escape.Basic

namespace TagTemplate

/-- The punctuation that stays as it is. -/
def urlPunctuation : Text := ";,/?:@&=+$-_.!~*'()#"

namespace CodePoint

/-- An ASCII letter or digit. -/
def isAsciiAlphanumeric (c : CodePoint) : Bool :=
  c.inRanges [(0x30, 0x39), (0x41, 0x5a), (0x61, 0x7a)]

/-- A code point that a URL may contain as it is. -/
def isUrlSafe (c : CodePoint) : Bool := c.isAsciiAlphanumeric || urlPunctuation.contains c

/-- The digit for a value below sixteen, in upper case. -/
def upperHexDigit (n : Nat) : Char :=
  if n < 10 then Char.ofNat (0x30 + n) else Char.ofNat (0x37 + n)

/-- A byte as a percent sign and two digits. -/
def percentByte (b : UInt8) : Text :=
  [ofChar '%', ofChar (upperHexDigit (b.toNat / 16)), ofChar (upperHexDigit (b.toNat % 16))]

/-- A code point as it is written in a URL. -/
def percentEncoded (c : CodePoint) : Text :=
  if c.isUrlSafe then [c] else c.utf8.flatMap percentByte

end CodePoint

def Text.percentEncoded (t : Text) : Except Error Text :=
  match t.unencodable? with
  | some fault => .error (.unencodable fault)
  | none => .ok (t.flatMap CodePoint.percentEncoded)

end TagTemplate
