/-
# Single bytes — charsets with one byte for a code point
-/
import TagTemplate.Text.Charset.Basic

namespace TagTemplate.Text

/-- The code point of an ASCII byte. -/
def ofAscii? (b : UInt8) : Option CodePoint := if b < 0x80 then some (.ofByte b) else none

/-- The text of bytes that are a code point each; `pos` counts the bytes before them. -/
def decodeSingle (charset : Charset) (reason : BadBytes.Reason) (point? : UInt8 → Option CodePoint)
    (pos : Nat) : List UInt8 → Except BadBytes Text
  | [] => .ok []
  | b :: r => match point? b with
    | some c => (decodeSingle charset reason point? (pos + 1) r).map (c :: ·)
    | none => .error ⟨charset, b, pos, 1, reason⟩

def decodeAscii (bytes : List UInt8) : Except BadBytes Text :=
  decodeSingle .ascii .notAscii ofAscii? 0 bytes

/-- The text that bytes are in a code page. -/
def decodePage (page : CodePage) (bytes : List UInt8) : Except BadBytes Text :=
  decodeSingle (.page page) .unmapped page.point? 0 bytes

end TagTemplate.Text
