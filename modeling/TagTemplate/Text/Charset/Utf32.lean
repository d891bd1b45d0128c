/-
# UTF-32 — code points as units of four bytes

Each unit is the number of a code point.  Surrogates are no code points of a
text here, and the bytes must come in fours.
-/
import TagTemplate.Text.Charset.Basic

namespace TagTemplate.Text

/-- The text that bytes are in UTF-32; `pos` counts the bytes before them. -/
def decodeUtf32 (order : ByteOrder) (pos : Nat) : List UInt8 → Except BadBytes Text
  | [] => .ok []
  | b₀ :: b₁ :: b₂ :: b₃ :: r =>
    let bad (reason : BadBytes.Reason) : Except BadBytes Text :=
      .error ⟨.utf32 order, b₀, pos, 4, reason⟩
    match CodePoint.ofNat? (order.number [b₀, b₁, b₂, b₃]) with
    | none => bad .beyondLast
    | some c =>
      if c.isSurrogate then bad .surrogate
      else (decodeUtf32 order (pos + 4) r).map (c :: ·)
  | b :: r => .error ⟨.utf32 order, b, pos, r.length + 1, .truncated⟩

/-- The text that bytes are in UTF-32, after a mark that says their order.  No bytes at all need
no mark. -/
def decodeMarkedUtf32 : List UInt8 → Except Undecodable Text
  | 0xff :: 0xfe :: 0 :: 0 :: bytes => (decodeUtf32 .little 4 bytes).mapError .badBytes
  | 0 :: 0 :: 0xfe :: 0xff :: bytes => (decodeUtf32 .big 4 bytes).mapError .badBytes
  | bytes => match decodeUtf32 .little 0 bytes with
    | .error fault => .error (.badBytes fault)
    | .ok [] => .ok []
    | .ok _ => .error (.unmarked (.utf32 none))

end TagTemplate.Text
