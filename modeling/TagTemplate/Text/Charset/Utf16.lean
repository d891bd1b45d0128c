/-
# UTF-16 — code points as one or two units of two bytes

    unit            is
    0000–d7ff       a code point
    d800–dbff       the first half of a pair
    dc00–dfff       the second half of a pair
    e000–ffff       a code point

A pair stands for a code point from U+10000 on.  A half without its other half
is no text, nor is a byte left over at the end.
-/
import TagTemplate.Text.Charset.Basic

namespace TagTemplate.Text

/-- The text that bytes are in UTF-16; `pos` counts the bytes before them. -/
def decodeUtf16 (order : ByteOrder) (pos : Nat) : List UInt8 → Except BadBytes Text
  | [] => .ok []
  | [b] => .error ⟨.utf16 order, b, pos, 1, .truncated⟩
  | b₀ :: b₁ :: r =>
    let bad (count : Nat) (reason : BadBytes.Reason) : Except BadBytes Text :=
      .error ⟨.utf16 order, b₀, pos, count, reason⟩
    let u := order.number [b₀, b₁]
    if isSecondHalf u then bad 2 .loneSecond
    else if !isFirstHalf u then
      (decodeUtf16 order (pos + 2) r).map (.ofNatOrReplacement u :: ·)
    else match r with
    | [] => bad 2 .unexpectedEnd
    | [_] => bad 3 .unexpectedEnd
    | b₂ :: b₃ :: r =>
      let v := order.number [b₂, b₃]
      if isSecondHalf v then (decodeUtf16 order (pos + 4) r).map (.ofHalves u v :: ·)
      else bad 2 .loneFirst

/-- The text that bytes are in UTF-16, after a mark that says their order.  No bytes at all need
no mark. -/
def decodeMarkedUtf16 : List UInt8 → Except Undecodable Text
  | 0xff :: 0xfe :: bytes => (decodeUtf16 .little 2 bytes).mapError .badBytes
  | 0xfe :: 0xff :: bytes => (decodeUtf16 .big 2 bytes).mapError .badBytes
  | bytes => match decodeUtf16 .little 0 bytes with
    | .error fault => .error (.badBytes fault)
    | .ok [] => .ok []
    | .ok _ => .error (.unmarked (.utf16 none))

end TagTemplate.Text
