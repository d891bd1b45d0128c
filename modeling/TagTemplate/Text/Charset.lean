/-
# Decoding — the text that the bytes of a file are

Each charset has a function of its own.  The mark in front of signed UTF-8 may
also be cut short by the end of the file.
-/
import TagTemplate.Text.Charset.Backslash
import TagTemplate.Text.Charset.Iso2022
import TagTemplate.Text.Charset.Label
import TagTemplate.Text.Charset.Names
import TagTemplate.Text.Charset.Utf16
import TagTemplate.Text.Charset.Utf32
import TagTemplate.Text.Charset.Utf7
import TagTemplate.Text.Charset.Utf8

namespace TagTemplate.Text

/-- The text that bytes are in a multibyte charset. -/
def decodeMultibyte (multibyte : Multibyte) (bytes : List UInt8) : Except BadBytes Text :=
  let decode (read : List UInt8 → Reading Unit) : Except BadBytes Text :=
    decodeBy (.multibyte multibyte) (fun _ => read) 0 0 () bytes
  let decodeSwitching (variant : Iso2022.Variant) : Except BadBytes Text :=
    decodeBy (.multibyte multibyte) variant.read 0 0 .start bytes
  match multibyte with
  | .gb2312 => decode (.double Chart.gb2312.raised?)
  | .gbk => decode (.double Chinese.gbk?)
  | .gb18030 => decode Chinese.readGb18030
  | .hz => decodeBy (.multibyte .hz) Chinese.readHz 0 0 false bytes
  | .big5 => decode (.double Chart.big5.at?)
  | .cp950 => decode (.double Chinese.cp950?)
  | .big5Hkscs => decode Chinese.readHkscs
  | .eucKr => decode Korean.readEucKr
  | .cp949 => decode (.double Korean.cp949?)
  | .johab => decode (.double Korean.johab?)
  | .eucJp => decode Japanese.readEucJp
  | .eucJis edition => decode (Japanese.readEucJis edition)
  | .shiftJis => decode Japanese.readShiftJis
  | .cp932 => decode Japanese.readCp932
  | .shiftJis0213 edition => decode (Japanese.readShiftJis0213 edition)
  | .iso2022Jp => decodeSwitching Iso2022.jp
  | .iso2022Jp1 => decodeSwitching Iso2022.jp1
  | .iso2022Jp2 => decodeSwitching Iso2022.jp2
  | .iso2022Jp3 => decodeSwitching Iso2022.jp3
  | .iso2022Jp2004 => decodeSwitching Iso2022.jp2004
  | .iso2022JpExt => decodeSwitching Iso2022.jpExt
  | .iso2022Kr => decodeSwitching Iso2022.kr

def decode : Charset → List UInt8 → Except Undecodable Text
  | .utf8, bytes => (decodeUtf8 0 bytes).mapError .badBytes
  | .utf8Signed, [0xef] | .utf8Signed, [0xef, 0xbb] => .ok []
  | .utf8Signed, 0xef :: 0xbb :: 0xbf :: bytes => (decodeUtf8 0 bytes).mapError .badBytes
  | .utf8Signed, bytes => (decodeUtf8 0 bytes).mapError .badBytes
  | .utf7, bytes => (decodeUtf7 bytes).mapError .badBytes
  | .utf16 none, bytes => decodeMarkedUtf16 bytes
  | .utf16 (some order), bytes => (decodeUtf16 order 0 bytes).mapError .badBytes
  | .utf32 none, bytes => decodeMarkedUtf32 bytes
  | .utf32 (some order), bytes => (decodeUtf32 order 0 bytes).mapError .badBytes
  | .ascii, bytes => (decodeAscii bytes).mapError .badBytes
  | .latin1, bytes => .ok (bytes.map .ofByte)
  | .page page, bytes => (decodePage page bytes).mapError .badBytes
  | .multibyte m, bytes => (decodeMultibyte m bytes).mapError .badBytes
  | .escaped isRaw, bytes =>
    let read := if isRaw then Backslash.readRaw else Backslash.read
    (decodeBy (.escaped isRaw) (fun _ => read) 0 0 () bytes).mapError .badBytes
  | .punycode false, bytes => Punycode.decode bytes
  | .punycode true, bytes => Label.decode bytes
  | .void, _ => .error .void

end TagTemplate.Text
