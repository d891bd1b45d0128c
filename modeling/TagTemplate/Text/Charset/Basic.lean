/-
# Charsets — what texts are written in, and what can go wrong with them

A template file holds bytes.  Which text they are depends on a charset.

    utf8          one to four bytes for a code point
    utf8Signed    the same; a leading byte order mark is not part of the text
    utf7          ASCII, with the other code points between `+` and `-`
    utf16, utf32  units of two or four bytes, their order given or said by a mark
    ascii         one byte, below 80
    latin1        one byte, the number of the code point
    page          one byte, by a code page
    multibyte     one byte below 80, several for others
    escaped       one byte, the number of the code point, but for escapes
    punycode      ASCII letters and digits; labels between dots may be in it too
    void          no text at all
-/
import TagTemplate.Text.Charset.Page

namespace TagTemplate

/-- Which byte of a unit comes first: the lowest or the highest. -/
inductive ByteOrder where
  | little
  | big
deriving DecidableEq

/-- The number that bytes stand for. -/
def ByteOrder.number (order : ByteOrder) (bytes : List UInt8) : Nat :=
  let highestFirst := match order with
    | little => bytes.reverse
    | big => bytes
  highestFirst.foldl (fun n b => n * 0x100 + b.toNat) 0

/-- The editions of JIS X 0213. -/
inductive JisEdition where
  | y2000
  | y2004
deriving DecidableEq

/-- The charsets for Chinese, Japanese and Korean. -/
inductive Multibyte where
  | gb2312
  | gbk
  | gb18030
  | hz
  | big5
  | cp950
  | big5Hkscs
  | eucKr
  | cp949
  | johab
  | eucJp
  | eucJis (edition : JisEdition)
  | shiftJis
  | cp932
  | shiftJis0213 (edition : JisEdition)
  | iso2022Jp
  | iso2022Jp1
  | iso2022Jp2
  | iso2022Jp3
  | iso2022Jp2004
  | iso2022JpExt
  | iso2022Kr
deriving DecidableEq

def Multibyte.name : Multibyte → String
  | gb2312 => "gb2312"
  | gbk => "gbk"
  | gb18030 => "gb18030"
  | hz => "hz"
  | big5 => "big5"
  | cp950 => "cp950"
  | big5Hkscs => "big5hkscs"
  | eucKr => "euc_kr"
  | cp949 => "cp949"
  | johab => "johab"
  | eucJp => "euc_jp"
  | eucJis .y2000 => "euc_jisx0213"
  | eucJis .y2004 => "euc_jis_2004"
  | shiftJis => "shift_jis"
  | cp932 => "cp932"
  | shiftJis0213 .y2000 => "shift_jisx0213"
  | shiftJis0213 .y2004 => "shift_jis_2004"
  | iso2022Jp => "iso2022_jp"
  | iso2022Jp1 => "iso2022_jp_1"
  | iso2022Jp2 => "iso2022_jp_2"
  | iso2022Jp3 => "iso2022_jp_3"
  | iso2022Jp2004 => "iso2022_jp_2004"
  | iso2022JpExt => "iso2022_jp_ext"
  | iso2022Kr => "iso2022_kr"

/-- The position of a number in ranges that follow one another. -/
def position? : List (Nat × Nat) → Nat → Option Nat
  | [], _ => none
  | (first, last) :: ranges, n =>
    if first ≤ n && n ≤ last then some (n - first)
    else (position? ranges n).map (· + (last + 1 - first))

/-- The charsets a template file may be in. -/
inductive Charset where
  | utf8
  | utf8Signed
  | utf7
  | utf16 (order : Option ByteOrder)
  | utf32 (order : Option ByteOrder)
  | ascii
  | latin1
  | page (page : CodePage)
  | multibyte (multibyte : Multibyte)
  | escaped (isRaw : Bool)
  | punycode (inLabels : Bool)
  | void
deriving DecidableEq

namespace Charset

/-- The end of the name of a charset with units of several bytes. -/
def orderSuffix : Option ByteOrder → Text
  | none => []
  | some .little => "-le"
  | some .big => "-be"

def name : Charset → Text
  | utf8 | utf8Signed => "utf-8"
  | utf7 => "utf7"
  | utf16 order => "utf-16" ++ orderSuffix order
  | utf32 order => "utf-32" ++ orderSuffix order
  | ascii => "ascii"
  | latin1 => "latin-1"
  | page _ => "charmap"
  | multibyte m => m.name
  | escaped isRaw => if isRaw then "rawunicodeescape" else "unicodeescape"
  | punycode inLabels => if inLabels then "idna" else "punycode"
  | void => "undefined"

end Charset

/-- A run of surrogates that keeps a text from having a UTF-8 form. -/
structure Unencodable where
  /-- The first of the run. -/
  first : CodePoint
  /-- Where the run starts. -/
  start : Nat
  /-- How many surrogates it has. -/
  count : Nat
deriving DecidableEq

/-- What can be wrong with bytes. -/
inductive BadBytes.Reason where
  /-- A byte that starts no code point. -/
  | invalidStart
  /-- A byte that does not continue the code point begun. -/
  | invalidContinuation
  /-- The bytes end within a code point. -/
  | unexpectedEnd
  /-- The bytes end within a unit. -/
  | truncated
  /-- The second half of a pair without the first. -/
  | loneSecond
  /-- The first half of a pair without the second. -/
  | loneFirst
  /-- A unit that is a surrogate. -/
  | surrogate
  /-- A unit beyond the last code point. -/
  | beyondLast
  /-- A byte that is not ASCII. -/
  | notAscii
  /-- A byte that the code page does not have. -/
  | unmapped
  /-- A `+` before something that is no shifted section. -/
  | illFormed
  /-- A shifted section that ends within a code point. -/
  | partialUnit
  /-- A shifted section with something behind its last code point. -/
  | padding
  /-- A shifted section that the bytes end in. -/
  | unterminated
  /-- A byte that does not stand for itself. -/
  | special
  /-- Bytes that are no code point of a multibyte charset. -/
  | illegal
  /-- The bytes end within a code point of a multibyte charset. -/
  | incomplete
  /-- A byte of a third set that single bytes are not read from. -/
  | unreadableSet
  /-- A backslash with nothing behind it. -/
  | escapeAtEnd
  /-- Too few digits after an `x`. -/
  | shortX
  /-- Too few digits after a `u`. -/
  | shortU
  /-- Too few digits after a `U`. -/
  | shortLongU
  /-- An escape that is beyond the last code point. -/
  | illegalCodePoint
  /-- The same in the raw form. -/
  | outOfRange
  /-- An `N` without a name. -/
  | malformedName
  /-- A name of no code point. -/
  | unknownName
deriving DecidableEq

/-- Bytes that are no text in a charset. -/
structure BadBytes where
  charset : Charset
  /-- The first of the offending bytes. -/
  first : UInt8
  /-- Where they start. -/
  start : Nat
  /-- How many they are. -/
  count : Nat
  reason : BadBytes.Reason
deriving DecidableEq

/-- What can be wrong with numbers in Punycode. -/
inductive PunycodeFault where
  /-- They end within a number. -/
  | incomplete
  | notDigit (c : CodePoint)
  /-- A number of no code point. -/
  | beyondLast (n : Nat)
deriving DecidableEq

/-- What can be wrong with a label of a name. -/
inductive LabelFault where
  /-- The code points behind its prefix are no Punycode. -/
  | punycode (fault : PunycodeFault)
  /-- It has no code point, or too many. -/
  | badSize
  | forbidden (c : CodePoint)
  /-- It has code points of both directions. -/
  | mixedDirections
  /-- Its first or last code point is not written from right to left as others are. -/
  | openDirection
  /-- Its text begins like a prefix. -/
  | prefixed
  /-- Its text is that of another label. -/
  | altered (label other : Text)
deriving DecidableEq

/-- Why a file is no text. -/
inductive Undecodable where
  | badBytes (fault : BadBytes)
  /-- There is no byte order mark to say in which order the bytes of units are. -/
  | unmarked (charset : Charset)
  | punycode (fault : PunycodeFault)
  | label (fault : LabelFault)
  /-- Nothing is a text in the charset. -/
  | void
deriving DecidableEq

/-- The code point whose bits are those of `lead` and six of each continuation byte. -/
def CodePoint.assemble (lead : Nat) (rest : List UInt8) : CodePoint :=
  .ofNatOrReplacement (rest.foldl (fun n b => n * 0x40 + (b.toNat - 0x80)) lead)

def CodePoint.ofByte (b : UInt8) : CodePoint := .ofNatOrReplacement b.toNat

/-- The code point of the two halves of a pair of surrogates. -/
def CodePoint.ofHalves (u v : Nat) : CodePoint :=
  .ofNatOrReplacement (0x10000 + (u - 0xd800) * 0x400 + (v - 0xdc00))

/-- The number of a surrogate that is the first half of a pair. -/
def isFirstHalf (u : Nat) : Bool := 0xd800 ≤ u && u < 0xdc00

/-- The number of a surrogate that is the second half of a pair. -/
def isSecondHalf (u : Nat) : Bool := 0xdc00 ≤ u && u < 0xe000

end TagTemplate
