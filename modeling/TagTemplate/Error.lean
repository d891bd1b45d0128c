/-
# Errors — what can go wrong, by cause

One type for every failure of the library.  A cause carries the data its
message needs; `message` is the only place where the wording is.

    template family        codes      from
    general                any        a caller
    not found              H-TPL-001  a loader without the template
    missing, fetch failed  H-TPL-002  construction or an include without text
    malformed, mismatched  H-PAR-00n  the block structure of a strict template
    too deep               H-TPL-003  a chain of includes

The other causes have no code: a tag keyword in a spelling no keyword has, a
text that has no bytes or bytes that are no text, a value that cannot be used
as it is used, a program that is not well linked, and whatever a collaborator
raises on its own account.  A request to stop the whole process, such as an
interrupt or an exit, is no such failure: nothing here takes it up, and it is not
modelled.
-/
import TagTemplate.Text.Charset
import TagTemplate.Text.Lines
import TagTemplate.Text.Quoted

namespace TagTemplate

/-- The codes by which errors of the template family are searched. -/
inductive ErrorCode where
  | structuralMismatch
  | unexpectedElse
  | unexpectedClose
  | unclosedBlock
  | templateNotFound
  | missingTemplate
  | includeDepth
deriving DecidableEq

namespace ErrorCode

def text : ErrorCode → Text
  | structuralMismatch => "H-PAR-001"
  | unexpectedElse => "H-PAR-002"
  | unexpectedClose => "H-PAR-003"
  | unclosedBlock => "H-PAR-004"
  | templateNotFound => "H-TPL-001"
  | missingTemplate => "H-TPL-002"
  | includeDepth => "H-TPL-003"

def all : List ErrorCode :=
  [structuralMismatch, unexpectedElse, unexpectedClose, unclosedBlock,
   templateNotFound, missingTemplate, includeDepth]

def ofText? (t : Text) : Option ErrorCode := all.find? (·.text == t)

end ErrorCode

/-- A name, or the placeholder for a template without one. -/
def nameOr (placeholder : Text) : Option Text → Text
  | some (c :: r) => c :: r
  | _ => placeholder

def displayName : Option Text → Text := nameOr "<template>"

/-- What is known about a fault in the block structure of a template. -/
structure SyntaxReport where
  /-- What is wrong. -/
  detail : Text
  line : Option Int
  /-- The name of the template. -/
  name : Option Text
  /-- The source of the template, for a snippet. -/
  source : Option Text
  column : Option Int
  code : ErrorCode
deriving DecidableEq

namespace SyntaxReport

/-- The line number, unless it is zero, which counts as unknown. -/
def knownLine? (r : SyntaxReport) : Option Int := r.line.filter (· != 0)

/-- Where the fault is: the template's name, then line and column as far as known. -/
def place (r : SyntaxReport) : Text :=
  displayName r.name ++
    match r.knownLine? with
    | none => []
    | some line => ":" ++ Text.ofInt line ++
      match r.column with
      | none => []
      | some column => ":" ++ Text.ofInt column

/-- The line of the source the fault is in. -/
def sourceLine? (r : SyntaxReport) : Option (Int × Text) := do
  let line ← r.knownLine?
  guard (0 < line)
  let source ← r.source
  let quoted ← source.boundedLines[line.toNat - 1]?
  return (line, quoted)

/-- The source line, with a caret under the column. -/
def snippet (r : SyntaxReport) : Text :=
  match r.sourceLine? with
  | none => []
  | some (line, quoted) =>
    "\n   |\n" ++ (Text.ofInt line).padLeft 3 ' ' ++ " | " ++ quoted ++
      match r.column with
      | none => []
      | some column => "\n   | " ++ Text.replicate column.toNat ' ' ++ "^"

def message (r : SyntaxReport) : Text :=
  "Syntax Error: " ++ r.detail ++ "\n  --> " ++ r.place ++ r.snippet

end SyntaxReport

/-- What a loader says instead of a template. -/
inductive Absence where
  /-- No directory searched has the template. -/
  | inDirectories (name : Text) (directories : List Text)
  /-- The mapping does not have the template, but one of a similar name. -/
  | similar (name : Text) (suggestion : Text)
  /-- The mapping does not have the template, but these. -/
  | among (name : Text) (available : List Text)
  /-- None of the loaders tried has the template. -/
  | inChoices (name : Text) (count : Nat)
  /-- The fetch function gave no answer. -/
  | unanswered (name : Text)
  /-- In words of the caller's own. -/
  | stated (message : Text)
deriving DecidableEq

/-- Why construction has no text to compile. -/
inductive Missing where
  /-- Neither a source nor a location was given. -/
  | nothingGiven
  /-- A location was given, but there is no loader. -/
  | noLoader (location : Text)
  /-- What the loader answered is empty. -/
  | emptySource (location : Text)
  /-- An include in a compilation that has no way to include. -/
  | noInclude (name : Text)
  /-- In words of the caller's own. -/
  | stated (message : Text) (location : Option Text)
deriving DecidableEq

/-- The kinds of failure a collaborator can raise that are told apart. -/
inductive FailureKind where
  /-- An attribute that does not exist; looking it up finds nothing. -/
  | absentAttribute
  /-- A key that does not exist; its message is the quoted key. -/
  | absentKey
  /-- Any other, by its name. -/
  | other (name : Text)
deriving DecidableEq

/-- All the ways to fail. -/
inductive Error where
  | general (message : Text) (code : Option ErrorCode)
  | notFound (absence : Absence) (code : Option ErrorCode)
  | missing (reason : Missing)
  /-- The loader failed to fetch a template. -/
  | fetchFailed (location : Text) (cause : Error)
  /-- A fault in a template's syntax. -/
  | malformed (report : SyntaxReport)
  /-- A close tag, an else tag or the end that does not fit the open blocks. -/
  | mismatched (report : SyntaxReport)
  /-- An include beyond the limit; `stack` names the templates it is in, outermost first. -/
  | tooDeep (name : Text) (limit : Int) (stack : List Text)
  /-- A fault in a template's syntax in a column so far right that no caret can be put under it. -/
  | caretTooFar (column : Int)
  /-- A tag keyword spelled with a letter that has no plain lower case. -/
  | unknownKeyword (word : Text)
  /-- A text without a UTF-8 form. -/
  | unencodable (fault : Unencodable)
  /-- A file that is no text. -/
  | undecodable (fault : Undecodable)
  /-- A name of no charset. -/
  | noCharset (name : Text) (fault : CharsetFault)
  /-- A file name with a part too long for any file. -/
  | nameTooLong (path : Text)
  /-- Digits that are not a numeral. -/
  | notNumeral (digits : Text)
  /-- A numeral with too many digits to be read. -/
  | numeralTooLong (digits : Nat)
  /-- A number with too many digits to be written. -/
  | numberTooLong
  /-- A sequence with too many items to be counted. -/
  | lengthOverflow
  /-- A comparison with a signaling non-number. -/
  | signalingComparison
  /-- Named values merged over data that is no mapping. -/
  | mergeIntoNonMapping (typeName : Text)
  /-- A loader's answer that has no parts. -/
  | notUnpackable (typeName : Text)
  /-- A loader's answer with fewer than two parts. -/
  | tooFewParts (count : Nat)
  /-- A loader's answer with more than two parts. -/
  | tooManyParts
  /-- A loader's answer whose source is no text. -/
  | sourceNotText (typeName : Text)
  /-- A loader's answer whose source is bytes. -/
  | sourceIsBytes
  /-- An operation that uses a loop slot which holds nothing. -/
  | emptySlot (slot : Int)
  /-- The end of a loop whose opener is the named operation and no loop. -/
  | openerWithoutSlot (operation : Text)
  /-- A position outside the program. -/
  | outsideProgram (position : Int)
  /-- An operation that has no action. -/
  | inertOperation
  /-- A program that does not come to an end. -/
  | endless
  /-- Whatever a collaborator raises, as an ordinary exception: not an interrupt or an exit. -/
  | raised (kind : FailureKind) (message : Text)
deriving DecidableEq

namespace Absence

/-- At most this many names are listed. -/
def listed : Nat := 10

def message : Absence → Text
  | inDirectories name directories =>
    "Template '" ++ name ++ "' not found in: " ++ Text.join ", " directories
  | similar name suggestion =>
    "Template '" ++ name ++ "' not found. Did you mean '" ++ suggestion ++ "'?"
  | among name [] => "Template '" ++ name ++ "' not found"
  | among name available =>
    "Template '" ++ name ++ "' not found. Available: " ++
      Text.join ", " (available.take listed) ++
      if listed < available.length then " ... (" ++ Text.ofNat available.length ++ " total)"
      else []
  | inChoices name count =>
    "Template '" ++ name ++ "' not found in any of " ++ Text.ofNat count ++ " loaders"
  | unanswered name => "Template '" ++ name ++ "' not found"
  | stated message => message

end Absence

namespace Missing

/-- What every message about a missing template starts with. -/
def lead : Text := "No template supplied."

def message : Missing → Text
  | nothingGiven => lead
  | noLoader location => lead ++ " No loader configured to fetch '" ++ location ++ "'"
  | emptySource location => lead ++ " '" ++ location ++ "' is empty"
  | noInclude name => "No loader available for <tmpl_include name=\"" ++ name ++ "\">"
  | stated message _ => message

def location? : Missing → Option Text
  | nothingGiven => none
  | noLoader location | emptySource location | noInclude location => some location
  | stated _ location => location

end Missing

/-- A chain of includes, outermost first, as it is listed in messages. -/
def includeStackText : List Text → Text
  | [] => []
  | stack => "Include stack:" ++ stack.flatMap fun name => Text.ofString "\n  • " ++ name

/-- The most digits a number may have to be read or written. -/
def maxDigits : Nat := 4300

namespace Error

/-- The hint on how to read and write longer numbers. -/
def digitHint : Text := "; use sys.set_int_max_str_digits() to increase the limit"

/-- A number that a position in memory may have. -/
def isIndexSized (n : Int) : Bool := -0x8000000000000000 ≤ n && n < 0x8000000000000000

/-- What is wrong with any other number as a position. -/
def indexHint : Text := "cannot fit 'int' into an index-sized integer"

/-- A byte in a message. -/
def byteText (b : UInt8) : Text := "0x" ++ Text.hex 2 b.toNat

/-- The bad items from `start` on in a message, `one` if there is a single one. -/
def rangeText (noun one : Text) (start count : Nat) : Text :=
  if count = 1 then
    noun ++ " " ++ one ++ " in position " ++ Text.ofNat start
  else
    noun ++ "s in position " ++ Text.ofNat start ++ "-" ++ Text.ofNat (start + count - 1)

/-- Why bytes are no text, in words. -/
def reasonText : BadBytes.Reason → Text
  | .invalidStart => "invalid start byte"
  | .invalidContinuation => "invalid continuation byte"
  | .unexpectedEnd => "unexpected end of data"
  | .truncated => "truncated data"
  | .loneSecond => "illegal encoding"
  | .loneFirst => "illegal UTF-16 surrogate"
  | .surrogate => "code point in surrogate code point range(0xd800, 0xe000)"
  | .beyondLast => "code point not in range(0x110000)"
  | .notAscii => "ordinal not in range(128)"
  | .unmapped => "character maps to <undefined>"
  | .illFormed => "ill-formed sequence"
  | .partialUnit => "partial character in shift sequence"
  | .padding => "non-zero padding bits in shift sequence"
  | .unterminated => "unterminated shift sequence"
  | .special => "unexpected special character"
  | .illegal => "illegal multibyte sequence"
  | .incomplete => "incomplete multibyte sequence"
  | .unreadableSet => "internal codec error"
  | .escapeAtEnd => "\\ at end of string"
  | .shortX => "truncated \\xXX escape"
  | .shortU => "truncated \\uXXXX escape"
  | .shortLongU => "truncated \\UXXXXXXXX escape"
  | .illegalCodePoint => "illegal Unicode character"
  | .outOfRange => "\\Uxxxxxxxx out of range"
  | .malformedName => "malformed \\N character escape"
  | .unknownName => "unknown Unicode character name"

/-- What is wrong with numbers in Punycode. -/
def punycodeText : PunycodeFault → Text
  | .incomplete => "incomplete punicode string"
  | .notDigit c => "Invalid extended code point '" ++ [c] ++ "'"
  | .beyondLast n => "Invalid character U+" ++ Text.ofString (String.ofList (Nat.toDigits 16 n))

/-- An ASCII text as bytes between quotes. -/
def quotedAscii (t : Text) : Text := Text.quotedBytes (t.map fun c => .ofNat c.val)

/-- What is wrong with a label. -/
def labelText : LabelFault → Text
  | .punycode fault =>
    "decoding with 'punycode' codec failed (UnicodeError: " ++ punycodeText fault ++ ")"
  | .badSize => "label empty or too long"
  | .forbidden c => "Invalid character " ++ Text.quoted [c]
  | .mixedDirections => "Violation of BIDI requirement 2"
  | .openDirection => "Violation of BIDI requirement 3"
  | .prefixed => "Label starts with ACE prefix"
  | .altered label other =>
    "('IDNA does not round-trip', " ++ quotedAscii label ++ ", " ++ quotedAscii other ++ ")"

def message : Error → Text
  | general message _ => message
  | notFound absence _ => absence.message
  | missing reason => reason.message
  | fetchFailed location cause =>
    Missing.lead ++ " Could not fetch '" ++ location ++ "': " ++ cause.message
  | malformed report | mismatched report => report.message
  | tooDeep name limit stack =>
    let listing : Text := if stack.isEmpty then [] else "\n" ++ includeStackText stack
    "Maximum include depth exceeded (" ++ Text.ofInt limit ++ ") when including '" ++ name ++
      "'" ++ listing ++ "\n  Suggestion: Check for circular includes: A → B → A"
  | caretTooFar column => if isIndexSized column then [] else indexHint
  | unknownKeyword word => word.quoted
  | unencodable fault =>
    "'utf-8' codec can't encode " ++
      rangeText "character" ("'" ++ Text.hexEscape fault.first.val ++ "'") fault.start
        fault.count ++
      ": surrogates not allowed"
  | undecodable (.unmarked charset) =>
    charset.name.upper ++ " stream does not start with BOM"
  | undecodable .void => "undefined encoding"
  | undecodable (.punycode fault) => punycodeText fault
  | undecodable (.label fault) => labelText fault
  | undecodable (.badBytes ⟨_, _, _, _, .unreadableSet⟩) => reasonText .unreadableSet
  | undecodable (.badBytes fault) =>
    "'" ++ fault.charset.name ++ "' codec can't decode " ++
      rangeText "byte" (byteText fault.first) fault.start fault.count ++
      ": " ++ reasonText fault.reason
  | noCharset name .unknown => "unknown encoding: " ++ name
  | noCharset name .notText =>
    "'" ++ name ++ "' is not a text encoding; use codecs.open() to handle arbitrary codecs"
  | noCharset _ .holdsNull => "embedded null character"
  | nameTooLong path => "[Errno 36] File name too long: " ++ path.quoted
  | notNumeral digits => "invalid literal for int() with base 10: " ++ digits.quoted.take 200
  | numeralTooLong digits =>
    "Exceeds the limit (" ++ Text.ofNat maxDigits ++
      " digits) for integer string conversion: value has " ++ Text.ofNat digits ++ " digits" ++
      digitHint
  | numberTooLong =>
    "Exceeds the limit (" ++ Text.ofNat maxDigits ++ " digits) for integer string conversion" ++
      digitHint
  | lengthOverflow => "too many items to count"
  | signalingComparison => "comparison with a signaling non-number"
  | mergeIntoNonMapping typeName =>
    "Keyword arguments need mapping data, got " ++ typeName ++
      "; pass a dict or set the values on the object"
  | notUnpackable typeName => "cannot unpack non-iterable " ++ typeName ++ " object"
  | tooFewParts count =>
    "not enough values to unpack (expected 2, got " ++ Text.ofNat count ++ ")"
  | tooManyParts => "too many values to unpack (expected 2)"
  | sourceNotText typeName =>
    "expected string or bytes-like object, got '" ++ typeName ++ "'"
  | sourceIsBytes => "cannot use a string pattern on a bytes-like object"
  | emptySlot slot => Text.ofInt slot
  | openerWithoutSlot operation => "'" ++ operation ++ "' object has no attribute 'slot'"
  | outsideProgram position =>
    if isIndexSized position then "tuple index out of range" else indexHint
  | inertOperation => "Op"
  | endless => "the program does not come to an end"
  | raised .absentKey message => message.quoted
  | raised _ message => message

/-- The last column that a caret can be put under: a line of as many blanks takes all memory. -/
def lastColumn : Int := 0x10000000000

/-- The error as it can be shown.  A report with a snippet needs room for its caret. -/
def shown (e : Error) : Error :=
  let orTooFar (r : SyntaxReport) : Error :=
    match r.sourceLine?, r.column with
    | some _, some column => if lastColumn < column then caretTooFar column else e
    | _, _ => e
  match e with
  | malformed r | mismatched r => orTooFar r
  | e => e

def code? : Error → Option ErrorCode
  | general _ code | notFound _ code => code
  | missing _ | fetchFailed .. => some .missingTemplate
  | malformed report | mismatched report => some report.code
  | tooDeep .. => some .includeDepth
  | _ => none

/-- The message after the code, unless the code is already somewhere in the message. -/
def compact (e : Error) : Text :=
  match e.code? with
  | none => e.message
  | some code =>
    if code.text.hasPart e.message then e.message else code.text ++ ": " ++ e.message

/-- The loader that raised this has no such template, so that another may be tried. -/
def isNotFound : Error → Bool
  | notFound .. | missing _ | fetchFailed .. => true
  | _ => false

end Error

end TagTemplate
