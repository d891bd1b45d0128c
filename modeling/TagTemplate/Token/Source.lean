/-
# Reading a template

A template is read line by line, so a tag never spans lines.  Within a line the
tags are found from left to right, and what is between them is literal text:
whatever looks like a tag but is none stays as it is.  Line breaks are dropped,
or kept as tokens of their own.

    pieces       a line as texts and tags; put together they are the line
    ofPieces     the tokens of the pieces, each where its piece starts
    ofSource     the tokens of a template

The only failure is a keyword written with a letter whose lower case is no ASCII
letter: it is recognised as a tag but names no kind of token.
-/
import TagTemplate.Tag.Grammar
import TagTemplate.Token.Basic

namespace TagTemplate

/-- A part of a line. -/
inductive Piece where
  | literal (text : Text)
  | tag (lexeme : Text) (tag : Tag)
deriving DecidableEq

namespace Piece

/-- What a piece covers of its line. -/
def lexeme : Piece → Text
  | literal text => text
  | tag lexeme _ => lexeme

/-- The pieces with a code point of literal text before them. -/
def consLiteral (c : CodePoint) : List Piece → List Piece
  | literal t :: ps => literal (c :: t) :: ps
  | ps => literal [c] :: ps

/-- The pieces of a line after its first `skip` code points. -/
def ofLineFrom : (skip : Nat) → Text → List Piece
  | _, [] => []
  | skip + 1, _ :: r => ofLineFrom skip r
  | 0, c :: r =>
    match Tag.atStart? (c :: r) with
    | some (found, length) => tag ((c :: r).take length) found :: ofLineFrom (length - 1) r
    | none => consLiteral c (ofLineFrom 0 r)

def ofLine (line : Text) : List Piece := ofLineFrom 0 line

end Piece

namespace Tag

/-- What tags with a name are, by keyword. -/
def openers : List (Text × (Text → Token.Content)) :=
  [("var", .output), ("if", .opening .ifBlock), ("unless", .opening .unlessBlock),
   ("loop", .opening .loopBlock), ("include", .inclusion)]

/-- The token that a tag is. -/
def content : Tag → Except Error Token.Content
  | named keyword name _ =>
    match openers.lookup keyword.lower with
    | some opener => .ok (opener name)
    | none => .error (.unknownKeyword keyword.lower)
  | closing keyword => .ok (.closing keyword.lower)
  | otherwise => .ok .otherwise
  | nameless => .ok (.opening .unlessBlock [])

def escape : Tag → EscapeMode
  | named _ _ (some word) => (EscapeMode.ofWord? (Text.lower word)).getD .plain
  | _ => .plain

end Tag

namespace Token

/-- The token that a piece is at a place. -/
def ofPiece (position : Position) : Piece → Except Error Token
  | .literal text => .ok ⟨.text text, position, .plain⟩
  | .tag _ tag => do return ⟨← tag.content, position, tag.escape⟩

/-- The tokens of the pieces of a line from a column on. -/
def ofPieces (line : Nat) : (column : Nat) → List Piece → Except Error (List Token)
  | _, [] => .ok []
  | column, p :: ps => do
    let token ← ofPiece ⟨line, column⟩ p
    return token :: (← ofPieces line (column + p.lexeme.length) ps)

def lineBreak (line : Nat) : Token := ⟨.text [Text.lineFeed], ⟨line, 0⟩, .plain⟩

/-- The tokens of lines, the first of which is numbered `number`. -/
def ofLines (keepNewlines : Bool) : (number : Nat) → List Text → Except Error (List Token)
  | _, [] => .ok []
  | number, line :: lines => do
    let before := if keepNewlines && 1 < number then [lineBreak number] else []
    let here ← ofPieces number 0 (Piece.ofLine line)
    return before ++ here ++ (← ofLines keepNewlines (number + 1) lines)

def ofSource (keepNewlines : Bool) (source : Text) : Except Error (List Token) :=
  ofLines keepNewlines 1 source.normalizeNewlines.lines

end Token

end TagTemplate
