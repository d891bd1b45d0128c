/-
# Issues — block tags that do not fit

| issue                                       | code      | tolerated by      |
|---------------------------------------------|-----------|-------------------|
| else outside if and unless                  | H-PAR-002 | ignoring it       |
| a second else in a block                    | H-PAR-002 | ignoring it       |
| a closing tag without an open block         | H-PAR-003 | ignoring it       |
| a closing tag for another kind of block     | H-PAR-001 | closing the block |
| the end of the template inside a block      | H-PAR-004 | closing the block |

A strict compilation stops at the first issue with an error, any other reports
each and goes on.
-/
import TagTemplate.Context
import TagTemplate.Token.Basic

namespace TagTemplate

/-- A block tag that does not fit the open blocks. -/
inductive Issue where
  /-- An else that no if or unless is open for. -/
  | strayElse
  /-- An else in a block that has one, with the line the block was opened at. -/
  | secondElse (block : BlockKind) (line : Int)
  /-- A closing tag, with its word, while no block is open. -/
  | strayClose (word : Text)
  /-- A closing tag, with its word, for a block of another kind opened at a line. -/
  | wrongClose (word : Text) (block : BlockKind) (line : Int)
  /-- A block still open at the end. -/
  | unclosed (block : BlockKind)
deriving DecidableEq

namespace Issue

/-- The opening tag of a kind of block, as messages show it. -/
def openTag (block : BlockKind) : Text := "<tmpl_" ++ block.word ++ ">"

/-- A closing tag, as messages show it. -/
def closeTag (word : Text) : Text := "</tmpl_" ++ word ++ ">"

/-- The line a block was opened at, as messages show it. -/
def openedAt (line : Int) : Text := " opened at line " ++ Text.ofInt line

def detail : Issue → Text
  | strayElse => "<tmpl_else> outside <tmpl_if> or <tmpl_unless>"
  | secondElse block line => "second <tmpl_else> in " ++ openTag block ++ openedAt line
  | strayClose word => closeTag word ++ " without an open block"
  | wrongClose word block line => closeTag word ++ " closes " ++ openTag block ++ openedAt line
  | unclosed block => openTag block ++ " is never closed"

def code : Issue → ErrorCode
  | strayElse | secondElse .. => .unexpectedElse
  | strayClose _ => .unexpectedClose
  | wrongClose .. => .structuralMismatch
  | unclosed _ => .unclosedBlock

/-- The issue is tolerated by closing a block, not by ignoring a tag. -/
def isRepaired : Issue → Bool
  | wrongClose .. | unclosed _ => true
  | _ => false

def error (c : Context) (place : Position) (issue : Issue) : Error :=
  .mismatched
    { detail := issue.detail, line := some place.line, name := c.name, source := c.source
      column := some place.column, code := issue.code }

end Issue

end TagTemplate
