/-
# Tokens — a template as a sequence of texts and tags

A token says what stands at a place of a template.  Tags that open a block or
stand for themselves carry a name, closing tags the word they close.  A token
also has an escape mode, which any tag with a name may ask for, though only a
variable heeds it.
-/
import TagTemplate.Escape.Basic

namespace TagTemplate

/-- A place in a template: lines count from one and columns from zero. -/
structure Position where
  line : Int
  column : Int
deriving DecidableEq

/-- The kinds of blocks. -/
inductive BlockKind where
  | ifBlock
  | unlessBlock
  | loopBlock
deriving DecidableEq

namespace BlockKind

def word : BlockKind → Text
  | ifBlock => "if"
  | unlessBlock => "unless"
  | loopBlock => "loop"

end BlockKind

namespace Token

/-- What a token is. -/
inductive Content where
  /-- Literal text. -/
  | text (value : Text)
  /-- A variable to put out. -/
  | output (name : Text)
  /-- The start of a block. -/
  | opening (kind : BlockKind) (name : Text)
  /-- The start of the other branch of a block. -/
  | otherwise
  /-- The end of a block. -/
  | closing (word : Text)
  /-- Another template to put in. -/
  | inclusion (name : Text)
deriving DecidableEq

namespace Content

/-- The type of a token, in lower case. -/
def type : Content → Text
  | text _ => "text"
  | output _ => "var"
  | opening kind _ => kind.word
  | otherwise => "else"
  | closing _ => "close"
  | inclusion _ => "include"

def value : Content → Text
  | text value => value
  | output name => name
  | opening _ name => name
  | otherwise => []
  | closing word => word
  | inclusion name => name

end Content

end Token

/-- A token. -/
structure Token where
  content : Token.Content
  position : Position
  escape : EscapeMode
deriving DecidableEq

namespace Token

/-- A token as it is shown to a reader. -/
def display (t : Token) : Text :=
  let escape : Text :=
    if t.escape = .plain then [] else ", escape=" ++ t.escape.word
  "Token(" ++ t.content.type.upper ++ ", " ++ t.content.value.quoted ++ escape ++ ")"

end Token

end TagTemplate
