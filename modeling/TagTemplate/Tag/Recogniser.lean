/-
# Recognisers — reading the start of a text

A recogniser takes a text and either reads its start, giving what it read and
the text that is left, or fails.  It never goes back on what it has read: a run
is read as long as it gets, and what is optional is read if it is there.

    literally w      the letters of w in any case
    anyOf ws         the first of the words that is there, in any case
    ahead p          a single code point in the class p
    blanks, blanks₁  a run of white space, possibly or never empty
    maybe r          r if it is there
-/
import TagTemplate.Text.Blank
import TagTemplate.Text.Case

namespace TagTemplate

/-- Reads the start of a text; what was read and the text left. -/
def Recogniser (α : Type) : Type := Text → Option (α × Text)

namespace Recogniser

def nothing (a : α) : Recogniser α := fun t => some (a, t)

/-- Reads one part and then another. -/
def andThen (r : Recogniser α) (next : α → Recogniser β) : Recogniser β :=
  fun t => match r t with
    | some (a, rest) => next a rest
    | none => none

instance : Monad Recogniser where
  pure := nothing
  bind := andThen

/-- Reads the one, or the other where the one is not. -/
def either (r s : Recogniser α) : Recogniser α := fun t => (r t).or (s t)

/-- Reads a part that may be absent. -/
def maybe (r : Recogniser α) : Recogniser (Option α) :=
  fun t => match r t with
    | some (a, rest) => some (some a, rest)
    | none => some (none, t)

/-- Reads one code point of a class. -/
def ahead (p : CodePoint → Bool) : Recogniser CodePoint
  | [] => none
  | c :: r => if p c then some (c, r) else none

/-- Reads a word in any case; `word` itself is in lower case. -/
def literally : (word : Text) → Recogniser Text
  | [] => nothing []
  | c :: word => do
    let d ← ahead (·.fold == c)
    let rest ← literally word
    return d :: rest

/-- Reads the first of the words that is there, in any case. -/
def anyOf (words : List Text) : Recogniser Text :=
  fun t => words.findSome? fun word => literally word t

/-- Reads white space, if there is some. -/
def blanks : Recogniser Unit := fun t => some ((), t.dropWhile CodePoint.isBlank)

/-- Reads white space. -/
def blanks₁ : Recogniser Unit := do
  let _ ← ahead CodePoint.isBlank
  blanks

end Recogniser

end TagTemplate
