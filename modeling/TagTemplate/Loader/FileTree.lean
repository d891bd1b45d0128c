/-
# File trees — templates in directories

A file tree holds files and directories from the root on.  Paths are written with
slashes; empty parts and single dots in them do not count, so that `a//./b/` and
`a/b` are one path.  One that does not start at the root starts at the working
directory.  A double dot leads to the directory above, but only from a directory
that exists.  There are no links in the tree, and everything in it can be opened.

    locate          the place that a path leads to, by its parts from the root
    file?           the bytes of the file there
    directory?      the directory there
    templatesUnder  the entries below a directory that are named like templates
-/
import TagTemplate.Error

namespace TagTemplate

/-- A path: whether it starts at the root, and its parts. -/
structure FilePath where
  root : Text
  parts : List Text
deriving DecidableEq

namespace FilePath

def slash : CodePoint := .ofChar '/'

/-- The path that a text writes.  Exactly two slashes in front are a root of their own. -/
def ofText (t : Text) : FilePath where
  root := match (t.takeWhile (· == slash)).length with
    | 0 => []
    | 2 => "//"
    | _ => "/"
  parts := (t.splitOn slash).filter fun part => !part.isEmpty && part != "."

def text (p : FilePath) : Text :=
  match p.root ++ Text.join [slash] p.parts with
  | [] => "."
  | t => t

/-- A path from a directory on; one that starts at the root stays as it is. -/
def join (base p : FilePath) : FilePath :=
  if p.root.isEmpty then { base with parts := base.parts ++ p.parts } else p

/-- The number of bytes of a text in UTF-8. -/
def byteCount (t : Text) : Nat := (t.flatMap CodePoint.utf8).length

/-- A part longer than this names no file. -/
def maxPartBytes : Nat := 255

/-- A path longer than this leads nowhere. -/
def maxPathBytes : Nat := 4095

end FilePath

/-- Files and directories, by the parts of their paths from the root. -/
structure FileTree where
  files : List (List Text × List UInt8)
  /-- Directories that may be empty; those above a file or directory need not be listed. -/
  directories : List (List Text)
  /-- The directory that paths start at which do not start at the root. -/
  workingDirectory : List Text

namespace FileTree

/-- All files and all directories that are told of. -/
def listed (t : FileTree) : List (List Text) :=
  t.files.map (·.1) ++ t.workingDirectory :: t.directories

/-- A directory: the root, one that is told of, or one above something. -/
def isDirectory (t : FileTree) (place : List Text) : Bool :=
  place.isEmpty || (t.workingDirectory :: t.directories).contains place ||
    t.listed.any fun l => place.length < l.length && place.isPrefixOf l

/-- Where the parts of a path lead from a place; a part too long is an error.  The root is above
itself. -/
def walk (t : FileTree) (here : List Text) : List Text → Except Unit (Option (List Text))
  | [] => .ok (some here)
  | part :: parts =>
    if !t.isDirectory here then .ok none
    else if part = ".." then t.walk here.dropLast parts
    else if FilePath.maxPartBytes < FilePath.byteCount part then .error ()
    else t.walk (here ++ [part]) parts

/-- Where a path leads, whether or not something is there. -/
def locate (t : FileTree) (p : FilePath) : Except Error (Option (List Text)) :=
  if p.text.any (·.val == 0) then .ok none
  else if FilePath.maxPathBytes < FilePath.byteCount p.text then .error (.nameTooLong p.text)
  else match t.walk (if p.root.isEmpty then t.workingDirectory else []) p.parts with
    | .ok place => .ok place
    | .error () => .error (.nameTooLong p.text)

/-- The bytes of the file that a path leads to. -/
def file? (t : FileTree) (p : FilePath) : Except Error (Option (List UInt8)) := do
  return (← t.locate p).bind fun place => t.files.lookup place

def directory? (t : FileTree) (p : FilePath) : Except Error (Option (List Text)) := do
  return (← t.locate p).filter t.isDirectory

def templateSuffixes : List Text := [".tmpl", ".html"]

def isTemplateName (name : Text) : Bool := templateSuffixes.any (·.isSuffixOf name)

/-- All files and directories below a location, by their paths from there. -/
def below (t : FileTree) (location : List Text) : List (List Text) :=
  (t.listed.filter location.isPrefixOf).flatMap fun l =>
    let path := l.drop location.length
    (List.range path.length).map fun i => path.take (i + 1)

/-- The entries below a location, files or directories, that are named like templates. -/
def templatesUnder (t : FileTree) (location : List Text) : List Text :=
  ((t.below location).filter fun path => isTemplateName (path.getLastD [])).map
    (Text.join [FilePath.slash])

end FileTree

end TagTemplate
