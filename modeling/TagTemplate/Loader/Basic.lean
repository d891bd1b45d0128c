/-
# Loaders — where templates come from

A loader answers a name with the text of a template and a name for its file.

    mapping    the texts in a table; a near miss is suggested by its name
    files      the first of several directories that has the file
    function   whatever a function answers: a text, a pair, or nothing
    choice     the first of several loaders that has the template
    unlisted   another loader, without its list of templates
    custom     a loader made elsewhere, of which only its answers are known

A loader without the template says so with a `notFound` error, which lets a choice
go on to the next; any other error ends the search.

Choices within choices may be nested to any depth: the recursion limit of the runtime
is not modelled.
-/
import TagTemplate.Loader.FileTree
import TagTemplate.Text.Similarity
import TagTemplate.Value.Truth

namespace TagTemplate

/-- Directories of template files. -/
structure FileStore where
  tree : FileTree
  /-- The directories to search, in order. -/
  directories : List FilePath
  /-- The name of the charset of the files. -/
  charset : Text

/-- Where templates come from. -/
inductive Loader where
  | mapping (templates : List (Text × Text))
  | files (store : FileStore)
  | function (fetch : Text → Except Error Value)
  | choice (loaders : List Loader)
  | unlisted (inner : Loader)
  /-- What it is called, how it answers, and the names it lists, if it has a list. -/
  | custom (title : Text) (answer : Text → Except Error Value)
    (names : Option (Except Error (List Text)))

/-- Names in ascending order, each once. -/
def sortNames (names : List Text) : List Text := names.eraseDups.mergeSort Text.le

namespace FileStore

/-- The text of a file with the line breaks of all systems as line feeds. -/
def read (s : FileStore) (bytes : List UInt8) : Except Error Text :=
  match Charset.ofName s.charset with
  | .error fault => .error (.noCharset s.charset fault)
  | .ok charset => match Text.decode charset bytes with
    | .ok t => .ok t.normalizeNewlines
    | .error fault => .error (.undecodable fault)

/-- The file that a name leads to from the first directory that has it. -/
def find? (s : FileStore) (name : Text) : List FilePath → Except Error (Option (FilePath × List UInt8))
  | [] => .ok none
  | directory :: directories => do
    let path := directory.join (.ofText name)
    match ← s.tree.file? path with
    | some bytes => return some (path, bytes)
    | none => s.find? name directories

def fetch (s : FileStore) (name : Text) : Except Error Value := do
  match ← s.find? name s.directories with
  | some (path, bytes) => return .tuple [.text (← s.read bytes), .text path.text]
  | none =>
    .error (.notFound (.inDirectories name (s.directories.map FilePath.text)) (some .templateNotFound))

def list (s : FileStore) : Except Error (List Text) := do
  let locations ← s.directories.mapM s.tree.directory?
  return sortNames (locations.flatMap fun l => (l.map s.tree.templatesUnder).getD [])

end FileStore

namespace Loader

/-- What a table without a template says. -/
def absence (templates : List (Text × Text)) (name : Text) : Absence :=
  let available := sortNames (templates.map (·.1))
  match Similarity.closest? name available with
  | some suggestion => .similar name suggestion
  | none => .among name available

/-- The answer of a function, a lone text made a pair. -/
def functionAnswer (name : Text) : Value → Except Error Value
  | .null => .error (.notFound (.unanswered name) (some .templateNotFound))
  | .text t => .ok (.tuple [.text t, .text "<function>"])
  | answer => .ok answer

mutual

/-- A loader's answer to a name: a pair of a text and a file name, or whatever a
function answers instead. -/
def fetch : Loader → Text → Except Error Value
  | mapping templates, name =>
    match templates.lookup name with
    | some text => .ok (.tuple [.text text, .null])
    | none => .error (.notFound (absence templates name) (some .templateNotFound))
  | files store, name => store.fetch name
  | function answer, name => do functionAnswer name (← answer name)
  | choice loaders, name =>
    match fetchFirst loaders name with
    | some answer => answer
    | none => .error (.notFound (.inChoices name loaders.length) (some .templateNotFound))
  | unlisted inner, name => fetch inner name
  | custom _ answer _, name => answer name

/-- The answer of the first loader that has the template. -/
def fetchFirst : List Loader → Text → Option (Except Error Value)
  | [], _ => none
  | loader :: loaders, name =>
    match fetch loader name with
    | .error e => if e.isNotFound then fetchFirst loaders name else some (.error e)
    | .ok answer => some (.ok answer)

end

mutual

def list? : Loader → Option (Except Error (List Text))
  | mapping templates => some (.ok (sortNames (templates.map (·.1))))
  | files store => some store.list
  | function _ => some (.ok [])
  | choice loaders => some ((listAll loaders).map sortNames)
  | unlisted _ => none
  | custom _ _ names => names

/-- The names of all loaders that have a list of their templates. -/
def listAll : List Loader → Except Error (List Text)
  | [] => .ok []
  | loader :: loaders => do
    let here ← (list? loader).getD (.ok [])
    return here ++ (← listAll loaders)

end

/-- A table with another text for a name, or without the name. -/
def assign (name : Text) (text : Option Text) (templates : List (Text × Text)) : List (Text × Text) :=
  let others := templates.filter (·.1 != name)
  match text with
  | some text => (name, text) :: others
  | none => others

mutual

/-- The loader with another text for a name in its first table, or without the name. -/
def put (name : Text) (text : Option Text) : Loader → Loader
  | mapping templates => mapping (assign name text templates)
  | choice loaders => choice (putFirst name text loaders)
  | unlisted inner => unlisted (put name text inner)
  | loader => loader

/-- The loaders with another text for a name in the first table among them. -/
def putFirst (name : Text) (text : Option Text) : List Loader → List Loader
  | [] => []
  | loader :: loaders =>
    if hasTable loader then put name text loader :: loaders
    else loader :: putFirst name text loaders

def hasTable : Loader → Bool
  | mapping _ => true
  | choice loaders => anyTable loaders
  | unlisted inner => hasTable inner
  | _ => false

def anyTable : List Loader → Bool
  | [] => false
  | loader :: loaders => hasTable loader || anyTable loaders

end

/-- The name of a kind of loader. -/
def title : Loader → Text
  | mapping _ => "DictLoader"
  | files _ => "FileSystemLoader"
  | function _ => "FunctionLoader"
  | choice _ => "ChoiceLoader"
  | unlisted _ => "Bare"
  | custom title _ _ => title

end Loader

/-- The two parts of a loader's answer. -/
def Value.pair (answer : Value) : Except Error (Value × Value) :=
  match answer.firstItems? 3 with
  | some [source, filename] => .ok (source, filename)
  | some parts => .error (if parts.length < 2 then .tooFewParts parts.length else .tooManyParts)
  | none => .error (.notUnpackable answer.typePath)

end TagTemplate
