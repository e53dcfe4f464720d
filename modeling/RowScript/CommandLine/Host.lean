/-!
What commands see of the world: files, the standard input and the usual places
for settings. A host may stand for the machine, or for a table of files, where
everything that a command does can be computed.
-/

namespace RowScript.CommandLine

/-- Why a file cannot be read. -/
inductive FileError where
  | notFound
  | denied
  | notDirectory
  | isDirectory
  /-- The bytes of the file are no text. -/
  | notText
  | other (message : String)
deriving DecidableEq

def FileError.message : FileError → String
  | notFound => "No such file or directory (os error 2)"
  | denied => "Permission denied (os error 13)"
  | notDirectory => "Not a directory (os error 20)"
  | isDirectory => "Is a directory (os error 21)"
  | notText => "stream did not contain valid UTF-8"
  | other message => message

/-- The world, in a monad for its effects. -/
structure Host (m : Type → Type) where
  readFile : String → m (Except FileError String)
  fileExists : String → m Bool
  readInput : m (Except FileError String)
  /-- Where settings are looked for if the command line does not name a file. -/
  settingsFiles : List String

/-- Files below one directory: the names on the way to each, and its text. -/
structure FileTable where
  files : List (List String × String)

namespace FileTable

def ofFiles (files : List (String × String)) : FileTable :=
  ⟨files.map fun (path, text) => (path.splitOn "/", text)⟩

/-- Whether some file lies below the place. -/
def isDirectory (t : FileTable) (place : List String) : Bool :=
  t.files.any fun (names, _) => place.isPrefixOf names && place != names

/-- The place that a path leads to from another place. -/
def resolve (t : FileTable) (place : List String) :
    List String → Except FileError (List String)
  | [] => .ok place
  | name :: names =>
    if (t.files.lookup place).isSome then .error .notDirectory
    else if !place.isEmpty && !t.isDirectory place then .error .notFound
    else if name == "" || name == "." then t.resolve place names
    else if name == ".." then t.resolve place.dropLast names
    else t.resolve (place ++ [name]) names

def read (t : FileTable) (path : String) : Except FileError String :=
  if path.isEmpty || path.startsWith "/" then .error .notFound
  else
    match t.resolve [] (path.splitOn "/") with
    | .error e => .error e
    | .ok place =>
      match t.files.lookup place with
      | some text => .ok text
      | none => .error (if place.isEmpty || t.isDirectory place then .isDirectory else .notFound)

def exists? (t : FileTable) (path : String) : Bool :=
  match t.read path with
  | .ok _ | .error .isDirectory => true
  | .error _ => false

/-- The world that has the files of a table and the given standard input. -/
def host (t : FileTable) (input : String) (settingsFiles : List String) : Host Id where
  readFile path := t.read path
  fileExists path := t.exists? path
  readInput := .ok input
  settingsFiles := settingsFiles

end FileTable

end RowScript.CommandLine
