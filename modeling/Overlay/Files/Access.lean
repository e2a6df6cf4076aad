import Overlay.Files.Place

/-!
# Reading and writing files

A file system is a tree of entries and the directory in which relative paths start. Directories that
have been opened confine what is reached through them.
-/

namespace Overlay.Files

structure FileSystem where
  root : Entry
  workingDirectory : Place

namespace FileSystem

/-- Follows a path from the working directory or the root. -/
def walk (fs : FileSystem) (p : Path) : Stop :=
  if p.isEmpty then .failed .notFound
  else
    let start := if p.isAbsolute then [] else fs.workingDirectory
    follow fs.root none linkLimit start (pathParts p)

/-- The place of something that exists. -/
def place (fs : FileSystem) (p : Path) : Except FileError Place :=
  match fs.walk p with
  | .place here => .ok here
  | .failed e => .error e
  | .absent .. | .link .. => .error .notFound

/-- The path without links of something that exists. -/
def canonical (fs : FileSystem) (p : Path) : Except FileError Path :=
  (fs.place p).map Path.ofParts

def entry? (fs : FileSystem) (p : Path) : Option Entry :=
  match fs.place p with
  | .ok here => fs.root.get? here
  | .error _ => none

def isFile (fs : FileSystem) (p : Path) : Bool :=
  match fs.entry? p with
  | some (.file _) => true
  | _ => false

/-- The text of an entry. -/
def textOf : Option Entry → Except FileError String
  | some (.file (.text s)) => .ok s
  | some (.file (.binary _)) => .error .invalidText
  | some (.directory _) => .error .isDirectory
  | _ => .error .notFound

/-- The text of the file at a path. -/
def readText (fs : FileSystem) (p : Path) : Except FileError String := do
  textOf (fs.root.get? (← fs.place p))

/-! ## Confined directories -/

/-- The place of a directory. -/
def openDirectory (fs : FileSystem) (p : Path) : Except FileError Place := do
  let here ← fs.place p
  match fs.root.get? here with
  | some (.directory _) => return here
  | _ => throw .notDirectory

/-- Follows a name inside an opened directory. -/
def walkBelow (fs : FileSystem) (dir : Place) (name : String) : Stop :=
  follow fs.root (some dir) linkLimit dir (pathParts name)

/-- The text of a file in an opened directory. -/
def readBelow (fs : FileSystem) (dir : Place) (name : String) : Except FileError String :=
  match fs.walkBelow dir name with
  | .place here => textOf (fs.root.get? here)
  | .failed e => .error e
  | _ => .error .notFound

/-- Puts an entry under its name into a list that is in the order of the names. -/
def insertByName {α : Type} (entry : String × α) : List (String × α) → List (String × α)
  | [] => [entry]
  | e :: rest => if e.1 < entry.1 then e :: insertByName entry rest else entry :: e :: rest

/-- Entries in the order of their names. -/
def sortByName {α : Type} : List (String × α) → List (String × α)
  | [] => []
  | e :: rest => insertByName e (sortByName rest)

/-- Puts a file at a place. -/
def putFile (fs : FileSystem) (here : Place) (content : Content) : FileSystem :=
  { fs with root := Entry.put (.file content) here fs.root }

/-- Writes the file where following a path stopped, which may be new. -/
def writeAt (fs : FileSystem) (text : String) : Stop → Except FileError FileSystem
  | .place here =>
    match fs.root.get? here with
    | some (.directory _) => .error .isDirectory
    | _ => .ok (fs.putFile here (.text text))
  | .absent here name => .ok (fs.putFile (here ++ [name]) (.text text))
  | .failed e => .error e
  | .link .. => .error .tooManyLinks

/-- Writes a file in an opened directory, replacing what it held. -/
def writeBelow (fs : FileSystem) (dir : Place) (name text : String) :
    Except FileError FileSystem :=
  fs.writeAt text (fs.walkBelow dir name)

/-! ## Setting up -/

/-- The place that a path names when no link is followed. -/
def lexicalPlace (fs : FileSystem) (p : Path) : Place :=
  p.parts.foldl (fun here part => if part == ".." then here.dropLast else here ++ [part])
    (if p.isAbsolute then [] else fs.workingDirectory)

/-- Puts an entry at a path and makes the directories on the way. A file goes where links lead, and
a directory that exists stays as it is. -/
def install (fs : FileSystem) (p : Path) (e : Entry) : FileSystem :=
  let here := match e, fs.place p with
    | .file _, .ok here => here
    | _, _ => fs.lexicalPlace p
  match e, fs.root.get? here with
  | .directory _, some (.directory _) => fs
  | _, _ => { fs with root := Entry.put e here fs.root }

/-- Removes the entry at a path, a directory with all that is in it; tells whether there was one. -/
def remove (fs : FileSystem) (p : Path) : FileSystem × Bool :=
  let here := fs.lexicalPlace p
  match fs.root.get? here with
  | some _ => ({ fs with root := fs.root.erase here }, true)
  | none => (fs, false)

/-- A file system with one empty directory, which is the working directory. -/
def empty (workingDirectory : Place) : FileSystem :=
  ⟨Entry.put .emptyDirectory workingDirectory .emptyDirectory, workingDirectory⟩

end FileSystem

end Overlay.Files
