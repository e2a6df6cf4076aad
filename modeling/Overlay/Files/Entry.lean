/-!
# Trees of files

A directory holds entries under names: files, symbolic links and directories.
-/

namespace Overlay.Files

/-- What a file holds: text, or bytes that are no text. -/
inductive Content where
  | text (s : String)
  | binary (bytes : List UInt8)
  deriving DecidableEq

namespace Content

def ofBytes (bytes : List UInt8) : Content :=
  match String.fromUTF8? ⟨bytes.toArray⟩ with
  | some s => .text s
  | none => .binary bytes

end Content

inductive Entry where
  | file (content : Content)
  | link (target : String)
  | directory (children : List (String × Entry))

namespace Entry

def emptyDirectory : Entry := .directory []

/-- The entry under a name. -/
def find? (name : String) : List (String × Entry) → Option Entry
  | [] => none
  | (n, e) :: rest => if n = name then some e else find? name rest

/-- Changes the entry under a name, which may be missing. -/
def alter (name : String) (f : Option Entry → Option Entry) :
    List (String × Entry) → List (String × Entry)
  | [] =>
    match f none with
    | some e => [(name, e)]
    | none => []
  | (n, e) :: rest =>
    if n = name then
      match f (some e) with
      | some e => (n, e) :: rest
      | none => rest
    else (n, e) :: alter name f rest

def children : Entry → List (String × Entry)
  | directory es => es
  | _ => []

/-- The entry at a path of names; links are not followed. -/
def get? : (path : List String) → Entry → Option Entry
  | [], e => some e
  | name :: path, .directory es => (find? name es).bind (get? path)
  | _ :: _, _ => none

/-- Puts an entry at a path of names. What is missing on the way becomes a directory, and so does
what stands in the way. -/
def put (new : Entry) : (path : List String) → Entry → Entry
  | [], _ => new
  | name :: path, e =>
    .directory (alter name (fun old => some (put new path (old.getD emptyDirectory))) e.children)

/-- Removes the entry at a path of names. -/
def erase : (path : List String) → Entry → Entry
  | [], e => e
  | [name], .directory es => .directory (alter name (fun _ => none) es)
  | name :: path, .directory es => .directory (alter name (Option.map (erase path)) es)
  | _, e => e

end Entry

end Overlay.Files
