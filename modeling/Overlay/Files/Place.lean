import Overlay.Files.Entry
import Overlay.Files.Error
import Overlay.Files.Path

/-!
# Where a path leads

A path is followed from a directory part by part. A link continues at its target, at most forty
times. Inside a confined directory no part may lead out of it.
-/

namespace Overlay.Files

/-- A place: the names that lead to it from the root, without links. -/
abbrev Place := List String

/-- What following some parts came to: the place they lead to, a failure, a link to be followed with
further parts after it, or a name that does not exist in a directory. -/
inductive Stop where
  | place (p : Place)
  | failed (e : FileError)
  | link (here : Place) (target : String) (rest : List String)
  | absent (here : Place) (name : String)

/-- The greatest number of bytes in a name. -/
def nameLimit : Nat := 255

/-- The greatest number of links on one way. -/
def linkLimit : Nat := 40

/-- Follows parts up to the first link. Above `floor` there is no way up when confined. -/
def followParts (root : Entry) (floor : Option Place) : (here : Place) → List String → Stop
  | here, [] => .place here
  | here, part :: rest =>
    match root.get? here with
    | some (.directory es) =>
      if Path.isIdle part then followParts root floor here rest
      else if part == ".." then
        if floor == some here then .failed .outside else followParts root floor here.dropLast rest
      else if nameLimit < part.utf8ByteSize then .failed .nameTooLong
      else match Entry.find? part es with
        | some (.link target) => .link here target rest
        | some _ => followParts root floor (here ++ [part]) rest
        | none => if rest.isEmpty then .absent here part else .failed .notFound
    | some _ => .failed .notDirectory
    | none => .failed .notFound

/-- The parts of a path to be followed; a slash at its end asks for a directory. -/
def pathParts (p : Path) : List String :=
  let raw := p.rawParts
  if raw.getLast? == some "" then p.parts ++ ["."] else p.rawParts.filter (!·.isEmpty)

/-- Follows parts and links. -/
def follow (root : Entry) (floor : Option Place) : (links : Nat) → Place → List String → Stop
  | 0, here, parts =>
    match followParts root floor here parts with
    | .link .. => .failed .tooManyLinks
    | stop => stop
  | links + 1, here, parts =>
    match followParts root floor here parts with
    | .link here target rest =>
      if target.isEmpty then .failed .notFound
      else if Path.isAbsolute target then
        if floor.isSome then .failed .outside
        else follow root floor links [] (pathParts target ++ rest)
      else follow root floor links here (pathParts target ++ rest)
    | stop => stop

end Overlay.Files
