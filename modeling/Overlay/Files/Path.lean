/-!
# Paths

A path is a text whose parts are divided by slashes. Empty parts and single dots say nothing, except
for a dot that a relative path begins with.
-/

namespace Overlay.Files

/-- A path, as it was written. -/
abbrev Path := String

namespace Path

def isAbsolute (p : Path) : Bool := p.toList.head? == some '/'

/-- The parts between the slashes, as written. -/
def rawParts (p : Path) : List String := splitAt [] p.toList
where
  splitAt (part : List Char) : List Char → List String
    | [] => [String.ofList part.reverse]
    | c :: rest =>
      if c == '/' then String.ofList part.reverse :: splitAt [] rest else splitAt (c :: part) rest

/-- Whether a part says nothing about the place. -/
def isIdle (part : String) : Bool := part.isEmpty || part == "."

/-- The parts of a path that say something. -/
def parts (p : Path) : List String := p.rawParts.filter (!isIdle ·)

/-- Drops idle parts at the end of a reversed list of parts, but not a dot at the beginning of a
relative path. -/
def dropIdle (absolute : Bool) : List String → List String
  | [] => []
  | [part] => if part.isEmpty || (absolute && part == ".") then [] else [part]
  | part :: rest => if isIdle part then dropIdle absolute rest else part :: rest

/-- The parts of a path as written, the last one first, without idle ones at its end. -/
def reversedParts (p : Path) : List String :=
  let raw := if p.isAbsolute then p.rawParts.drop 1 else p.rawParts
  dropIdle p.isAbsolute raw.reverse

def ofReversed (absolute : Bool) (parts : List String) : Path :=
  (if absolute then "/" else "") ++ "/".intercalate parts.reverse

/-- The path without its last part. -/
def parent? (p : Path) : Option Path :=
  match p.reversedParts with
  | [] => none
  | _ :: rest => some (ofReversed p.isAbsolute (dropIdle p.isAbsolute rest))

/-- The last part, if it is a name. -/
def fileName? (p : Path) : Option String :=
  match p.reversedParts with
  | [] => none
  | part :: _ => if isIdle part || part == ".." then none else some part

/-- Whether a name ends in some characters. -/
def hasEnding (ending name : String) : Bool := ending.toList.isSuffixOf name.toList

/-- A path below another one. An absolute path stands for itself. -/
def join (base path : Path) : Path :=
  if path.isAbsolute then path
  else if base.isEmpty || base.toList.getLast? == some '/' then base ++ path
  else base ++ "/" ++ path

/-- What stands after the last dot of a name, unless that dot is its only one and its first
character. -/
def extension? (p : Path) : Option String :=
  match p.fileName? with
  | none => none
  | some name =>
    let reversed := name.toList.reverse
    let ending := reversed.takeWhile (· != '.')
    match reversed.drop ending.length with
    | '.' :: _ :: _ => some (String.ofList ending.reverse)
    | _ => none

/-- The parts that lead from a base to a path below it. -/
def below? (base path : Path) : Option (List String) :=
  if base.isAbsolute == path.isAbsolute && base.parts.isPrefixOf path.parts then
    some (path.parts.drop base.parts.length)
  else none

/-- A path and all paths above it. The fuel is the number of its characters. -/
def ancestors (p : Path) : List Path := climb p.length p
where
  climb : Nat → Path → List Path
    | 0, p => [p]
    | fuel + 1, p =>
      match p.parent? with
      | some q => p :: climb fuel q
      | none => [p]

/-- The path of these parts from the root. -/
def ofParts (parts : List String) : Path := "/" ++ "/".intercalate parts

end Path

end Overlay.Files
