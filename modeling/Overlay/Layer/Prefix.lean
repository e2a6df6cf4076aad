/-!
# Names of variables

Keys of the environment are compared without regard to the case of ASCII letters. A prefix is held
in capitals and without underscores at its end.
-/

namespace Overlay.Layer

/-- A text with the ASCII letters in capitals. -/
def capitals (s : String) : String := String.ofList (s.toList.map Char.toUpper)

/-- A text with the ASCII letters in small letters. -/
def smallLetters (s : String) : String := String.ofList (s.toList.map Char.toLower)

/-- A prefix as it is held. -/
def normalizePrefix (name : String) : String :=
  capitals (String.ofList (name.toList.reverse.dropWhile (· == '_')).reverse)

/-- The underscores between two keys of a path. -/
def nesting : String := "__"

/-- Parts of a text between double underscores, found from the left. -/
def splitNesting : (part : List Char) → List Char → List String
  | part, [] => [String.ofList part.reverse]
  | part, '_' :: '_' :: rest => String.ofList part.reverse :: splitNesting [] rest
  | part, c :: rest => splitNesting (c :: part) rest

/-- The path of keys that the name of a variable stands for. -/
def keyPath (name : String) : List String := (splitNesting [] name.toList).map smallLetters

/-- The name of the variable for a path of keys. -/
def variableName (path : List String) : String := nesting.intercalate (path.map capitals)

/-- What follows a prefix and an underscore in a name. -/
def afterPrefix? (envPrefix : Option String) (name : String) : Option String :=
  match envPrefix with
  | none => some name
  | some expected =>
    let cs := name.toList
    let size := expected.toList.length
    if (cs.take size).map Char.toUpper == expected.toList.map Char.toUpper then
      match cs.drop size with
      | '_' :: rest => some (String.ofList rest)
      | _ => none
    else none

/-- A name behind a prefix. -/
def withPrefix (envPrefix : Option String) (name : String) : String :=
  match envPrefix with
  | none => name
  | some p => p ++ "_" ++ name

end Overlay.Layer
