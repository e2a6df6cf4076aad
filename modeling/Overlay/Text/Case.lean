import Overlay.Text.LowerCase

/-!
# Snake case

A name is split into words by two passes and then lower-cased. The first pass puts an underscore
before every capitalised word, the second between a small letter or digit and a capital. Acronyms
stay together, and underscores that are already there are kept.
-/

namespace Overlay.Text.Case

def isCapital (c : Char) : Bool := 'A' ≤ c && c ≤ 'Z'

def isSmall (c : Char) : Bool := 'a' ≤ c && c ≤ 'z'

def isDigit (c : Char) : Bool := '0' ≤ c && c ≤ '9'

/-- The first pass. A character other than a line feed, a capital and at least one small letter
match together; the underscore goes after the first of them, and the search goes on after the
small letters. `inWord` holds while the small letters of a match are being passed over. -/
def splitWords (inWord : Bool) : List Char → List Char
  | c :: d :: e :: tail =>
    if inWord && isSmall c then c :: splitWords true (d :: e :: tail)
    else if c != '\n' && isCapital d && isSmall e then c :: '_' :: d :: e :: splitWords true tail
    else c :: splitWords false (d :: e :: tail)
  | short => short

/-- The second pass: an underscore between a small letter or digit and the capital after it. -/
def splitBoundaries : List Char → List Char
  | c :: d :: tail =>
    if (isSmall c || isDigit c) && isCapital d then c :: '_' :: d :: splitBoundaries tail
    else c :: splitBoundaries (d :: tail)
  | short => short

/-- The name with its words divided by underscores, in the case it came in. -/
def divide (name : List Char) : List Char := splitBoundaries (splitWords false name)

/-- Snake case of a name. -/
def snakeCase (name : String) : String :=
  Text.lowerCase (String.ofList (divide name.toList))

end Overlay.Text.Case
