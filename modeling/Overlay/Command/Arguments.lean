import Overlay.Files.Path
import Overlay.Text.Similarity

/-!
# Arguments

The command takes one directory and flags. Arguments are read from left to right, and the first one
that cannot stand where it is ends the reading. A complaint shows how the command is used with the
flags that were given so far.
-/

namespace Overlay.Command

open Files (Path)

inductive Flag where
  | strict
  | verbose
  | help
  | version
  deriving DecidableEq

namespace Flag

def all : List Flag := [strict, verbose, help, version]

/-- The long name. -/
def word : Flag → String
  | strict => "strict"
  | verbose => "verbose"
  | help => "help"
  | version => "version"

/-- The short name. -/
def letter? : Flag → Option Char
  | strict => none
  | verbose => some 'v'
  | help => some 'h'
  | version => some 'V'

def ofWord? (word : String) : Option Flag := all.find? fun f => f.word == word

def ofLetter? (letter : Char) : Option Flag := all.find? fun f => f.letter? == some letter

/-- The flag as it is given. -/
def written (f : Flag) : String := "--" ++ f.word

end Flag

/-- What a generation is asked to do. -/
structure Options where
  dir : Path
  strict : Bool
  verbose : Bool
  deriving DecidableEq

/-- The name of the program. -/
def programName : String := "cargo-layercfg"

/-- The word by which a build tool calls the program. -/
def callName : String := "layercfg"

/-! ## Complaints -/

/-- What to try instead of an argument. -/
inductive Tip where
  | afterMark (argument : String)
  | similar (flag : Flag)

def Tip.message : Tip → String
  | .afterMark argument => "to pass '" ++ argument ++ "' as a value, use '-- " ++ argument ++ "'"
  | .similar flag => "a similar argument exists: '" ++ flag.written ++ "'"

/-- How the program is used, given some arguments. -/
structure Usage where
  flags : List Flag
  /-- Whether a directory was given. -/
  hasDir : Bool

namespace Usage

/-- The usage when nothing is given. -/
def general : Usage := ⟨[], false⟩

/-- The usage with one more flag. -/
def add (u : Usage) (f : Flag) : Usage :=
  if u.flags.contains f then u else { u with flags := u.flags ++ [f] }

/-- A line about the usage. All options are left open only if nothing is given. -/
def line (u : Usage) : String :=
  let flags := if u.flags.isEmpty && !u.hasDir then ["[OPTIONS]"] else u.flags.map Flag.written
  let dir := if u.hasDir then "<dir>" else "[dir]"
  "Usage: " ++ " ".intercalate (programName :: flags ++ [dir])

end Usage

/-- Why arguments cannot be read. -/
inductive Misuse where
  | unexpected (argument : String) (tip : Option Tip) (usage : Usage)
  | repeated (flag : Flag)
  | unneededValue (flag : Flag) (value : String) (usage : Usage)

namespace Misuse

def summary : Misuse → String
  | unexpected argument .. => "unexpected argument '" ++ argument ++ "' found"
  | repeated flag => "the argument '" ++ flag.written ++ "' cannot be used multiple times"
  | unneededValue flag value _ =>
    "unexpected value '" ++ value ++ "' for '" ++ flag.written ++ "' found; no more were expected"

def tip? : Misuse → Option Tip
  | unexpected _ tip _ => tip
  | _ => none

def usage : Misuse → Usage
  | unexpected _ _ usage => usage
  | repeated _ => .general
  | unneededValue _ _ usage => usage

/-- The complaint, with a line feed at the end. -/
def message (m : Misuse) : String :=
  "\n\n".intercalate
    (("error: " ++ m.summary) :: (m.tip?.map fun t => "  tip: " ++ t.message).toList
      ++ [m.usage.line, "For more information, try '--help'."]) ++ "\n"

end Misuse

/-- The description of the program. -/
def helpText : String :=
  "\n".intercalate
    ["Generate layered configuration types from a gated config.rs",
     "",
     Usage.general.line,
     "",
     "Arguments:",
     "  [dir]  Directory to search for the build script [default: .]",
     "",
     "Options:",
     "      --strict   Fail when any `build_configs` argument cannot be resolved",
     "  -v, --verbose  Log resolution details to stderr",
     "  -h, --help     Print help",
     "  -V, --version  Print version",
     ""]

/-! ## Reading -/

/-- What ends the reading of arguments before generation. -/
inductive Ending where
  | help
  | version
  | misuse (m : Misuse)

/-- What has been read so far. -/
structure Given where
  flags : List Flag
  dir : Option Path
  /-- Whether a flag was read after the directory. -/
  settled : Bool

namespace Given

def nothing : Given := ⟨[], none, false⟩

def options (g : Given) : Options :=
  ⟨g.dir.getD ".", g.flags.contains .strict, g.flags.contains .verbose⟩

/-- Takes a flag. -/
def set (g : Given) : Flag → Except Ending Given
  | .help => .error .help
  | .version => .error .version
  | f =>
    if g.flags.contains f then .error (.misuse (.repeated f))
    else .ok { g with flags := g.flags ++ [f], settled := g.dir.isSome }

/-- Takes a directory. -/
def setDir (g : Given) (argument : String) : Except Ending Given :=
  if g.dir.isSome then .error (.misuse (.unexpected argument none .general))
  else .ok { g with dir := some argument }

/-- Takes a flag by its long name, perhaps with a value. -/
def setLong (g : Given) (word : String) (value? : Option String) : Except Ending Given :=
  match Flag.ofWord? word, value? with
  | some f, none => g.set f
  | some f, some value =>
    .error (.misuse (.unneededValue f value (Usage.add ⟨g.flags, g.settled⟩ f)))
  | none, _ =>
    let argument := "--" ++ word
    let usage : Usage := ⟨g.flags, g.dir.isSome⟩
    match (Text.Similarity.closest? word (Flag.all.map Flag.word)).bind Flag.ofWord? with
    | some f =>
      .error (.misuse (.unexpected argument (some (.similar f)) (usage.add f)))
    | none => .error (.misuse (.unexpected argument (some (.afterMark argument)) usage))

/-- Takes flags by their short names. -/
def setShort (g : Given) : List Char → Except Ending Given
  | [] => .ok g
  | c :: rest =>
    match Flag.ofLetter? c with
    | some f => do (← g.set f).setShort rest
    | none =>
      let argument := "-" ++ c.toString
      .error (.misuse (.unexpected argument (some (.afterMark argument)) .general))

/-- Takes the arguments after a mark, which are no flags. -/
def takeRest (g : Given) : List String → Except Ending Given
  | [] => .ok g
  | argument :: rest => do (← g.setDir argument).takeRest rest

/-- The parts of a long argument before and after the first equality sign. -/
def splitValue (body : List Char) : String × Option String :=
  match body.dropWhile (· != '=') with
  | [] => (String.ofList body, none)
  | _ :: value => (String.ofList (body.takeWhile (· != '=')), some (String.ofList value))

/-- Takes arguments. -/
def take (g : Given) : List String → Except Ending Given
  | [] => .ok g
  | argument :: rest =>
    match argument.toList with
    | ['-', '-'] => g.takeRest rest
    | '-' :: '-' :: body =>
      let (word, value?) := splitValue body
      do (← g.setLong word value?).take rest
    | ['-'] => do (← g.setDir argument).take rest
    | '-' :: letters => do (← g.setShort letters).take rest
    | _ => do (← g.setDir argument).take rest

end Given

/-- The options that some arguments give. The word by which a build tool calls the program may stand
before them. -/
def readArguments (arguments : List String) : Except Ending Options :=
  let arguments := match arguments with
    | first :: rest => if first == callName then rest else arguments
    | [] => []
  (Given.nothing.take arguments).map Given.options

end Overlay.Command
