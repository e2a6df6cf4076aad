import Overlay.Command.Run

/-!
# The program

The files of the project are listed on standard input, one path on each line, relative to the
working directory or absolute; a path that ends in a slash is a directory. They are read before the
run, and the generated module is written after it.
-/

open Overlay Overlay.Files

/-- The lines of a stream, without their ends. -/
partial def inputLines (input : IO.FS.Stream) : IO (List String) := do
  let line ← input.getLine
  if line.isEmpty then return []
  let text := String.ofList (line.toList.filter fun c => c != '\n' && c != '\r')
  return text :: (← inputLines input)

/-- The entry of a listed path. -/
def readEntry (path : String) : IO Entry := do
  if Path.hasEnding "/" path then return .emptyDirectory
  return .file (.ofBytes (← IO.FS.readBinFile path).toList)

/-- The files that are listed. -/
def readFiles (paths : List String) : IO FileSystem := do
  let here := toString (← IO.currentDir)
  let start := (FileSystem.empty (Path.parts here)).install here .emptyDirectory
  paths.foldlM (fun fs path => do return fs.install path (← readEntry path)) start

def main (arguments : List String) : IO UInt32 := do
  let paths ← inputLines (← IO.getStdin)
  let fs ← readFiles (paths.filter fun p => !p.isEmpty)
  let outcome := Command.run fs arguments (← IO.getEnv "LAYERCFG_LOG")
  if let some (path, text) := outcome.written then IO.FS.writeFile path text
  IO.print outcome.output
  IO.eprint outcome.log
  return outcome.code.toUInt32
