import MiniScheme.Repl.Basic

/- The command loop as a program. A line is run on a snapshot of the files it
   asks for: when it asks for one that the snapshot lacks, the file is read and
   the line is run again from the state before it. -/
namespace MiniScheme.Main

/-- Files as they were found, by location. -/
abbrev Snapshot := List (String × Except LoadFailure String)

/-- A loader that knows the files of a snapshot. -/
def loaderOf (snapshot : Snapshot) : Loader where
  origin := .fileSystem
  read location := (snapshot.lookup location).getD (.error .noSuchFile)

/-- The location that an event opens. -/
def opened? : LogEvent → Option String
  | .opening location _ => some location
  | _ => none

/-- The locations that a run asked for and a snapshot lacks. -/
def wanted (snapshot : Snapshot) (r : Repl) : List String :=
  ((r.state.log.toList.filterMap opened?).filter fun l => (snapshot.lookup l).isNone).eraseDups

/-- What a failed attempt to read a file means. -/
def failureOf : IO.Error → LoadFailure
  | .noFileOrDirectory .. => .noSuchFile
  | .inappropriateType _ code _ =>
    if code = 21 then .isDirectory else .notDirectory
  | e => .other (toString e)

def readFile (location : String) : IO (Except LoadFailure String) := do
  try
    match String.fromUTF8? (← IO.FS.readBinFile location) with
    | some text => return .ok text
    | none => return .error .notUtf8
  catch e => return .error (failureOf e)

/-- Runs until the snapshot has all the files asked for. -/
partial def settle (run : Loader → Repl) (snapshot : Snapshot) : IO Repl := do
  let r := run (loaderOf snapshot)
  match wanted snapshot r with
  | [] => return r
  | locations =>
    let found ← locations.mapM fun l => return (l, ← readFile l)
    settle run (found ++ snapshot)

/-- Writes out what a run has printed and forgets it. -/
def emit (r : Repl) : IO Repl := do
  let out ← IO.getStdout
  out.putStr r.state.output
  out.flush
  (← IO.getStderr).putStr r.errors
  return { r with state := { r.state with output := "", log := #[] }, errors := "" }

/-- Reads and runs lines until the loop or the input ends. -/
partial def loop (r : Repl) : IO Unit := do
  if r.finished then return ()
  let input ← IO.getStdin
  if ← input.isTty then
    IO.print "metacirc> "
    (← IO.getStdout).flush
  let line ← input.getLine
  if line.isEmpty then
    let _ ← emit r.close
  else
    let fed ← settle (fun loader => (r.withLoader loader).feedInput line) []
    loop (← emit fed)

end MiniScheme.Main

open MiniScheme in
/-- Runs the command loop on standard input. -/
def main (args : List String) : IO UInt32 := do
  match Repl.Options.initial.ofArguments? args with
  | none =>
    IO.eprintln "usage: [--load FILE]... [--max-depth N]"
    return 2
  | some options =>
    let r ← Main.settle (fun loader => Repl.start loader options) []
    Main.loop (← Main.emit r)
    return 0
