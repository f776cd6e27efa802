import MiniScheme.Repl.Line
import MiniScheme.Repl.Listing
import MiniScheme.Text.Blank

/- The command loop as a function: a line of input takes the loop from one state
   to the next. A line is a command, or any number of expressions that are
   evaluated in order up to the first error. Backspaces are applied before the
   loop takes a line. Everything written to standard output, by the loop and by
   the programs it runs, is in the output of its state; standard error holds the
   errors of the sources loaded at the start. -/
namespace MiniScheme

/-- The command loop between two lines. -/
structure Repl where
  interp : Interp
  state : State
  /-- What was written to standard error. -/
  errors : String
  /-- No more lines are read. -/
  finished : Bool

namespace Repl

/-- What the loop is started with. -/
structure Options where
  /-- Sources to load before the first line. -/
  loads : List String
  limit : Nat
  deriving DecidableEq, Repr

/-- The characters of a number after the plus sign that may stand before them. -/
def withoutPlus : List Char → List Char
  | '+' :: digits => digits
  | digits => digits

/-- The number that a decimal argument stands for. -/
def natArgument? (arg : String) : Option Nat :=
  let digits := withoutPlus arg.toList
  if digits.isEmpty || !digits.all Text.isDigit then none else some (Text.natOfDigits digits)

/-- The options that arguments stand for, on top of given ones. A value is the next argument or
    follows an equals sign. -/
def Options.ofArguments? (options : Options) : List String → Option Options
  | [] => some options
  | "--load" :: file :: rest => ofArguments? { options with loads := options.loads ++ [file] } rest
  | "--max-depth" :: limit :: rest =>
    (natArgument? limit).bind fun n => ofArguments? { options with limit := n } rest
  | arg :: rest =>
    if arg.startsWith "--load=" then
      let file := (arg.drop "--load=".length).toString
      ofArguments? { options with loads := options.loads ++ [file] } rest
    else if arg.startsWith "--max-depth=" then
      (natArgument? (arg.drop "--max-depth=".length).toString).bind fun n =>
        ofArguments? { options with limit := n } rest
    else none

def Options.initial : Options := ⟨[], Interp.defaultLimit⟩

/-- A loop that has read nothing yet. -/
def init (loader : Loader) (limit : Nat) : Repl where
  interp := Interp.fresh loader .kept limit
  state := Interp.initialState
  errors := ""
  finished := false

/-- The loop with another supply of sources. -/
def withLoader (r : Repl) (loader : Loader) : Repl :=
  { r with interp := { r.interp with loader := loader } }

def print (r : Repl) (text : String) : Repl :=
  { r with state := { r.state with output := r.state.output ++ text } }

/-- Loads a source; an error goes to standard error. -/
def loadSource (r : Repl) (location : String) : Repl :=
  match r.interp.eval (.list [.symbol "load", .string location]) r.state with
  | .ok _ state => { r with state := state }
  | .error e state => { r with state := state, errors := r.errors ++ s!"Error: {e.message}\n" }

/-- Evaluates one item of a line and prints its value, unless it is unspecified, or its error; an
    item that cannot be read is an error. Tells whether to go on. -/
def evalItem (r : Repl) (item : Except ParseError Value) : Repl × Bool :=
  let run : Eval Value := do
    let expr ← Eval.ofExcept (item.mapError .parse)
    r.interp.eval expr
  match run r.state with
  | .ok v state =>
    let r := { r with state := state }
    (if v.isUnspecified then r else r.print (v.display ++ "\n"), true)
  | .error e state => ({ r with state := state }.print s!"Error: {e.message}\n", false)

/-- Evaluates the items of a line in order, up to the first error. -/
def evalItems (r : Repl) : List (Except ParseError Value) → Repl
  | [] => r
  | item :: rest =>
    match r.evalItem item with
    | (r, true) => r.evalItems rest
    | (r, false) => r

/-- Prints the farewell and ends the loop. -/
def finish (r : Repl) : Repl := { r.print farewell with finished := true }

/-- Takes one line of input, without its end. -/
def feed (r : Repl) (line : String) : Repl :=
  let line := Text.trim line
  if r.finished || line.isEmpty then r
  else if line = ":help" then r.print help
  else if line = ":env" then r.print (environment r.state.store r.interp.global)
  else if line = ":forms" then r.print (forms r.interp.forms)
  else if line = ":quit" || line = ":exit" then r.finish
  else r.evalItems (Reader.readAll line)

/-- Takes the end of the input. -/
def close (r : Repl) : Repl := if r.finished then r else r.finish

/-- Loads the sources and prints the banner. -/
def start (loader : Loader) (options : Options) : Repl :=
  (options.loads.foldl loadSource (init loader options.limit)).print banner

/-- Takes the lines of an input in order, their backspaces applied. -/
def feedInput (r : Repl) (input : String) : Repl :=
  (lines input.toList).foldl (fun r line => r.feed (String.ofList (typed line))) r

/-- The whole run on a given input. -/
def run (loader : Loader) (options : Options) (input : String) : Repl :=
  ((start loader options).feedInput input).close

end Repl

end MiniScheme
