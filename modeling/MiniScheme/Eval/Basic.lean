import MiniScheme.Log
import MiniScheme.Store.Basic

/- Evaluations. An evaluation reads and changes a state (the store, the output
   written so far and the log) and ends with a value or an error; an error keeps
   the changes made before it. The operations here are those of the store, the
   output and the log as steps of an evaluation. -/
namespace MiniScheme

/-- What an evaluation changes. -/
structure State where
  store : Store
  output : String
  log : Array LogEvent

/-- A computation on the state that may end with an error. -/
abbrev Eval := EStateM Error State

namespace Eval

/-- The state that a run leaves, whether it ends with a value or an error. -/
def leaves {α : Type} : EStateM.Result Error State α → State
  | .ok _ st => st
  | .error _ st => st

def note (event : LogEvent) : Eval Unit :=
  modify fun st => { st with log := st.log.push event }

def write (text : String) : Eval Unit :=
  modify fun st => { st with output := st.output ++ text }

/-- A question about the store. -/
def ask {α : Type} (question : Store → α) : Eval α := do
  return question (← get).store

/-- Changes the store. -/
@[inline] def change (f : Store → Store) : Eval Unit :=
  modify fun st => { st with store := f st.store }

/-- Changes the store in a way that may be refused. -/
@[inline] def attempt (f : Store → Except Error Store) : Eval Unit := fun st =>
  match f st.store with
  | .ok store => .ok () { st with store := store }
  | .error e => .error e st

/-- The value of a result that is already known. -/
def ofExcept {α : Type} : Except Error α → Eval α
  | .ok a => pure a
  | .error e => throw e

def fault {α : Type} (f : Fault) : Eval α := throw (.fault f)

/-- Logs an event if a computation fails. -/
def noteFailure {α : Type} (event : Error → LogEvent) (x : Eval α) : Eval α := fun st =>
  match x st with
  | .ok a st => .ok a st
  | .error e st => .error e { st with log := st.log.push (event e) }

def lookup (env : Env) (name : String) : Eval Value := do
  match ← ask (·.lookup? env name) with
  | some v => return v
  | none => throw (.unbound name)

/-- Assigns to a variable that is bound. -/
def assign (env : Env) (name : String) (value : Value) : Eval Unit :=
  attempt (·.set env name value)

/-- Binds a variable in the innermost frame. -/
def define (env : Env) (name : String) (value : Value) : Eval Unit :=
  attempt (·.define env name value)

/-- Removes the binding of a variable from the innermost frame and tells whether there was
    one. -/
def unbindLocally (env : Env) (name : String) : Eval Bool := do
  let bound ← ask (·.isLocallyDefined env name)
  change (·.unbindLocally env name)
  return bound

/-- Removes the bindings of a variable from all frames of an environment and tells whether there
    was one. -/
def unbind (env : Env) (name : String) : Eval Bool := do
  let bound ← ask (·.isDefined env name)
  change (·.unbind env name)
  return bound

/-- Adds a frame and gives the environment it starts. -/
def push (f : Frame) : Eval Env := fun st =>
  let (env, store) := st.store.push f
  .ok env { st with store := store }

/-- Adds a frame that binds names to values in front of an environment. -/
def extend (env : Env) (names : List String) (values : List Value) : Eval Env := fun st =>
  match st.store.extend env names values with
  | .ok (inner, store) => .ok inner { st with store := store }
  | .error e => .error e st

/-- Makes a closure with an identity of its own. -/
def newProcedure (params : List String) (body : List Value) (env : Env) : Eval Value := do
  let identity ← ask (·.procedures)
  change fun s => { s with procedures := s.procedures + 1 }
  return .procedure identity params body env

end Eval

end MiniScheme
