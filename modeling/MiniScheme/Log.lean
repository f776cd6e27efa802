import MiniScheme.Error

/- The log: what an interpreter reports about its own work, as events. Each
   event has a level and a text. -/
namespace MiniScheme

/-- How much an event matters. -/
inductive LogLevel where
  | trace | debug | info | warn
  deriving DecidableEq, Repr

def LogLevel.name : LogLevel → String
  | trace => "TRACE"
  | debug => "DEBUG"
  | info => "INFO"
  | warn => "WARN"

/-- Where a loader takes its sources from. -/
inductive Origin where
  | memory
  | fileSystem
  deriving DecidableEq, Repr

def Origin.name : Origin → String
  | memory => "memory"
  | fileSystem => "the file system"

/-- Something an interpreter did. -/
inductive LogEvent where
  /-- A list headed by the tag of a special form goes to its handler. -/
  | dispatching (tag : String)
  /-- A symbol that is the tag of a special form stands for itself. -/
  | formName (name : String)
  | applying (operator : Value) (arguments : Nat)
  | loading (location : String)
  | opening (location : String) (origin : Origin)
  /-- A load ended with an error after `count` expressions. -/
  | loadStopped (location : String) (count : Nat) (error : Error)
  | loaded (count : Nat) (location : String)
  | registering (tag : String)
  | installing (name : String)

namespace LogEvent

def level : LogEvent → LogLevel
  | dispatching _ | applying .. => .trace
  | formName _ => .info
  | loadStopped .. => .warn
  | loading _ | opening .. | loaded .. | registering _ | installing _ => .debug

def text : LogEvent → String
  | dispatching tag => s!"dispatching special form {tag}"
  | formName name => s!"{name} is a special form"
  | applying operator arguments => s!"applying {operator.display} to {arguments} argument(s)"
  | loading location => s!"loading {location}"
  | opening location origin => s!"loading {location} from {origin.name}"
  | loadStopped location count error =>
    s!"load of {location} stopped after {count} expression(s): {error.message}"
  | loaded count location => s!"loaded {count} expression(s) from {location}"
  | registering tag => s!"registering special form {tag}"
  | installing name => s!"installing primitive {name}"

/-- An event as one record of the log. -/
def record (e : LogEvent) : String := s!"{e.level.name} {e.text}"

end LogEvent

end MiniScheme
