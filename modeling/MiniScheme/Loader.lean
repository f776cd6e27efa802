import MiniScheme.Directory
import MiniScheme.Eval.Basic
import MiniScheme.Reader.Stream

/- Loaders: where `load` takes its sources from. A loader gives one text, or one
   failure, for each location. -/
namespace MiniScheme

/-- A supply of sources by location. -/
structure Loader where
  origin : Origin
  read : String → Except LoadFailure String

namespace Loader

/-- Sources held in memory; of two with the same name the later one counts. -/
def memory (sources : List (String × String)) : Loader where
  origin := .memory
  read location :=
    match sources.reverse.lookup location with
    | some text => .ok text
    | none => .error .unknownSource

def files (d : Directory) : Loader where
  origin := .fileSystem
  read := d.read

/-- The expressions of the source at a location, up to the first that cannot be read. -/
def items (loader : Loader) (location : String) : Except Error (List (Except Error Value)) :=
  match loader.read location with
  | .ok text => .ok ((Reader.readAll text).map fun item => item.mapError .parse)
  | .error failure => .error (.load location failure)

/-- Opens the source at a location. -/
def fetch (loader : Loader) (location : String) : Eval (List (Except Error Value)) := do
  Eval.note (.opening location loader.origin)
  Eval.ofExcept (loader.items location)

end Loader

end MiniScheme
