import MiniScheme.Interp.Basic

/- Recipes: descriptions of values that are made when they are needed. A recipe
   can hold what no text can be read as: symbols with any name, the unspecified
   value, closures over the empty environment, the value of a variable. -/
namespace MiniScheme

/-- How to make a value. -/
inductive Recipe where
  | number (n : Int64)
  | symbol (name : String)
  | string (text : String)
  | bool (b : Bool)
  | list (items : List Recipe)
  | unspecified
  /-- A new closure over the empty environment. -/
  | procedure (params : List String) (body : List Recipe)
  /-- The expression that a text holds. -/
  | source (text : String)
  /-- The value of a variable in the environment that a handle names. -/
  | valueOf (name : String) (handle : String)

/-- Reads a text that holds one expression, without comments. -/
def readText (text : String) : Eval Value :=
  Eval.ofExcept ((Reader.parse false text.toList).mapError .parse)

namespace Recipe

mutual

/-- Makes the value of a recipe; `resolve` gives the environments that handles name. -/
def build (resolve : String → Env) : Recipe → Eval Value
  | number n => return .number n
  | symbol name => return .symbol name
  | string text => return .string text
  | bool b => return .bool b
  | list items => do
    let vs ← buildAll resolve items
    return .list vs
  | unspecified => return .unspecified
  | procedure params body => do
    let vs ← buildAll resolve body
    Eval.newProcedure params vs .empty
  | source text => readText text
  | valueOf name handle => Eval.lookup (resolve handle) name

/-- Makes the values of recipes from left to right. -/
def buildAll (resolve : String → Env) : List Recipe → Eval (List Value)
  | [] => return []
  | r :: rest => do
    let v ← build resolve r
    let vs ← buildAll resolve rest
    return v :: vs

end

/-- Makes the values of recipes on their own, outside any session. -/
def buildAlone (recipes : List Recipe) : Except Error (List Value) :=
  match buildAll (fun _ => .empty) recipes ⟨.empty, "", #[]⟩ with
  | .ok vs _ => .ok vs
  | .error e _ => .error e

end Recipe

end MiniScheme
