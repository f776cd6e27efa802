import MiniScheme.Primitive

/- Values. One type serves as the tree that is evaluated and as the result of
   evaluating it: numbers, strings, booleans and the unspecified value stand for
   themselves, a symbol is a variable reference, a non-empty list is a special
   form or a call. A procedure made by `lambda` carries its parameters, its
   body, the environment it closes over and an identity that no other procedure
   has. -/
namespace MiniScheme

/-- An environment: the number of its innermost frame in the store, or none for the empty
    environment. -/
structure Env where
  frame? : Option Nat
  deriving DecidableEq, Repr

def Env.empty : Env := ⟨none⟩

def Env.isEmpty (env : Env) : Bool := env.frame?.isNone

/-- Expressions and the values they evaluate to. -/
inductive Value where
  | number (n : Int64)
  | symbol (name : String)
  | string (text : String)
  | bool (b : Bool)
  /-- A proper list; the empty one is nil. -/
  | list (items : List Value)
  | primitive (p : Primitive)
  /-- A closure. -/
  | procedure (identity : Nat) (params : List String) (body : List Value) (env : Env)
  /-- The value of an expression that has nothing to give. -/
  | unspecified

instance : Inhabited Value := ⟨.unspecified⟩

namespace Value

def nil : Value := list []

/-- The quotation `(quote v)`. -/
def quoted (v : Value) : Value := list [symbol "quote", v]

def isNil : Value → Bool
  | list [] => true
  | _ => false

/-- Only `#f` counts as false. -/
def isTrue : Value → Bool
  | bool false => false
  | _ => true

def isPrimitive : Value → Bool
  | primitive _ => true
  | _ => false

def isUnspecified : Value → Bool
  | unspecified => true
  | _ => false

/-- The name of a value's type in messages. -/
def typeName : Value → String
  | number _ => "number"
  | symbol _ => "symbol"
  | string _ => "string"
  | bool _ => "boolean"
  | list _ => "list"
  | primitive _ | procedure .. => "procedure"
  | unspecified => "unspecified"

end Value

end MiniScheme
