import MiniScheme.Value.Basic

/- Equality of values: data by structure, primitives by name, closures by
   identity. The unspecified value equals nothing, itself included, so equality
   is an equivalence only on the values without it. -/
namespace MiniScheme.Value

mutual

def equal : Value → Value → Bool
  | number a, number b => a == b
  | symbol a, symbol b => a == b
  | string a, string b => a == b
  | bool a, bool b => a == b
  | list a, list b => equalItems a b
  | primitive a, primitive b => a.name == b.name
  | procedure a _ _ _, procedure b _ _ _ => a == b
  | _, _ => false

def equalItems : List Value → List Value → Bool
  | [], [] => true
  | a :: as, b :: bs => equal a b && equalItems as bs
  | _, _ => false

end

end MiniScheme.Value
