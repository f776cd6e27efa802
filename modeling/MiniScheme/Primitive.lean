import MiniScheme.Arity

/- Primitive procedures by name. A builtin is one of a fixed list; every other
   primitive is a host function, known by the name it was installed under and
   its slot in the interpreter's table of host functions. Two primitives are the
   same procedure when they have the same name. -/
namespace MiniScheme

inductive Builtin where
  | add | subtract | multiply | divide
  | numEq | less | greater | lessEq | greaterEq
  | equal | not
  | car | cdr | cons | list | null
  | error
  | display | newline
  deriving DecidableEq, Repr

namespace Builtin

/-- The variable a builtin is bound to. -/
def name : Builtin → String
  | add => "+"
  | subtract => "-"
  | multiply => "*"
  | divide => "/"
  | numEq => "="
  | less => "<"
  | greater => ">"
  | lessEq => "<="
  | greaterEq => ">="
  | equal => "equal?"
  | not => "not"
  | car => "car"
  | cdr => "cdr"
  | cons => "cons"
  | list => "list"
  | null => "null?"
  | error => "error"
  | display => "display"
  | newline => "newline"

/-- The argument counts a builtin accepts. -/
def arity : Builtin → Arity
  | add | multiply | list | error => .any
  | subtract => .atLeast 1
  | divide | numEq | less | greater | lessEq | greaterEq => .atLeast 2
  | equal | cons => .exactly 2
  | not | car | cdr | null | display => .exactly 1
  | newline => .exactly 0

/-- All builtins, in the order in which a fresh interpreter binds them. -/
def all : List Builtin :=
  [add, subtract, multiply, divide, numEq, less, greater, lessEq, greaterEq, equal, not,
    car, cdr, cons, list, null, error, display, newline]

end Builtin

inductive Primitive where
  | builtin (op : Builtin)
  /-- A host function: its name and its slot in the table of host functions. -/
  | host (name : String) (slot : Nat)
  deriving DecidableEq, Repr

/-- The name a primitive is shown and compared by. -/
def Primitive.name : Primitive → String
  | builtin op => op.name
  | host name _ => name

end MiniScheme
