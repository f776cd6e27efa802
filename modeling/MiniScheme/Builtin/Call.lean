import MiniScheme.Builtin.Arithmetic
import MiniScheme.Eval.Basic
import MiniScheme.Value.Equal

/- Calling a builtin: the argument count is checked against its arity, then the
   builtin computes the text it writes and the value it returns. -/
namespace MiniScheme

/-- Where output goes: it is kept, or every text is refused for a reason. -/
inductive Sink where
  | kept
  | refused (reason : String)
  deriving DecidableEq, Repr

/-- Writes a text; the empty text is never refused. -/
def Sink.write (sink : Sink) (text : String) : Eval Unit :=
  match sink with
  | .kept => Eval.write text
  | .refused reason =>
    if text.isEmpty then pure () else Eval.fault (.outputFailed reason)

theorem Sink.write_empty (sink : Sink) : sink.write "" = pure () := by
  cases sink with
  | refused reason => rfl
  | kept =>
    funext st
    show EStateM.Result.ok () { st with output := st.output ++ "" } = _
    rw [String.append_empty]
    rfl

namespace Arity

/-- Refuses an argument count outside the arity of the primitive `name`. -/
def check (arity : Arity) (name : String) (count : Nat) : Except Error Unit :=
  if arity.admits count then .ok ()
  else .error (.fault (.argumentCount name arity count))

end Arity

namespace Builtin

/-- The items that a list operand has; `op` is the primitive that wants them. -/
def itemsOf (op : Builtin) : Value → Except Error (List Value)
  | .list items => .ok items
  | v => .error (.type (.notList op.name v))

def comparison (op : Builtin) (related : Int64 → Int64 → Bool) (args : List Value) :
    Except Error Value :=
  (numbersOf op.name args).map fun ns => .bool (chained related ns)

def arithmetic (op : Builtin) (compute : List Int64 → Except Error Int64) (args : List Value) :
    Except Error Value :=
  match numbersOf op.name args with
  | .ok ns => (compute ns).map .number
  | .error e => .error e

/-- The text of an error that a program states: its parts with spaces between them. -/
def statement (args : List Value) : String :=
  if args.isEmpty then "Error" else " ".intercalate (args.map Value.shown)

/-- The value of a builtin that writes nothing. -/
def value : Builtin → List Value → Except Error Value
  | add, args => arithmetic add sum args
  | subtract, args => arithmetic subtract difference args
  | multiply, args => arithmetic multiply product args
  | divide, args => arithmetic divide quotient args
  | numEq, args => comparison numEq (· == ·) args
  | less, args => comparison less (fun a b => a < b) args
  | greater, args => comparison greater (fun a b => b < a) args
  | lessEq, args => comparison lessEq (fun a b => a ≤ b) args
  | greaterEq, args => comparison greaterEq (fun a b => b ≤ a) args
  | equal, a :: b :: _ => .ok (.bool (a.equal b))
  | not, v :: _ => .ok (.bool !v.isTrue)
  | car, v :: _ =>
    match itemsOf car v with
    | .ok (first :: _) => .ok first
    | .ok [] => .error (.fault (.emptyList car))
    | .error e => .error e
  | cdr, v :: _ =>
    match itemsOf cdr v with
    | .ok (_ :: rest) => .ok (.list rest)
    | .ok [] => .error (.fault (.emptyList cdr))
    | .error e => .error e
  | cons, first :: .list rest :: _ => .ok (.list (first :: rest))
  | cons, _ => .error (.type .tailNotList)
  | list, args => .ok (.list args)
  | null, v :: _ => .ok (.bool v.isNil)
  | error, args => .error (.fault (.stated (statement args)))
  | display, _ :: _ => .ok .unspecified
  | newline, _ => .ok .unspecified
  | op, _ => .error (.fault (.misapplied op))

/-- The text that a builtin writes. -/
def written : Builtin → List Value → String
  | display, v :: _ => v.shown
  | newline, _ => "\n"
  | _, _ => ""

def call (op : Builtin) (sink : Sink) (args : List Value) : Eval Value := do
  Eval.ofExcept (op.arity.check op.name args.length)
  let v ← Eval.ofExcept (op.value args)
  sink.write (op.written args)
  return v

end Builtin

end MiniScheme
