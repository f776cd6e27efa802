import MiniScheme.Interp.Basic

/- A stock of host functions and special forms to extend an interpreter with, by
   name. The functions compute from their arguments alone; the forms show what a
   handler can see and do: its operands, its environment, its depth, and
   evaluation one level down or afresh. -/
namespace MiniScheme.Extension

/-- A natural number as a value. -/
def count (n : Nat) : Value := .number (Int64.ofNat n)

/-- The type of the first argument, as a symbol. -/
def typeOfFirst : List Value → Except Error Value
  | v :: _ => .ok (.symbol v.typeName)
  | [] => .error (.type (.stated "type expects an argument"))

/-- Host functions by name. -/
def functions : List (String × (List Value → Except Error Value)) := [
  ("list", fun args => .ok (.list args)),
  ("count", fun args => .ok (count args.length)),
  ("type", typeOfFirst),
  ("fail", fun _ => .error (.fault (.stated "host failure"))),
  ("unspecified", fun _ => .ok .unspecified)]

/-- Gives the first operand as it stands. -/
def firstOperand : Handler := fun _ operands _ _ => return operands.head?.getD .unspecified

def names : Handler := fun _ _ env _ => do
  let bound ← Eval.ask (·.frameNames env)
  return .list (bound.map .symbol)

def frames : Handler := fun _ _ env _ => do
  return count (← Eval.ask (·.depth env))

/-- Evaluates the first operand one level down. -/
def evalFirst : Handler := fun ctx operands env depth =>
  match operands with
  | first :: _ => ctx.eval first env (depth + 1)
  | [] => Eval.fault (.stated "eval-first requires an operand")

/-- Evaluates the first operand one level down, and the result once more. -/
def evalTwice : Handler := fun ctx operands env depth =>
  match operands with
  | first :: _ => do
    let v ← ctx.eval first env (depth + 1)
    ctx.eval v env (depth + 1)
  | [] => Eval.fault (.stated "eval-twice requires an operand")

/-- Evaluates the operands after the first, from depth zero, unless the first is true. -/
def evalUnless : Handler := fun ctx operands env depth =>
  match operands with
  | test :: body => do
    let v ← ctx.eval test env (depth + 1)
    if v.isTrue then return .unspecified else evalSequence ctx.eval env 0 body
  | [] => Eval.fault (.stated "unless requires a test")

/-- Handlers of special forms by name. -/
def handlers : List (String × Handler) := [
  ("seven", fun _ _ _ _ => return .number 7),
  ("depth", fun _ _ _ depth => return count depth),
  ("operands", fun _ operands _ _ => return .list operands),
  ("first-operand", firstOperand),
  ("frames", frames),
  ("names", names),
  ("fail", fun _ _ _ _ => throw (.type (.stated "handler failure"))),
  ("eval-first", evalFirst),
  ("eval-twice", evalTwice),
  ("unless", evalUnless)]

end MiniScheme.Extension
