import MiniScheme.Builtin.Call
import MiniScheme.Form.Builtin
import MiniScheme.Text.Escaped

/- The interpreter. It dispatches lists headed by the tag of a special form to
   the form's handler, looks variables up, and applies procedures. Every nested
   evaluation is one level deeper than the one around it, and evaluations at the
   depth limit are refused. The recursion is on the levels left up to the limit
   (`evalLevels`), which is all that the builtin forms need; a form that restarts
   evaluation at a depth no deeper than its own uses up a restart
   (`evalRestarts`). -/
namespace MiniScheme

/-- A function supplied from outside and the argument counts it accepts. -/
structure HostFunction where
  arity : Arity
  run : List Value → Except Error Value

/-- An interpreter, apart from the state it works on. -/
structure Interp where
  forms : Registry
  hosts : Array HostFunction
  loader : Loader
  sink : Sink
  /-- Evaluations at this depth are refused. -/
  limit : Nat
  global : Env

namespace Interp

def defaultLimit : Nat := 256

/-- The bindings of a fresh global environment. -/
def initialBindings : List (String × Value) :=
  Builtin.all.map fun op => (op.name, .primitive (.builtin op))

/-- A fresh state: one frame, the global one, with the builtins. -/
def initialState : State where
  store := (Store.empty.push (Frame.ofBindings .empty initialBindings)).2
  output := ""
  log := #[]

/-- A fresh interpreter for `initialState`. -/
def fresh (loader : Loader) (sink : Sink) (limit : Nat) : Interp where
  forms := .builtin
  hosts := #[]
  loader := loader
  sink := sink
  limit := limit
  global := ⟨some 0⟩

/-- The context of a handler, given an evaluator for nested expressions. -/
def context (interp : Interp) (eval : Evaluator) : Context where
  eval := eval
  isForm := interp.forms.contains
  loader := interp.loader

def callPrimitive (interp : Interp) (p : Primitive) (args : List Value) : Eval Value :=
  match p with
  | .builtin op => op.call interp.sink args
  | .host name slot =>
    match interp.hosts[slot]? with
    | some function => do
      Eval.ofExcept (function.arity.check name args.length)
      Eval.ofExcept (function.run args)
    | none => throw (.unknownProcedure (.primitive p))

/-- Applies a procedure to arguments; `eval` evaluates the expressions of a closure's body. -/
def applyWith (interp : Interp) (eval : Evaluator) (operator : Value) (args : List Value)
    (depth : Nat) : Eval Value := do
  Eval.note (.applying operator args.length)
  match operator with
  | .primitive p => interp.callPrimitive p args
  | .procedure _ params body env => do
    let inner ← Eval.extend env params args
    evalSequence eval inner depth body
  | other => throw (.unknownProcedure other)

/-- The special form that an expression is headed by, and its operands. -/
def formOf? (interp : Interp) : Value → Option (Form × List Value)
  | .list (.symbol head :: operands) => (interp.forms.find? head).map (·, operands)
  | _ => none

/-- Evaluates an expression that is not headed by a special form. -/
def evalPlain (interp : Interp) (eval : Evaluator) (expr : Value) (env : Env) (depth : Nat) :
    Eval Value :=
  match expr with
  | .number _ | .string _ | .bool _ | .unspecified => return expr
  | .symbol name =>
    if interp.forms.contains name then do
      Eval.note (.formName name)
      return expr
    else Eval.lookup env name
  | .list (operator :: operands) => do
    let f ← eval operator env (depth + 1)
    let args ← evalOperands eval env (depth + 1) operands
    interp.applyWith eval f args (depth + 1)
  | .list [] | .primitive _ | .procedure .. => throw (.unknownExpression expr)

/-- One level of evaluation; `eval` evaluates the nested expressions. -/
def evalStep (interp : Interp) (eval : Evaluator) : Evaluator := fun expr env depth =>
  if interp.limit ≤ depth then Eval.fault (.depthExceeded interp.limit)
  else
    match interp.formOf? expr with
    | some (form, operands) => do
      Eval.note (.dispatching form.tag)
      form.handler (interp.context eval) operands env depth
    | none => interp.evalPlain eval expr env depth

/-- Evaluation with `levels` levels left up to the limit. An evaluation nested in one at `depth`
    has a level less if it is deeper, and is a restart otherwise. -/
def evalLevels (interp : Interp) (restart : Evaluator) : (levels : Nat) → Evaluator
  | 0 => fun _ _ _ => Eval.fault (.depthExceeded interp.limit)
  | levels + 1 => fun expr env depth =>
    let nested : Evaluator := fun inner scope deeper =>
      if depth < deeper then interp.evalLevels restart levels inner scope deeper
      else restart inner scope deeper
    interp.evalStep nested expr env depth

/-- Evaluation with fewer than `restarts` restarts inside one another. -/
def evalRestarts (interp : Interp) : (restarts : Nat) → Evaluator
  | 0 => fun _ _ _ => throw .exhausted
  | restarts + 1 => fun expr env depth =>
    interp.evalLevels (interp.evalRestarts restarts) (interp.limit - depth) expr env depth

/-- The number of restarts that may be inside one another. -/
def restartAllowance : Nat := 1000000

/-- Evaluates an expression in an environment at a depth. -/
def evalAt (interp : Interp) : Evaluator := interp.evalRestarts (restartAllowance + 1)

def evalIn (interp : Interp) (expr : Value) (env : Env) : Eval Value := interp.evalAt expr env 0

def eval (interp : Interp) (expr : Value) : Eval Value := interp.evalIn expr interp.global

/-- Applies a procedure to arguments. -/
def apply (interp : Interp) (operator : Value) (args : List Value) : Eval Value :=
  interp.applyWith interp.evalAt operator args 0

/-- Evaluates expressions in order in an environment and gives the value of the last. -/
def sequence (interp : Interp) (exprs : List Value) (env : Env) : Eval Value :=
  evalSequence interp.evalAt env 0 exprs

/-- Evaluates operands from left to right in an environment. -/
def operands (interp : Interp) (exprs : List Value) (env : Env) : Eval (List Value) :=
  evalOperands interp.evalAt env 0 exprs

/-- Evaluates the items of a source in the global environment and gives the value of the last,
    `result` if there is none. -/
def evalItems (interp : Interp) (result : Value) : List (Except ParseError Value) → Eval Value
  | [] => return result
  | .error e :: _ => throw (.parse e)
  | .ok expr :: rest => do
    let v ← interp.eval expr
    interp.evalItems v rest

/-- Evaluates the expressions of a text in order in the global environment. -/
def evalText (interp : Interp) (text : String) : Eval Value :=
  interp.evalItems .unspecified (Reader.readAll text)

/-- Registers a special form under a tag that is neither taken nor a global variable. -/
def registerForm (interp : Interp) (tag : String) (handler : Handler) : Eval Interp := do
  if ← Eval.ask (·.isDefined interp.global tag) then
    Eval.fault (.tagIsVariable tag)
  let forms ← interp.forms.register tag handler
  return { interp with forms := forms }

/-- Binds a host function to a global variable whose name is not the tag of a special form. -/
def install (interp : Interp) (name : String) (function : HostFunction) : Eval Interp := do
  if interp.forms.contains name then
    throw (.duplicateForm name)
  Eval.note (.installing name)
  Eval.define interp.global name (.primitive (.host name interp.hosts.size))
  return { interp with hosts := interp.hosts.push function }

/-- An interpreter as diagnostics show it. -/
def debug (interp : Interp) (store : Store) : String :=
  let tags := String.ofList (Text.escapedNames interp.forms.tags)
  let global := store.debug interp.global
  "Interpreter \x7b forms: " ++ tags ++ ", global: " ++ global
    ++ s!", max_depth: {interp.limit}, .. " ++ "\x7d"

end Interp

end MiniScheme
