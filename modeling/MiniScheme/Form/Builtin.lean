import MiniScheme.Form.Basic
import MiniScheme.Form.Clause

/- The builtin special forms. Each checks the shape of its operands before it
   evaluates any of them. -/
namespace MiniScheme.Form

/-- The operand of a form that takes one. -/
def singleOperand (form : String) : List Value → Except Error Value
  | [operand] => .ok operand
  | operands => .error (.fault (.operandCount form operands.length))

/-- The operand of a form that takes one is that operand. -/
theorem of_singleOperand {form : String} {operands : List Value} {v : Value}
    (h : singleOperand form operands = .ok v) : v ∈ operands := by
  unfold singleOperand at h
  split at h
  · cases h; simp
  · cases h

/-- The name that the operand of a form is. -/
def nameOperand (form : String) (operands : List Value) : Except Error String :=
  match singleOperand form operands with
  | .ok (.symbol name) => .ok name
  | .ok other => .error (.fault (.notSymbol form other))
  | .error e => .error e

/-- A name that a form may bind: any symbol that is not the tag of a special form. -/
def bindable (isForm : String → Bool) (form : String) : Value → Except Error String
  | .symbol name => if isForm name then .error (.duplicateForm name) else .ok name
  | other => .error (.fault (.notSymbol form other))

/-- A name that may be bound is the operand itself and no tag. -/
theorem of_bindable {isForm : String → Bool} {form : String} {target : Value} {name : String}
    (h : bindable isForm form target = .ok name) :
    target = .symbol name ∧ isForm name = false := by
  unfold bindable at h
  split at h
  · next bound =>
    split at h
    · cases h
    · next free => cases h; exact ⟨rfl, by simpa using free⟩
  · cases h

/-- The names of parameters, which are bindable and distinct; `seen` are those before. -/
def parameterNames (isForm : String → Bool) (seen : List String) :
    List Value → Except Error (List String)
  | [] => .ok seen
  | param :: rest =>
    match bindable isForm "lambda" param with
    | .error e => .error e
    | .ok name =>
      if seen.contains name then .error (.fault (.duplicateParameter name))
      else parameterNames isForm (seen ++ [name]) rest

/-- The names of parameters are the symbols that list them, each once, and none is a tag. -/
theorem of_parameterNames {isForm : String → Bool} :
    ∀ {params : List Value} {seen names : List String},
      parameterNames isForm seen params = .ok names →
      ∃ added, names = seen ++ added ∧ params = added.map .symbol ∧
        (∀ name ∈ added, isForm name = false) ∧ (seen.Nodup → names.Nodup)
  | [], seen, names, h => by
    cases h
    exact ⟨[], by simp, rfl, by simp, id⟩
  | param :: rest, seen, names, h => by
    unfold parameterNames at h
    split at h
    · cases h
    next name bound =>
    split at h
    · cases h
    next new =>
    obtain ⟨rfl, free⟩ := of_bindable bound
    obtain ⟨added, rfl, rfl, others, distinct⟩ := of_parameterNames h
    have fresh : name ∉ seen := by simpa using new
    refine ⟨name :: added, by simp, rfl, List.forall_mem_cons.mpr ⟨free, others⟩, ?_⟩
    intro once
    refine distinct (List.nodup_append.mpr ⟨once, by simp, ?_⟩)
    rintro other known _ last rfl
    exact fresh (List.mem_singleton.mp last ▸ known)

/-- The parameters of a closure from the operand that lists them and the body that follows. -/
def signature (isForm : String → Bool) (params : Value) (body : List Value) :
    Except Error (List String) :=
  match params with
  | .list names =>
    if body.isEmpty then .error (.fault .noBody) else parameterNames isForm [] names
  | other => .error (.fault (.parametersNotList other))

/-- A closure has a body, and its parameters are the symbols that list them, each once, and no
    tags. -/
theorem of_signature {isForm : String → Bool} {params : Value} {body : List Value}
    {names : List String} (h : signature isForm params body = .ok names) :
    params = .list (names.map .symbol) ∧ body ≠ [] ∧ names.Nodup ∧
      ∀ name ∈ names, isForm name = false := by
  unfold signature at h
  split at h
  · split at h
    · cases h
    next some? =>
    obtain ⟨added, rfl, rfl, free, distinct⟩ := of_parameterNames h
    exact ⟨rfl, by simpa using some?, distinct .nil, free⟩
  · cases h

/-- Makes a closure over an environment. -/
def closure (ctx : Context) (params : Value) (body : List Value) (env : Env) : Eval Value := do
  let names ← Eval.ofExcept (signature ctx.isForm params body)
  Eval.newProcedure names body env

/-- Handles `(quote v)`, which gives `v` as it stands. -/
def quote : Handler := fun _ operands _ _ => Eval.ofExcept (singleOperand "quote" operands)

/-- Handles `(define (name param ...) body ...)`, which binds a closure, and
    `(define name expr)`, which binds a value. -/
def define : Handler := fun ctx operands env depth =>
  match operands with
  | .list (target :: params) :: body => do
    let name ← Eval.ofExcept (bindable ctx.isForm "define" target)
    let procedure ← closure ctx (.list params) body env
    Eval.define env name procedure
    return .symbol name
  | [target, expr] => do
    let name ← Eval.ofExcept (bindable ctx.isForm "define" target)
    let v ← ctx.eval expr env (depth + 1)
    Eval.define env name v
    return .symbol name
  | _ => Eval.fault (.defineOperands operands.length)

/-- A definition whose target is no signature evaluates the expression and binds its value. -/
theorem define_value (ctx : Context) {target : Value} (expr : Value) (env : Env) (depth : Nat)
    (plain : ∀ name params, target ≠ .list (name :: params)) :
    define ctx [target, expr] env depth = do
      let name ← Eval.ofExcept (bindable ctx.isForm "define" target)
      let v ← ctx.eval expr env (depth + 1)
      Eval.define env name v
      return .symbol name := by
  unfold define
  split
  · next same => cases same; exact absurd rfl (plain _ _)
  · next same => cases same; rfl
  · next other => exact absurd rfl (other _ _)

/-- Any other operands than these two kinds are refused. -/
theorem define_malformed (ctx : Context) {operands : List Value} (env : Env) (depth : Nat)
    (noSignature : ∀ name params body, operands ≠ .list (name :: params) :: body)
    (notTwo : ∀ target expr, operands ≠ [target, expr]) :
    define ctx operands env depth = Eval.fault (.defineOperands operands.length) := by
  unfold define
  split
  · exact absurd rfl (noSignature _ _ _)
  · exact absurd rfl (notTwo _ _)
  · rfl

/-- Handles `(if test consequent alternative)`; without an alternative a false test gives
    `#f`. -/
def conditionalForm : Handler := fun ctx operands env depth =>
  match operands with
  | [test, consequent] => do
    let v ← ctx.eval test env (depth + 1)
    if v.isTrue then ctx.eval consequent env (depth + 1) else return .bool false
  | [test, consequent, alternative] => do
    let v ← ctx.eval test env (depth + 1)
    if v.isTrue then ctx.eval consequent env (depth + 1)
    else ctx.eval alternative env (depth + 1)
  | _ => Eval.fault (.conditionalOperands operands.length)

/-- Handles `(set! name expr)`, which assigns to a variable that is bound. -/
def assignment : Handler := fun ctx operands env depth =>
  match operands with
  | [target, expr] => do
    let name ← Eval.ofExcept (bindable ctx.isForm "set!" target)
    let v ← ctx.eval expr env (depth + 1)
    Eval.assign env name v
    return .symbol name
  | _ => Eval.fault (.assignmentOperands operands.length)

/-- Handles `(lambda (param ...) body ...)`, which makes a closure. -/
def lambda : Handler := fun ctx operands env _ =>
  match operands with
  | params :: body => closure ctx params body env
  | [] => Eval.fault .noParameters

/-- Handles `(begin expr ...)`, which evaluates expressions in order. -/
def sequence : Handler := fun ctx operands env depth =>
  evalSequence ctx.eval env depth operands

/-- Handles `(cond clause ...)`, which evaluates the nested conditionals that the clauses stand
    for. -/
def cond : Handler := fun ctx operands env depth => do
  let expanded ← Eval.ofExcept (expandClauses operands)
  ctx.eval expanded env (depth + 1)

/-- The location that an operand names. -/
def locationOf : Value → Except Error String
  | .string text => .ok text
  | .symbol name => .ok name
  | other => .error (.fault (.locationNotNamed other))

/-- Evaluates the items of a source in order, `count` of which are done, and gives their number.
    The first error ends the run and is logged. -/
def evalItems (eval : Evaluator) (location : String) (env : Env) (depth : Nat) (count : Nat) :
    List (Except Error Value) → Eval Nat
  | [] => return count
  | item :: rest => do
    let _ ← Eval.noteFailure (.loadStopped location count) do
      let expr ← Eval.ofExcept item
      eval expr env (depth + 1)
    evalItems eval location env depth (count + 1) rest

/-- Handles `(load location)`, which evaluates the expressions of a source in the current
    environment and gives its operand. -/
def load : Handler := fun ctx operands env depth => do
  let operand ← Eval.ofExcept (singleOperand "load" operands)
  let location ← Eval.ofExcept (locationOf operand)
  Eval.note (.loading location)
  let items ← ctx.loader.fetch location
  let count ← evalItems ctx.eval location env depth 0 items
  Eval.note (.loaded count location)
  return operand

/-- Handles `(defined? name)`, which tells whether a variable is bound. -/
def isDefined : Handler := fun _ operands env _ => do
  let name ← Eval.ofExcept (nameOperand "defined?" operands)
  return .bool (← Eval.ask (·.isDefined env name))

/-- Handles `(locally-defined? name)`, which tells whether a variable is bound in the innermost
    frame. -/
def isLocallyDefined : Handler := fun _ operands env _ => do
  let name ← Eval.ofExcept (nameOperand "locally-defined?" operands)
  return .bool (← Eval.ask (·.isLocallyDefined env name))

/-- Handles `(make-unbound! name)`, which removes the bindings of a variable in all frames and
    tells whether there was one. -/
def makeUnbound : Handler := fun _ operands env _ => do
  let name ← Eval.ofExcept (nameOperand "make-unbound!" operands)
  return .bool (← Eval.unbind env name)

/-- Handles `(locally-make-unbound! name)`, which removes the binding of a variable in the
    innermost frame and tells whether there was one. -/
def makeLocallyUnbound : Handler := fun _ operands env _ => do
  let name ← Eval.ofExcept (nameOperand "locally-make-unbound!" operands)
  return .bool (← Eval.unbindLocally env name)

def builtins : List Form := [
  ⟨"quote", quote⟩,
  ⟨"define", define⟩,
  ⟨"if", conditionalForm⟩,
  ⟨"set!", assignment⟩,
  ⟨"lambda", lambda⟩,
  ⟨"begin", sequence⟩,
  ⟨"cond", cond⟩,
  ⟨"load", load⟩,
  ⟨"defined?", isDefined⟩,
  ⟨"locally-defined?", isLocallyDefined⟩,
  ⟨"make-unbound!", makeUnbound⟩,
  ⟨"locally-make-unbound!", makeLocallyUnbound⟩]

end MiniScheme.Form

namespace MiniScheme.Registry

def builtin : Registry := ⟨Form.builtins⟩

end MiniScheme.Registry
