import MiniScheme.Reader.ParseError
import MiniScheme.Value.Printed

/- Errors. An error says what happened; the wording is in the `message`
   functions alone. `Fault` is what evaluation itself can run into, `TypeFault`
   an operand of the wrong type, `LoadFailure` why a source could not be
   opened. -/
namespace MiniScheme

/-- An operation whose exact result may not fit into a number. -/
inductive Arithmetic where
  | addition | subtraction | multiplication | negation | division
  deriving DecidableEq, Repr

def Arithmetic.name : Arithmetic → String
  | addition => "addition"
  | subtraction => "subtraction"
  | multiplication => "multiplication"
  | negation => "negation"
  | division => "division"

/-- What evaluation can run into. -/
inductive Fault where
  /-- Evaluations are nested as deeply as the limit allows. -/
  | depthExceeded (limit : Nat)
  | emptySequence
  /-- A form for one operand got another number of them. -/
  | operandCount (form : String) (got : Nat)
  | notSymbol (form : String) (got : Value)
  | parametersNotList (got : Value)
  | noBody
  | noParameters
  | duplicateParameter (name : String)
  | defineOperands (got : Nat)
  | assignmentOperands (got : Nat)
  | conditionalOperands (got : Nat)
  | clauseNotList (got : Value)
  | clauseEmpty
  | clauseWithoutBody (clause : Value)
  | locationNotNamed (got : Value)
  | emptyEnvironment (name : String)
  /-- A special form was to be registered under the name of a variable. -/
  | tagIsVariable (tag : String)
  | argumentCount (name : String) (arity : Arity) (got : Nat)
  /-- A builtin ran on fewer arguments than its arity demands. -/
  | misapplied (op : Builtin)
  | overflow (operation : Arithmetic)
  | divisionByZero
  | emptyList (op : Builtin)
  | outputFailed (reason : String)
  /-- An error that the program or a host function stated itself. -/
  | stated (text : String)

namespace Fault

def message : Fault → String
  | depthExceeded limit => s!"Evaluation depth limit exceeded (max: {limit})"
  | emptySequence => "Cannot evaluate an empty sequence"
  | operandCount form got => s!"{form} requires exactly 1 operand, got {got}"
  | notSymbol form got => s!"{form} requires a symbol, got {got.display}"
  | parametersNotList got => s!"lambda parameters must be a list, got {got.display}"
  | noBody => "lambda requires a body"
  | noParameters => "lambda requires a parameter list and a body"
  | duplicateParameter name => s!"Duplicate parameter name: {name}"
  | defineOperands got => s!"define requires a name and a value, got {got} operand(s)"
  | assignmentOperands got => s!"set! requires a name and a value, got {got} operand(s)"
  | conditionalOperands got => s!"if requires 2 or 3 operands, got {got}"
  | clauseNotList got => s!"cond clause must be a list, got {got.display}"
  | clauseEmpty => "cond clause cannot be empty"
  | clauseWithoutBody clause => s!"cond clause {clause.display} has no expressions"
  | locationNotNamed got => s!"load requires a string or symbol, got {got.display}"
  | emptyEnvironment name => s!"Cannot define {name} in the empty environment"
  | tagIsVariable tag => s!"Cannot register special form {tag}: name is bound to a variable"
  | argumentCount name arity got =>
    let ending := if got = 1 then "" else "s"
    s!"{name} expects {arity.description} argument(s), got {got} argument{ending}"
  | misapplied .subtract => "- requires at least one operand"
  | misapplied .divide => "/ requires at least two operands"
  | misapplied op => s!"{op.name} requires more operands"
  | overflow operation => s!"Integer overflow in {operation.name}"
  | divisionByZero => "Division by zero"
  | emptyList op => s!"{op.name} of empty list"
  | outputFailed reason => s!"Cannot write output: {reason}"
  | stated text => text

end Fault

/-- An operand of the wrong type. -/
inductive TypeFault where
  | notNumber (name : String) (got : Value)
  | notList (name : String) (got : Value)
  /-- Something was to be put in front of a value that is no list. -/
  | tailNotList
  /-- An error that a host function stated itself. -/
  | stated (text : String)

def TypeFault.message : TypeFault → String
  | notNumber name got => s!"{name} expects numbers, got {got.typeName} {got.display}"
  | notList name got => s!"{name} expects a list, got {got.typeName} {got.display}"
  | tailNotList => "cons requires a list as second argument"
  | stated text => text

/-- Why a source could not be opened. -/
inductive LoadFailure where
  /-- No source in memory has the name. -/
  | unknownSource
  | noSuchFile
  | isDirectory
  | notDirectory
  | nameTooLong
  /-- The name holds a NUL, which no file name may. -/
  | nameWithNul
  | notUtf8
  | other (reason : String)
  deriving DecidableEq, Repr

def LoadFailure.message : LoadFailure → String
  | unknownSource => "no such source"
  | noSuchFile => "No such file or directory (os error 2)"
  | isDirectory => "Is a directory (os error 21)"
  | notDirectory => "Not a directory (os error 20)"
  | nameTooLong => "File name too long (os error 36)"
  | nameWithNul => "file name contained an unexpected NUL byte"
  | notUtf8 => "stream did not contain valid UTF-8"
  | other reason => reason

/-- Why an evaluation or a call of the interpreter ended without a value. -/
inductive Error where
  | parse (e : ParseError)
  | fault (f : Fault)
  | type (f : TypeFault)
  | unbound (name : String)
  /-- A closure was called with another number of arguments than it has parameters. -/
  | arity (expected got : Nat)
  | unknownExpression (expr : Value)
  | unknownProcedure (operator : Value)
  /-- The name is that of a special form. -/
  | duplicateForm (tag : String)
  | misplacedElse (clause : Value)
  | load (location : String) (failure : LoadFailure)
  /-- Special forms restarted evaluation from depth zero too often. -/
  | exhausted

def Error.message : Error → String
  | parse e => s!"ParseError: {e.text}"
  | fault f => s!"EvaluationError: {f.message}"
  | type f => s!"Type error: {f.message}"
  | unbound name => s!"Unbound variable: {name}"
  | arity expected got =>
    let mismatch := if expected < got then "too many" else "too few"
    s!"ArityError: {mismatch} arguments supplied (expected {expected}, got {got})"
  | unknownExpression expr => s!"Unknown expression type: {expr.display}"
  | unknownProcedure operator => s!"Unknown procedure type: {operator.display}"
  | duplicateForm tag => s!"Special form already registered: {tag}"
  | misplacedElse clause => s!"Misplaced else clause in cond: {clause.display}"
  | load location failure => s!"LoadError: {location}: {failure.message}"
  | exhausted => "Evaluation restarted too often"

end MiniScheme
