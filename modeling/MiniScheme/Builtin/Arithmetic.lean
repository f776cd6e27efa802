import MiniScheme.Error
import MiniScheme.Number

/- Arithmetic and comparison on numbers. Every operation works from left to
   right on exact integers and reports the first result that does not fit
   (`checked_of_toInt`, `checked_of_not_fits`). -/
namespace MiniScheme.Builtin

/-- The number equal to an exact result, or overflow in the operation. -/
def checked (operation : Arithmetic) (x : Int) : Except Error Int64 :=
  match Number.ofInt? x with
  | some n => .ok n
  | none => .error (.fault (.overflow operation))

theorem checked_of_toInt (operation : Arithmetic) {x : Int} {n : Int64} (same : n.toInt = x) :
    checked operation x = .ok n := by
  rw [checked, Number.ofInt?_eq_some_iff.mpr same]

theorem checked_of_not_fits (operation : Arithmetic) {x : Int} (unfit : Number.fits x = false) :
    checked operation x = .error (.fault (.overflow operation)) := by
  rw [checked, Number.ofInt?_eq_none_iff.mpr unfit]

/-- The number that an operand is; `name` is the primitive that wants it. -/
def numberOf (name : String) : Value → Except Error Int64
  | .number n => .ok n
  | v => .error (.type (.notNumber name v))

/-- The numbers that the operands are, or the first operand that is none. -/
def numbersOf (name : String) : List Value → Except Error (List Int64)
  | [] => .ok []
  | v :: rest =>
    match numberOf name v with
    | .error e => .error e
    | .ok n =>
      match numbersOf name rest with
      | .error e => .error e
      | .ok ns => .ok (n :: ns)

/-- Combines numbers from left to right, stopping at the first error. -/
def accumulate (combine : Int64 → Int64 → Except Error Int64) :
    Int64 → List Int64 → Except Error Int64
  | result, [] => .ok result
  | result, n :: rest =>
    match combine result n with
    | .error e => .error e
    | .ok result => accumulate combine result rest

def sum (ns : List Int64) : Except Error Int64 :=
  accumulate (fun a b => checked .addition (a.toInt + b.toInt)) 0 ns

def product (ns : List Int64) : Except Error Int64 :=
  accumulate (fun a b => checked .multiplication (a.toInt * b.toInt)) 1 ns

/-- The first number less the others; a single number is negated. -/
def difference : List Int64 → Except Error Int64
  | [] => .error (.fault (.misapplied .subtract))
  | [n] => checked .negation (-n.toInt)
  | n :: rest => accumulate (fun a b => checked .subtraction (a.toInt - b.toInt)) n rest

/-- One division, which drops the fraction. -/
def divideBy (a b : Int64) : Except Error Int64 :=
  if b = 0 then .error (.fault .divisionByZero)
  else checked .division (a.toInt.tdiv b.toInt)

/-- The first number divided by the others in turn. -/
def quotient : List Int64 → Except Error Int64
  | [] => .error (.fault (.misapplied .divide))
  | n :: rest => accumulate divideBy n rest

/-- The relation holds between each number and the next. -/
def chained (related : Int64 → Int64 → Bool) : List Int64 → Bool
  | a :: b :: rest => related a b && chained related (b :: rest)
  | _ => true

end MiniScheme.Builtin
