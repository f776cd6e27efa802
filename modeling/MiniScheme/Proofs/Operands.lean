import MiniScheme.Builtin.Call

/- Operands of the builtins that work on numbers, and what calls of them come to.
   The first operand that is no number is `stranger?`; without one, the operands
   are their `numbers`, and `integers` are these without a bound on their size. A
   primitive on numbers looks at all of its operands before it computes, so it
   either reports the stranger or computes with the numbers (`numbersOf_eq`). What
   a call comes to is `Gives`, which leaves no room for output or other effects. A
   builtin that accepts so many operands gives what it computes (`gives_iff`): a
   call that `Calculates` gives an error about the stranger
   (`Calculates.gives_stranger`) or the outcome of its calculation
   (`Calculates.gives_iff`). -/
namespace MiniScheme

/-- The number that a value is. -/
def Value.number? : Value → Option Int64
  | .number n => some n
  | _ => none

namespace Eval

theorem ofExcept_inj {α : Type} {r r' : Except Error α} :
    (ofExcept r : Eval α) = ofExcept r' ↔ r = r' := by
  constructor
  · intro same
    have run := congrFun same ⟨.empty, "", #[]⟩
    cases r <;> cases r' <;> cases run <;> rfl
  · rintro rfl
    rfl

end Eval

namespace Builtin

/-- The first operand that is no number. -/
def stranger? (args : List Value) : Option Value := args.find? fun v => v.number?.isNone

/-- The numbers among the operands. -/
def numbers (args : List Value) : List Int64 := args.filterMap Value.number?

/-- The numbers among the operands, as exact integers. -/
def integers (args : List Value) : List Int := (numbers args).map Int64.toInt

/-- A call on the operands comes to a result: wherever output goes, it ends with this value or
    error and does nothing else. -/
def Gives (op : Builtin) (args : List Value) (result : Except Error Value) : Prop :=
  ∀ sink, op.call sink args = Eval.ofExcept result

theorem stranger?_cons (v : Value) (rest : List Value) :
    stranger? (v :: rest) =
      match v.number? with
      | some _ => stranger? rest
      | none => some v := by
  unfold stranger?
  rw [List.find?_cons]
  cases v.number? <;> rfl

theorem numbers_cons {v : Value} {n : Int64} (known : v.number? = some n) (rest : List Value) :
    numbers (v :: rest) = n :: numbers rest :=
  List.filterMap_cons_some known

theorem numberOf_eq (name : String) (v : Value) :
    numberOf name v =
      match v.number? with
      | some n => .ok n
      | none => .error (.type (.notNumber name v)) := by
  cases v <;> rfl

/-- The operands are taken for numbers, or the first one that is none is reported. -/
theorem numbersOf_eq (name : String) (args : List Value) :
    numbersOf name args =
      match stranger? args with
      | some v => .error (.type (.notNumber name v))
      | none => .ok (numbers args) := by
  induction args with
  | nil => rfl
  | cons v rest ih =>
    rw [numbersOf, numberOf_eq, stranger?_cons, ih]
    cases known : v.number? with
    | none => rfl
    | some n =>
      rw [numbers_cons known]
      cases stranger? rest <;> rfl

/-- If all operands are numbers, there are as many numbers as operands. -/
theorem length_numbers {args : List Value} (all : stranger? args = none) :
    (numbers args).length = args.length := by
  induction args with
  | nil => rfl
  | cons v rest ih =>
    rw [stranger?_cons] at all
    cases known : v.number? with
    | none => rw [known] at all; cases all
    | some n =>
      rw [known] at all
      rw [numbers_cons known, List.length_cons, List.length_cons, ih all]

/-- A builtin that accepts the number of its operands and writes nothing gives what it computes. -/
theorem gives_iff {op : Builtin} {args : List Value} {result : Except Error Value}
    (admitted : op.arity.admits args.length = true) (silent : op.written args = "") :
    op.Gives args result ↔ op.value args = result := by
  have call (sink : Sink) : op.call sink args = Eval.ofExcept (op.value args) := by
    have counted : op.arity.check op.name args.length = .ok () := if_pos admitted
    rw [Builtin.call, counted, silent, Sink.write_empty]
    cases op.value args <;> rfl
  constructor
  · intro gives
    exact Eval.ofExcept_inj.mp ((call .kept).symm.trans (gives .kept))
  · intro same sink
    rw [call, same]

/-- A call is let through to a calculation with the numbers that the operands are. -/
structure Calculates (op : Builtin) (args : List Value)
    (calculation : List Int64 → Except Error Value) : Prop where
  admitted : op.arity.admits args.length = true
  silent : op.written args = ""
  value : op.value args = (numbersOf op.name args).bind calculation

namespace Calculates

variable {op : Builtin} {args : List Value} {calculation : List Int64 → Except Error Value}

/-- The first operand that is no number decides, whatever stands before or after it. -/
theorem gives_stranger (h : Calculates op args calculation) {v : Value}
    (found : stranger? args = some v) : op.Gives args (.error (.type (.notNumber op.name v))) := by
  rw [Builtin.gives_iff h.admitted h.silent, h.value, numbersOf_eq, found]
  rfl

/-- Without such an operand, the calculation decides. -/
theorem gives_iff (h : Calculates op args calculation) (all : stranger? args = none)
    {result : Except Error Value} :
    op.Gives args result ↔ calculation (numbers args) = result := by
  rw [Builtin.gives_iff h.admitted h.silent, h.value, numbersOf_eq, all]
  rfl

end Calculates

theorem arithmetic_eq (op : Builtin) (compute : List Int64 → Except Error Int64)
    (args : List Value) :
    arithmetic op compute args =
      (numbersOf op.name args).bind fun ns => (compute ns).map .number := by
  unfold arithmetic
  cases numbersOf op.name args <;> rfl

theorem comparison_eq (op : Builtin) (related : Int64 → Int64 → Bool) (args : List Value) :
    comparison op related args =
      (numbersOf op.name args).bind fun ns => .ok (.bool (chained related ns)) := by
  unfold comparison
  cases numbersOf op.name args <;> rfl

theorem map_number_eq_ok_iff {r : Except Error Int64} {n : Int64} :
    r.map Value.number = .ok (.number n) ↔ r = .ok n := by
  cases r <;> simp [Except.map]

theorem map_number_eq_error_iff {r : Except Error Int64} {e : Error} :
    r.map Value.number = .error e ↔ r = .error e := by
  cases r <;> simp [Except.map]

end Builtin

end MiniScheme
