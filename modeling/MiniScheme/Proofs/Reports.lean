import MiniScheme.Proofs.Operands

/- What the functions of the builtins report. Behind the check of the argument
   count, a function takes the arguments it works on for granted: `needs` is how
   many, from the first one on. On fewer it runs past their end, whatever they
   are (`value_of_lt_needs`). With all of these there, an error is one that the
   function `Reports` of its arguments (`value_reports`): the arithmetic and the
   comparisons report an operand that is no number, or what the combination of two
   numbers comes to (`accumulate_reports`), and `-` and `/` have a first number to
   begin with (`difference_reports`, `quotient_reports`). So a function runs past
   the end of its arguments exactly if it has fewer than it needs
   (`value_eq_misapplied_iff`). -/
namespace MiniScheme.Builtin

/-- The number of arguments that the function of a builtin takes for granted, from the first on. -/
def needs : Builtin → Nat
  | equal => 2
  | subtract | divide | not | car | cdr | null | display => 1
  | _ => 0

/-- The errors that the function of a builtin finds in the arguments it has, or in writing them. -/
inductive Reports : Builtin → Error → Prop
  | notNumber (op : Builtin) (v : Value) : Reports op (.type (.notNumber op.name v))
  | notList (op : Builtin) (v : Value) : Reports op (.type (.notList op.name v))
  | tailNotList : Reports cons (.type .tailNotList)
  | overflow (op : Builtin) (operation : Arithmetic) : Reports op (.fault (.overflow operation))
  | divisionByZero : Reports divide (.fault .divisionByZero)
  | emptyList {op : Builtin} (takes : op = car ∨ op = cdr) : Reports op (.fault (.emptyList op))
  | outputFailed (op : Builtin) (reason : String) : Reports op (.fault (.outputFailed reason))
  | stated (text : String) : Reports error (.fault (.stated text))

/-- Without an argument it needs, a function runs past their end. -/
theorem value_of_lt_needs {op : Builtin} {args : List Value} (short : args.length < op.needs) :
    op.value args = .error (.fault (.misapplied op)) := by
  cases op with
  | equal =>
    match args, short with
    | [], _ | [_], _ => rfl
  | subtract | divide | not | car | cdr | null | display =>
    obtain rfl : args = [] := List.length_eq_zero_iff.mp (Nat.lt_one_iff.mp short)
    rfl
  | _ => exact absurd short (Nat.not_lt_zero _)

variable {op : Builtin} {args : List Value} {e : Error}

theorem checked_reports {operation : Arithmetic} {x : Int}
    (failed : checked operation x = .error e) : op.Reports e := by
  unfold checked at failed
  split at failed <;> cases failed
  exact .overflow op operation

theorem divideBy_reports {a b : Int64} (failed : divideBy a b = .error e) : divide.Reports e := by
  unfold divideBy at failed
  split at failed
  · cases failed
    exact .divisionByZero
  · exact checked_reports failed

/-- A run of combinations reports what one of them does. -/
theorem accumulate_reports {combine : Int64 → Int64 → Except Error Int64}
    (each : ∀ {a b}, combine a b = .error e → op.Reports e) (ns : List Int64) :
    ∀ start, accumulate combine start ns = .error e → op.Reports e := by
  induction ns with
  | nil => nofun
  | cons n rest ih =>
    intro start failed
    unfold accumulate at failed
    split at failed
    · next now => cases failed; exact each now
    · exact ih _ failed

theorem difference_reports {ns : List Int64} (some? : ns ≠ []) (failed : difference ns = .error e) :
    subtract.Reports e := by
  unfold difference at failed
  split at failed
  · exact absurd rfl some?
  · exact checked_reports failed
  · exact accumulate_reports checked_reports _ _ failed

theorem quotient_reports {ns : List Int64} (some? : ns ≠ []) (failed : quotient ns = .error e) :
    divide.Reports e := by
  unfold quotient at failed
  split at failed
  · exact absurd rfl some?
  · exact accumulate_reports divideBy_reports _ _ failed

/-- A calculation with the operands reports one that is no number, or what it does with as many
    numbers as there are operands. -/
theorem calculation_reports {α : Type} {calculation : List Int64 → Except Error α}
    (each : ∀ {ns}, ns.length = args.length → calculation ns = .error e → op.Reports e)
    (failed : (numbersOf op.name args).bind calculation = .error e) : op.Reports e := by
  rw [numbersOf_eq] at failed
  cases all : stranger? args with
  | some v =>
    rw [all] at failed
    cases failed
    exact .notNumber op v
  | none =>
    rw [all] at failed
    exact each (length_numbers all) failed

theorem arithmetic_reports {compute : List Int64 → Except Error Int64}
    (each : ∀ {ns}, ns.length = args.length → compute ns = .error e → op.Reports e)
    (failed : arithmetic op compute args = .error e) : op.Reports e := by
  rw [arithmetic_eq] at failed
  exact calculation_reports (fun same h => each same (map_number_eq_error_iff.mp h)) failed

theorem comparison_reports {related : Int64 → Int64 → Bool}
    (failed : comparison op related args = .error e) : op.Reports e := by
  rw [comparison_eq] at failed
  exact calculation_reports (fun _ told => by cases told) failed

theorem itemsOf_reports {v : Value} (failed : itemsOf op v = .error e) : op.Reports e := by
  unfold itemsOf at failed
  split at failed <;> cases failed
  exact .notList op v

/-- With the arguments that it needs, a function reports what it finds in them. -/
theorem value_reports (enough : op.needs ≤ args.length) (failed : op.value args = .error e) :
    op.Reports e := by
  have nonempty {ns : List Int64} (one : 1 ≤ args.length) (same : ns.length = args.length) :
      ns ≠ [] := List.ne_nil_of_length_pos (same ▸ one)
  cases op with
  | add | multiply =>
    exact arithmetic_reports (fun _ => accumulate_reports checked_reports _ _) failed
  | subtract =>
    exact arithmetic_reports (fun same => difference_reports (nonempty enough same)) failed
  | divide =>
    exact arithmetic_reports (fun same => quotient_reports (nonempty enough same)) failed
  | numEq | less | greater | lessEq | greaterEq => exact comparison_reports failed
  | list | newline => cases failed
  | error =>
    cases failed
    exact .stated _
  | equal =>
    match args, enough with
    | _ :: _ :: _, _ => cases failed
  | not | null | display =>
    match args, enough with
    | _ :: _, _ => cases failed
  | car | cdr =>
    match args, enough with
    | v :: _, _ =>
      simp only [value] at failed
      split at failed
      · cases failed
      · cases failed
        exact .emptyList (by decide)
      · next wrong =>
        cases failed
        exact itemsOf_reports wrong
  | cons =>
    match args with
    | [] | [_] =>
      cases failed
      exact .tailNotList
    | _ :: tail :: _ =>
      cases tail <;> cases failed
      all_goals exact .tailNotList

/-- A function runs past the end of its arguments exactly if it has fewer than it needs. -/
theorem value_eq_misapplied_iff {other : Builtin} :
    op.value args = .error (.fault (.misapplied other)) ↔ other = op ∧ args.length < op.needs := by
  constructor
  · intro past
    by_cases short : args.length < op.needs
    · rw [value_of_lt_needs short] at past
      cases past
      exact ⟨rfl, short⟩
    · cases value_reports (Nat.le_of_not_lt short) past
  · rintro ⟨rfl, short⟩
    exact value_of_lt_needs short

end MiniScheme.Builtin
