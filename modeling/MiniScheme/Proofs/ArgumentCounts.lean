import MiniScheme.Interp.Basic
import MiniScheme.Proofs.Reports

/- Argument counts. The arity of a builtin stands in a table, and its function
   relies on the table: it reads arguments by position, and takes the first number
   out of a list, without asking whether they are there. A position is in use
   (`Uses`) if the function, given only the arguments in front of it, runs past
   their end; these are the positions below what the function needs (`uses_iff`),
   and every count that the table accepts is enough (`needs_le_of_admits`). So a
   call that is let through goes on with a function that has its arguments
   (`call_of_admitted`) and reports what it finds in them (`run_reports`), and any
   other call is refused and does nothing (`call_of_refused`). The answers that `-`
   and `/` keep for a lack of operands are `fallbacks`: nothing that a builtin
   reports reads like one of them, apart from `error`, which says what it is told
   (`Reports.message_not_mem`). Main statement: how calls of builtins end that
   count the arguments first (`applyWith_counted`). -/
namespace MiniScheme

/-- A run that fails did so in its first part, or in the rest after a value of the first part. -/
theorem Eval.of_bind_error {α β : Type} {x : Eval α} {f : α → Eval β} {st st' : State} {e : Error}
    (failed : (x >>= f) st = .error e st') :
    x st = .error e st' ∨ ∃ a mid, x st = .ok a mid ∧ f a mid = .error e st' := by
  change EStateM.bind x f st = .error e st' at failed
  unfold EStateM.bind at failed
  split at failed
  · next a mid first => exact .inr ⟨a, mid, first, failed⟩
  · next first => cases failed; exact .inl first

namespace Builtin

/-- What a call of a builtin does once the arguments are counted: its function. -/
def run (op : Builtin) (sink : Sink) (args : List Value) : Eval Value := do
  let v ← Eval.ofExcept (op.value args)
  sink.write (op.written args)
  return v

/-- The function of a builtin uses the argument at a position: it runs past the end of the
    arguments in front of it. -/
def Uses (op : Builtin) (args : List Value) (i : Nat) : Prop :=
  op.value (args.take i) = .error (.fault (.misapplied op))

/-- The answers that `-` and `/` keep for a lack of operands. -/
def fallbacks : List String :=
  ["- requires at least one operand", "/ requires at least two operands"]

example : fallbacks = [subtract, divide].map fun op => Fault.message (.misapplied op) := rfl

/-- How a call of a builtin ends that counts the arguments, in the state `st`, before the function
    of the builtin runs. -/
structure Counted (op : Builtin) (sink : Sink) (args : List Value) (st : State)
    (outcome : EStateM.Result Error State Value) : Prop where
  /-- A count that the arity does not accept is refused: nothing is written and nothing else
      changes. No other call ends like this. -/
  refused : op.arity.admits args.length = false ↔
    outcome = .error (.fault (.argumentCount op.name op.arity args.length)) st
  /-- The function runs on any other count. -/
  runs : op.arity.admits args.length = true → outcome = op.run sink args st
  /-- Where it runs, there is an argument at every position that it uses. -/
  inRange : op.arity.admits args.length = true → ∀ i, op.Uses args i → i < args.length
  /-- No function runs past the end of its arguments, or answers that there are none. -/
  applied : ∀ other st', outcome ≠ .error (.fault (.misapplied other)) st'
  /-- Nothing reads like a fallback, apart from what a program states itself. -/
  message : op ≠ error → ∀ f st', outcome = .error (.fault f) st' → f.message ∉ fallbacks
  /-- Only closures report that they were called with a wrong number of arguments. -/
  noClosure : ∀ expected got st', outcome ≠ .error (.arity expected got) st'

variable {op : Builtin} {args : List Value}

/-- A function uses the first arguments, as many as it needs. -/
theorem uses_iff (enough : op.needs ≤ args.length) {i : Nat} : op.Uses args i ↔ i < op.needs := by
  have cut : (args.take i).length = min i args.length := List.length_take
  rw [Uses, value_eq_misapplied_iff, and_iff_right rfl, cut]
  omega

/-- A count that the arity accepts is what the function needs, or more. -/
theorem needs_le_of_admits {count : Nat} (admitted : op.arity.admits count = true) :
    op.needs ≤ count := by
  cases op with
  | equal | not | car | cdr | null | display =>
    obtain rfl : count = _ := eq_of_beq admitted
    exact Nat.le_refl _
  | subtract => exact of_decide_eq_true admitted
  | divide => exact Nat.le_of_succ_le (of_decide_eq_true admitted)
  | _ => exact Nat.zero_le count

theorem call_of_refused (sink : Sink) (refused : op.arity.admits args.length = false) :
    op.call sink args = throw (.fault (.argumentCount op.name op.arity args.length)) := by
  have counted : op.arity.check op.name args.length =
      .error (.fault (.argumentCount op.name op.arity args.length)) := by
    rw [Arity.check, refused]
    rfl
  rw [call, counted]
  rfl

theorem call_of_admitted (sink : Sink) (admitted : op.arity.admits args.length = true) :
    op.call sink args = op.run sink args := by
  have counted : op.arity.check op.name args.length = .ok () := if_pos admitted
  rw [call, counted]
  rfl

theorem outputFailed_of_write {sink : Sink} {text : String} {st st' : State} {e : Error}
    (failed : sink.write text st = .error e st') : ∃ reason, e = .fault (.outputFailed reason) := by
  cases sink with
  | kept => cases failed
  | refused reason =>
    refine ⟨reason, ?_⟩
    rw [Sink.write] at failed
    by_cases silent : text.isEmpty = true
    · rw [if_pos silent] at failed
      cases failed
    · rw [if_neg silent] at failed
      cases failed
      rfl

/-- With the arguments that it needs, a function reports what it finds in them, or that its text
    could not be written. -/
theorem run_reports {sink : Sink} {st st' : State} {e : Error} (enough : op.needs ≤ args.length)
    (failed : op.run sink args st = .error e st') : op.Reports e := by
  rcases Eval.of_bind_error failed with wrong | ⟨v, mid, -, unwritten⟩
  · cases computed : op.value args with
    | ok v => rw [computed] at wrong; cases wrong
    | error e' =>
      rw [computed] at wrong
      cases wrong
      exact value_reports enough computed
  · rcases Eval.of_bind_error unwritten with refused | ⟨_, _, -, returned⟩
    · obtain ⟨reason, rfl⟩ := outputFailed_of_write refused
      exact .outputFailed op reason
    · cases returned

theorem not_mem_fallbacks (start rest : String)
    (apart : ∀ text ∈ fallbacks, ¬ start.toList <+: text.toList) : start ++ rest ∉ fallbacks := by
  intro mem
  refine apart _ mem ?_
  rw [String.toList_append]
  exact List.prefix_append _ _

theorem Reports.message_not_mem {f : Fault} (h : op.Reports (.fault f)) (other : op ≠ error) :
    f.message ∉ fallbacks := by
  cases h with
  | overflow _ operation => exact not_mem_fallbacks "Integer overflow in " _ (by decide)
  | divisionByZero => decide
  | emptyList takes => rcases takes with rfl | rfl <;> decide
  | outputFailed _ reason => exact not_mem_fallbacks "Cannot write output: " reason (by decide)
  | stated => exact absurd rfl other

/-- A call fails because of the count of its arguments, or with what the function reports. -/
theorem call_reports {sink : Sink} {st st' : State} {e : Error}
    (failed : op.call sink args st = .error e st') :
    e = .fault (.argumentCount op.name op.arity args.length) ∨ op.Reports e := by
  cases admitted : op.arity.admits args.length with
  | false =>
    rw [call_of_refused sink admitted] at failed
    cases failed
    exact .inl rfl
  | true =>
    rw [call_of_admitted sink admitted] at failed
    exact .inr (run_reports (needs_le_of_admits admitted) failed)

theorem argumentCount_not_mem (op : Builtin) (arity : Arity) (count : Nat) :
    (Fault.argumentCount op.name arity count).message ∉ fallbacks := by
  have apart : ∀ text ∈ fallbacks, ¬ (op.name ++ " expects ").toList <+: text.toList := by
    cases op <;> decide
  let rest := arity.description ++ " argument(s), got " ++ toString count ++ " argument" ++
    if count = 1 then "" else "s"
  have opens : (Fault.argumentCount op.name arity count).message =
      op.name ++ " expects " ++ rest := by
    show op.name ++ " expects " ++ arity.description ++ " argument(s), got " ++ toString count ++
      " argument" ++ (if count = 1 then "" else "s") = _
    simp only [rest, String.append_assoc]
  rw [opens]
  exact not_mem_fallbacks _ rest apart

end Builtin

namespace Interp

/-- Calls of builtins count the arguments first, whatever these are and wherever the call stands.
    Before that, only the log notes the call. -/
theorem applyWith_counted (interp : Interp) (eval : Evaluator) (op : Builtin) (args : List Value)
    (depth : Nat) (st : State) :
    let called := { st with log := st.log.push (.applying (.primitive (.builtin op)) args.length) }
    op.Counted interp.sink args called
      (interp.applyWith eval (.primitive (.builtin op)) args depth st) := by
  intro called
  show op.Counted interp.sink args called (op.call interp.sink args called)
  constructor
  case refused =>
    constructor
    · intro refused
      rw [Builtin.call_of_refused interp.sink refused]
      rfl
    · intro failed
      cases admitted : op.arity.admits args.length with
      | false => rfl
      | true =>
        -- a function that has what it needs does not report a count
        rw [Builtin.call_of_admitted interp.sink admitted] at failed
        cases Builtin.run_reports (Builtin.needs_le_of_admits admitted) failed
  case runs =>
    intro admitted
    rw [Builtin.call_of_admitted interp.sink admitted]
  case inRange =>
    intro admitted i used
    have enough := Builtin.needs_le_of_admits admitted
    exact Nat.lt_of_lt_of_le ((Builtin.uses_iff enough).mp used) enough
  case applied =>
    intro other st' failed
    rcases Builtin.call_reports failed with same | reported
    · cases same
    · cases reported
  case message =>
    intro other f st' failed
    rcases Builtin.call_reports failed with same | reported
    · cases same
      exact Builtin.argumentCount_not_mem op op.arity args.length
    · exact reported.message_not_mem other
  case noClosure =>
    intro expected got st' failed
    rcases Builtin.call_reports failed with same | reported
    · cases same
    · cases reported

/-- An argument too many, and nothing is displayed; `-` and `/` without the operands they ask for;
    the positions of two arguments; and a program that states the text of a fallback itself. -/
theorem applyWith_counted_borders :
    let interp := Interp.fresh (.memory []) .kept 8
    let call (op : Builtin) (args : List Value) :=
      interp.apply (.primitive (.builtin op)) args initialState
    let called (op : Builtin) (count : Nat) : State :=
      { initialState with log := #[.applying (.primitive (.builtin op)) count] }
    let text := "- requires at least one operand"
    call .display [.string "a", .string "b"] =
        .error (.fault (.argumentCount "display" (.exactly 1) 2)) (called .display 2) ∧
      call .subtract [] =
        .error (.fault (.argumentCount "-" (.atLeast 1) 0)) (called .subtract 0) ∧
      call .divide [.number 7] =
        .error (.fault (.argumentCount "/" (.atLeast 2) 1)) (called .divide 1) ∧
      (∀ i, Builtin.equal.Uses [.number 7, .bool true] i → i < 2) ∧
      Builtin.equal.Uses [.number 7, .bool true] 1 ∧
      call .error [.string text] = .error (.fault (.stated text)) (called .error 1) := by
  intro interp call called text
  have counted (op : Builtin) (args : List Value) :
      op.Counted interp.sink args (called op args.length) (call op args) :=
    interp.applyWith_counted interp.evalAt op args 0 initialState
  refine ⟨?_, ?_, ?_, ?_, rfl, ?_⟩
  · exact (counted .display [.string "a", .string "b"]).refused.mp rfl
  · exact (counted .subtract []).refused.mp rfl
  · exact (counted .divide [.number 7]).refused.mp rfl
  · exact (counted .equal [.number 7, .bool true]).inRange rfl
  · exact (counted .error [.string text]).runs rfl

end Interp

end MiniScheme
