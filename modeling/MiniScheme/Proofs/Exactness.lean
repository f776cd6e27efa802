import Mathlib.Algebra.Ring.Int.Defs
import MiniScheme.Proofs.Operands

/- Checked arithmetic. Addition, multiplication and subtraction go through their
   operands from left to right and stop at the first result that does not fit into
   64 bits. So what decides is the list of all partial results, on integers of any
   size: if these fit, the result is the exact one, and else it is an overflow
   (`Settles`). One step is settled by its own result (`Settles.checked`), a run of
   steps by the partial results that `List.scanl` lists (`Settles.accumulate`), by
   induction over the numbers still to come. A final result that fits is not
   enough: the greatest number plus 1 minus 1 is an overflow. Main statement: what
   the calls of the three builtins come to (`arithmetic_exact`). -/
namespace MiniScheme.Builtin

/-- All of the integers fit into 64 bits. -/
def AllFit (xs : List Int) : Prop := ∀ x ∈ xs, Number.fits x = true

instance (xs : List Int) : Decidable (AllFit xs) :=
  inferInstanceAs (Decidable (∀ x ∈ xs, Number.fits x = true))

/-- A computation is exact or overflows: it ends with the exact result if all partial results fit,
    and with an overflow of the operation otherwise. -/
structure Settles (r : Except Error Int64) (operation : Arithmetic) (partials : List Int)
    (exact : Int) : Prop where
  value : AllFit partials → ∃ n : Int64, n.toInt = exact ∧ r = .ok n
  overflow : ¬ AllFit partials → r = .error (.fault (.overflow operation))

namespace Settles

variable {r : Except Error Int64} {operation : Arithmetic} {partials : List Int} {exact : Int}

theorem checked (operation : Arithmetic) (x : Int) :
    Settles (checked operation x) operation [x] x := by
  have only : AllFit [x] ↔ Number.fits x = true := List.forall_mem_singleton
  refine ⟨fun fit => ?_, fun unfit => ?_⟩
  · have same := Number.toInt_ofInt (only.mp fit)
    exact ⟨Int64.ofInt x, same, checked_of_toInt operation same⟩
  · exact checked_of_not_fits operation (Bool.eq_false_iff.mpr (mt only.mpr unfit))

/-- A partial result that is a number decides nothing. -/
theorem cons (h : Settles r operation partials exact) (n : Int64) :
    Settles r operation (n.toInt :: partials) exact := by
  have same : AllFit (n.toInt :: partials) ↔ AllFit partials :=
    List.forall_mem_cons.trans (and_iff_right (Number.fits_toInt n))
  exact ⟨fun fit => h.value (same.mp fit), fun unfit => h.overflow (mt same.mpr unfit)⟩

/-- Numbers that are combined in turn, with a check at each step, are settled by the partial
    results. -/
theorem accumulate (operation : Arithmetic) (f : Int → Int → Int) (ns : List Int64) :
    ∀ start : Int64,
      Settles (accumulate (fun a b => Builtin.checked operation (f a.toInt b.toInt)) start ns)
        operation ((ns.map Int64.toInt).scanl f start.toInt)
        ((ns.map Int64.toInt).foldl f start.toInt) := by
  induction ns with
  | nil =>
    intro start
    have fit : AllFit [start.toInt] := List.forall_mem_singleton.mpr (Number.fits_toInt start)
    rw [List.map_nil, List.scanl_nil, List.foldl_nil]
    exact ⟨fun _ => ⟨start, rfl, rfl⟩, fun unfit => absurd fit unfit⟩
  | cons n rest ih =>
    intro start
    rw [List.map_cons, List.scanl_cons, List.foldl_cons, Builtin.accumulate]
    cases fits : Number.fits (f start.toInt n.toInt) with
    | true =>
      have same := Number.toInt_ofInt fits
      have later := ih (Int64.ofInt (f start.toInt n.toInt))
      rw [same] at later
      rw [checked_of_toInt operation same]
      exact later.cons start
    | false =>
      -- the first result that does not fit is among the partial results
      have first : f start.toInt n.toInt ∈ start.toInt ::
          (rest.map Int64.toInt).scanl f (f start.toInt n.toInt) :=
        List.mem_cons_of_mem _ (List.mem_of_mem_head? List.head?_scanl)
      rw [checked_of_not_fits operation fits]
      exact ⟨fun fit => absurd (fit _ first) (Bool.eq_false_iff.mp fits), fun _ => rfl⟩

end Settles

theorem sum_settles (ns : List Int64) :
    Settles (sum ns) .addition ((ns.map Int64.toInt).scanl (· + ·) 0)
      (ns.map Int64.toInt).sum := by
  have h := Settles.accumulate .addition (· + ·) ns 0
  rw [Int64.toInt_zero, ← List.sum_eq_foldl] at h
  exact h

theorem product_settles (ns : List Int64) :
    Settles (product ns) .multiplication ((ns.map Int64.toInt).scanl (· * ·) 1)
      (ns.map Int64.toInt).prod := by
  have h := Settles.accumulate .multiplication (· * ·) ns 1
  rw [Int64.toInt_one, ← List.prod_eq_foldl] at h
  exact h

/-- Subtracting numbers in turn is subtracting their sum. -/
theorem foldl_sub (x : Int) (xs : List Int) : xs.foldl (· - ·) x = x - xs.sum := by
  induction xs generalizing x with
  | nil => rw [List.foldl_nil, List.sum_nil, Int.sub_zero]
  | cons y rest ih =>
    rw [List.foldl_cons, ih, List.sum_cons]
    omega

theorem difference_settles (m n : Int64) (rest : List Int64) :
    Settles (difference (m :: n :: rest)) .subtraction
      (((n :: rest).map Int64.toInt).scanl (· - ·) m.toInt)
      (m.toInt - ((n :: rest).map Int64.toInt).sum) := by
  rw [← foldl_sub]
  exact Settles.accumulate .subtraction (· - ·) (n :: rest) m

/-- A call is exact or overflows: it gives the exact result exactly if all partial results fit, and
    an overflow of the operation exactly if not. -/
structure ExactOrOverflow (op : Builtin) (args : List Value) (operation : Arithmetic)
    (partials : List Int) (exact : Int) : Prop where
  value : (∃ n : Int64, n.toInt = exact ∧ op.Gives args (.ok (.number n))) ↔ AllFit partials
  overflow : op.Gives args (.error (.fault (.overflow operation))) ↔ ¬ AllFit partials

/-- A call is exact or overflows as its computation does. -/
theorem Settles.call {op : Builtin} {compute : List Int64 → Except Error Int64} {args : List Value}
    {operation : Arithmetic} {partials : List Int} {exact : Int}
    (h : Settles (compute (numbers args)) operation partials exact)
    (calculates : Calculates op args fun ns => (compute ns).map .number)
    (all : stranger? args = none) : ExactOrOverflow op args operation partials exact := by
  constructor
  · simp only [calculates.gives_iff all, map_number_eq_ok_iff]
    constructor
    · rintro ⟨n, -, given⟩
      refine Decidable.byContradiction fun unfit => ?_
      rw [h.overflow unfit] at given
      cases given
    · exact h.value
  · rw [calculates.gives_iff all, map_number_eq_error_iff]
    constructor
    · intro given fit
      obtain ⟨n, -, done⟩ := h.value fit
      rw [done] at given
      cases given
    · exact h.overflow

theorem add_calculates (args : List Value) :
    Calculates add args fun ns => (sum ns).map .number :=
  ⟨rfl, rfl, arithmetic_eq add sum args⟩

theorem multiply_calculates (args : List Value) :
    Calculates multiply args fun ns => (product ns).map .number :=
  ⟨rfl, rfl, arithmetic_eq multiply product args⟩

theorem subtract_calculates {args : List Value} (some? : args ≠ []) :
    Calculates subtract args fun ns => (difference ns).map .number :=
  ⟨decide_eq_true (List.length_pos_iff.mpr some?), rfl, arithmetic_eq subtract difference args⟩

theorem ne_nil_of_stranger {args : List Value} {v : Value} (found : stranger? args = some v) :
    args ≠ [] := by
  rintro rfl
  cases found

theorem ne_nil_of_numbers {args : List Value} {n : Int64} {ns : List Int64}
    (found : numbers args = n :: ns) : args ≠ [] := by
  rintro rfl
  cases found

/-- A number is negated where it can be subtracted from zero, and with the same result. -/
theorem negated_iff_subtracted (x v : Value) :
    subtract.Gives [x] (.ok v) ↔ subtract.Gives [.number 0, x] (.ok v) := by
  rw [gives_iff rfl rfl, gives_iff rfl rfl]
  cases x with
  | number n =>
    have exact : (0 : Int64).toInt - n.toInt = -n.toInt := by
      rw [Int64.toInt_zero, Int.zero_sub]
    have negated : value subtract [.number n] = (checked .negation (-n.toInt)).map .number := rfl
    have subtracted : value subtract [.number 0, .number n] =
        (accumulate (fun a b => checked .subtraction (a.toInt - b.toInt)) 0 [n]).map .number := rfl
    rw [negated, subtracted, accumulate, exact]
    cases fits : Number.fits (-n.toInt) with
    | true =>
      have same := Number.toInt_ofInt fits
      rw [checked_of_toInt .negation same, checked_of_toInt .subtraction same]
      rfl
    | false =>
      rw [checked_of_not_fits .negation fits, checked_of_not_fits .subtraction fits]
      exact ⟨nofun, nofun⟩
  | _ => exact ⟨nofun, nofun⟩

/-- Calls of `+`, `*` and `-`. An operand that is no number is reported, the first one if there
    are several, whatever comes before it. Numbers give the exact sum, product or difference if
    every partial result fits into 64 bits, and an overflow if one does not. -/
theorem arithmetic_exact (args : List Value) :
    (∀ v, stranger? args = some v → ∀ op ∈ [add, subtract, multiply],
      op.Gives args (.error (.type (.notNumber op.name v)))) ∧
    (stranger? args = none →
      ExactOrOverflow add args .addition ((integers args).scanl (· + ·) 0) (integers args).sum ∧
      ExactOrOverflow multiply args .multiplication ((integers args).scanl (· * ·) 1)
        (integers args).prod ∧
      (∀ x, integers args = [x] → ExactOrOverflow subtract args .negation [-x] (-x)) ∧
      ∀ x y rest, integers args = x :: y :: rest →
        ExactOrOverflow subtract args .subtraction ((y :: rest).scanl (· - ·) x)
          (x - (y :: rest).sum)) ∧
    ∀ x v : Value, subtract.Gives [x] (.ok v) ↔ subtract.Gives [.number 0, x] (.ok v) := by
  refine ⟨fun v found op hop => ?_, fun all => ⟨?_, ?_, ?_, ?_⟩, negated_iff_subtracted⟩
  · rcases List.mem_cons.mp hop with rfl | hop
    · exact (add_calculates args).gives_stranger found
    rcases List.mem_cons.mp hop with rfl | hop
    · exact (subtract_calculates (ne_nil_of_stranger found)).gives_stranger found
    · rw [List.mem_singleton.mp hop]
      exact (multiply_calculates args).gives_stranger found
  · exact (sum_settles _).call (add_calculates args) all
  · exact (product_settles _).call (multiply_calculates args) all
  · intro x single
    obtain ⟨n, found, rfl⟩ := List.map_eq_singleton_iff.mp single
    have settled : Settles (difference (numbers args)) .negation [-n.toInt] (-n.toInt) := by
      rw [found]
      exact .checked .negation (-n.toInt)
    exact settled.call (subtract_calculates (ne_nil_of_numbers found)) all
  · intro x y rest several
    obtain ⟨m, ms, found, rfl, others⟩ := List.map_eq_cons_iff.mp several
    obtain ⟨n, ns, rfl, rfl, rfl⟩ := List.map_eq_cons_iff.mp others
    have settled := difference_settles m n ns
    rw [← found] at settled
    exact settled.call (subtract_calculates (ne_nil_of_numbers found)) all

/-- Overflows of each operation, though the results of the whole would fit; a difference that is
    the least number; and an operand that is no number behind an overflow. -/
theorem arithmetic_exact_bounds :
    let most : Value := .number 9223372036854775807
    add.Gives [most, .number 1, .number (-1)] (.error (.fault (.overflow .addition))) ∧
      multiply.Gives [most, .number 2, .number 0] (.error (.fault (.overflow .multiplication))) ∧
      subtract.Gives [.number (-9223372036854775808)] (.error (.fault (.overflow .negation))) ∧
      (∃ n : Int64, n.toInt = -9223372036854775808 ∧
        subtract.Gives [.number (-1), most] (.ok (.number n))) ∧
      add.Gives [most, .number 1, .bool true]
        (.error (.type (.notNumber "+" (.bool true)))) := by
  intro most
  have sum := ((arithmetic_exact [most, .number 1, .number (-1)]).2.1 rfl).1
  have product := ((arithmetic_exact [most, .number 2, .number 0]).2.1 rfl).2.1
  have negation := ((arithmetic_exact [.number (-9223372036854775808)]).2.1 rfl).2.2.1
  have difference := ((arithmetic_exact [.number (-1), most]).2.1 rfl).2.2.2
  refine ⟨sum.overflow.mpr (by decide), product.overflow.mpr (by decide), ?_, ?_, ?_⟩
  · exact (negation _ rfl).overflow.mpr (by decide)
  · exact (difference _ _ _ rfl).value.mpr (by decide)
  · exact (arithmetic_exact [most, .number 1, .bool true]).1 _ rfl add (by decide)

end MiniScheme.Builtin
