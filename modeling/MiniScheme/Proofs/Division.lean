import Mathlib.Algebra.Ring.Int.Defs
import MiniScheme.Proofs.Operands

/- Division. The first number is divided by the others in turn, each time towards
   zero, and that is one division by their product (`tdiv_tdiv`), which need not
   fit into 64 bits. Two things can go wrong. A divisor may be zero, or the least
   number may be divided by -1. The second can only happen as long as all divisors
   were 1: any other division gives a number above the least one
   (`natAbs_tdiv_le`). So the least number is negated, if at all, by the first
   divisor other than 1 (`NegatesLeast`), and this comes before any division by
   zero. `Divides` says how a computation ends in the three cases. A divisor 1
   changes nothing (`Divides.cons_one`), one other than 0 and 1 goes on with the
   quotient (`Divides.cons`), and a run of divisions follows by induction over the
   divisors (`Divides.accumulate`). Main statement: what calls of `/` come to
   (`division_exact`). -/
namespace MiniScheme.Builtin

/-- Dividing in turn, each time towards zero, is dividing by the product. -/
theorem tdiv_tdiv (a b c : Int) : (a.tdiv b).tdiv c = a.tdiv (b * c) := by
  have naturals (k m n : Nat) : ((k : Int).tdiv m).tdiv n = (k : Int).tdiv (m * n) := by
    rw [← Int.ofNat_tdiv, ← Int.ofNat_tdiv, ← Int.natCast_mul, ← Int.ofNat_tdiv,
      Nat.div_div_eq_div_mul]
  -- the signs can be taken out of every division
  obtain ⟨k, rfl | rfl⟩ := a.eq_nat_or_neg <;> obtain ⟨m, rfl | rfl⟩ := b.eq_nat_or_neg <;>
    obtain ⟨n, rfl | rfl⟩ := c.eq_nat_or_neg <;>
    simp only [Int.neg_tdiv, Int.tdiv_neg, Int.neg_mul, Int.mul_neg, Int.neg_neg, naturals]

/-- The number is the least one, and the first divisor that changes it is -1. -/
def NegatesLeast (a : Int) (bs : List Int) : Prop :=
  a = -9223372036854775808 ∧ bs.find? (· ≠ 1) = some (-1)

instance (a : Int) (bs : List Int) : Decidable (NegatesLeast a bs) :=
  inferInstanceAs (Decidable (_ ∧ _))

theorem negatesLeast_cons {a b : Int} {bs : List Int} :
    NegatesLeast a (b :: bs) ↔
      if b = 1 then NegatesLeast a bs else a = -9223372036854775808 ∧ b = -1 := by
  unfold NegatesLeast
  rw [List.find?_cons]
  by_cases one : b = 1 <;> simp [one]

/-- A divisor other than 1 leaves less of a number than of the least one, unless it negates that
    one. -/
theorem natAbs_tdiv_le {a b : Int} (fits : Number.fits a = true) (one : b ≠ 1)
    (other : ¬ (a = -9223372036854775808 ∧ b = -1)) :
    (a.tdiv b).natAbs ≤ 9223372036854775807 := by
  simp only [Number.fits, Bool.and_eq_true, decide_eq_true_eq] at fits
  by_cases zero : b = 0
  · rw [zero, Int.tdiv_zero]
    decide
  by_cases negated : b = -1
  · have smaller := Int.natAbs_tdiv_le_natAbs a b
    omega
  · have half : a.natAbs / b.natAbs ≤ a.natAbs / 2 := Nat.div_le_div_left (by omega) (by decide)
    rw [Int.natAbs_tdiv]
    show a.natAbs / b.natAbs ≤ _
    omega

theorem divideBy_of_ne_zero {a b : Int64} (zero : b ≠ 0) :
    divideBy a b = checked .division (a.toInt.tdiv b.toInt) :=
  if_neg zero

/-- A computation divides a number by others: it ends with an overflow if the least number is
    negated, else with a division by zero if there is one, and else with the quotient by the
    product, cut off towards zero. -/
structure Divides (r : Except Error Int64) (a : Int) (bs : List Int) : Prop where
  overflow : NegatesLeast a bs → r = .error (.fault (.overflow .division))
  zero : ¬ NegatesLeast a bs → 0 ∈ bs → r = .error (.fault .divisionByZero)
  value : ¬ NegatesLeast a bs → 0 ∉ bs → ∃ q : Int64, q.toInt = a.tdiv bs.prod ∧ r = .ok q

namespace Divides

variable {r : Except Error Int64} {a b : Int} {bs : List Int}

/-- A division by 1 changes nothing. -/
theorem cons_one (h : Divides r a bs) : Divides r a (1 :: bs) := by
  have same : NegatesLeast a (1 :: bs) ↔ NegatesLeast a bs := by
    rw [negatesLeast_cons, if_pos rfl]
  have zero : (0 : Int) ∈ 1 :: bs ↔ (0 : Int) ∈ bs := by simp
  have product : (1 :: bs).prod = bs.prod := by rw [List.prod_cons, Int.one_mul]
  refine ⟨?_, ?_, ?_⟩
  · rw [same]
    exact h.overflow
  · rw [same, zero]
    exact h.zero
  · rw [same, zero, product]
    exact h.value

/-- A division by a number other than 0 and 1 goes on with the quotient, which is not the least
    number. -/
theorem cons (h : Divides r (a.tdiv b) bs) (fits : Number.fits a = true) (zero : b ≠ 0)
    (one : b ≠ 1) (other : ¬ (a = -9223372036854775808 ∧ b = -1)) : Divides r a (b :: bs) := by
  have now : ¬ NegatesLeast a (b :: bs) := by
    rw [negatesLeast_cons, if_neg one]
    exact other
  have later : ¬ NegatesLeast (a.tdiv b) bs := by
    rintro ⟨least, -⟩
    have small := natAbs_tdiv_le fits one other
    omega
  refine ⟨fun negates => absurd negates now, fun _ some? => ?_, fun _ free => ?_⟩
  · exact h.zero later ((List.mem_cons.mp some?).resolve_left zero.symm)
  · obtain ⟨q, same, done⟩ := h.value later fun mem => free (List.mem_cons_of_mem b mem)
    exact ⟨q, by rw [same, tdiv_tdiv, List.prod_cons], done⟩

/-- Numbers that divide another one in turn. -/
theorem accumulate (bs : List Int64) :
    ∀ a : Int64, Divides (accumulate divideBy a bs) a.toInt (bs.map Int64.toInt) := by
  induction bs with
  | nil =>
    intro a
    have quotient : a.toInt = a.toInt.tdiv ([] : List Int).prod := by
      rw [List.prod_nil, Int.tdiv_one]
    exact ⟨nofun, nofun, fun _ _ => ⟨a, quotient, rfl⟩⟩
  | cons b bs ih =>
    intro a
    rw [List.map_cons, Builtin.accumulate]
    by_cases zero : b = 0
    · subst zero
      refine ⟨fun negates => ?_, fun _ _ => rfl, fun _ free => absurd List.mem_cons_self free⟩
      rw [Int64.toInt_zero, negatesLeast_cons, if_neg (by decide)] at negates
      cases negates.2
    have nonzero : b.toInt ≠ 0 := fun same => zero (Int64.toInt_inj.mp same)
    rw [divideBy_of_ne_zero zero]
    by_cases one : b.toInt = 1
    · rw [one, Int.tdiv_one, checked_of_toInt .division rfl]
      exact (ih a).cons_one
    by_cases other : a.toInt = -9223372036854775808 ∧ b.toInt = -1
    · have negates : NegatesLeast a.toInt (b.toInt :: bs.map Int64.toInt) := by
        rw [negatesLeast_cons, if_neg one]
        exact other
      have unfit : Number.fits (a.toInt.tdiv b.toInt) = false := by
        rw [other.1, other.2]
        decide
      rw [checked_of_not_fits .division unfit]
      exact ⟨fun _ => rfl, fun no => absurd negates no, fun no => absurd negates no⟩
    · have small := natAbs_tdiv_le (Number.fits_toInt a) one other
      have fits : Number.fits (a.toInt.tdiv b.toInt) = true := by
        simp only [Number.fits, Bool.and_eq_true, decide_eq_true_eq]
        omega
      have same := Number.toInt_ofInt fits
      have later := ih (Int64.ofInt (a.toInt.tdiv b.toInt))
      rw [same] at later
      rw [checked_of_toInt .division same]
      exact later.cons (Number.fits_toInt a) nonzero one other

theorem overflow_iff (h : Divides r a bs) :
    r = .error (.fault (.overflow .division)) ↔ NegatesLeast a bs := by
  refine ⟨fun failed => Decidable.byContradiction fun no => ?_, h.overflow⟩
  by_cases some? : 0 ∈ bs
  · cases failed.symm.trans (h.zero no some?)
  · obtain ⟨q, -, done⟩ := h.value no some?
    cases failed.symm.trans done

theorem zero_iff (h : Divides r a bs) :
    r = .error (.fault .divisionByZero) ↔ ¬ NegatesLeast a bs ∧ 0 ∈ bs := by
  refine ⟨fun failed => ?_, fun both => h.zero both.1 both.2⟩
  have no : ¬ NegatesLeast a bs := fun negates => by cases failed.symm.trans (h.overflow negates)
  refine ⟨no, Decidable.byContradiction fun free => ?_⟩
  obtain ⟨q, -, done⟩ := h.value no free
  cases failed.symm.trans done

theorem value_iff (h : Divides r a bs) :
    (∃ q : Int64, q.toInt = a.tdiv bs.prod ∧ r = .ok q) ↔ ¬ NegatesLeast a bs ∧ 0 ∉ bs := by
  refine ⟨?_, fun both => h.value both.1 both.2⟩
  rintro ⟨q, -, done⟩
  have no : ¬ NegatesLeast a bs := fun negates => by cases done.symm.trans (h.overflow negates)
  exact ⟨no, fun some? => by cases done.symm.trans (h.zero no some?)⟩

end Divides

theorem divide_calculates {args : List Value} (two : 2 ≤ args.length) :
    Calculates divide args fun ns => (quotient ns).map .number :=
  ⟨decide_eq_true two, rfl, arithmetic_eq divide quotient args⟩

/-- Calls of `/`. An operand that is no number is reported, the first one if there are several.
    Numbers give an overflow exactly if the first one is the least number and the first other
    than 1 of the divisors is -1; else a division by zero exactly if a divisor is zero; and else
    the quotient of the first one by the product of the divisors, cut off towards zero. -/
theorem division_exact {args : List Value} (two : 2 ≤ args.length) :
    (∀ v, stranger? args = some v → divide.Gives args (.error (.type (.notNumber "/" v)))) ∧
    (stranger? args = none → ∃ a bs, integers args = a :: bs ∧
      (divide.Gives args (.error (.fault (.overflow .division))) ↔ NegatesLeast a bs) ∧
      (divide.Gives args (.error (.fault .divisionByZero)) ↔ ¬ NegatesLeast a bs ∧ 0 ∈ bs) ∧
      ((∃ q : Int64, q.toInt = a.tdiv bs.prod ∧ divide.Gives args (.ok (.number q))) ↔
        ¬ NegatesLeast a bs ∧ 0 ∉ bs)) := by
  have calculates := divide_calculates two
  refine ⟨fun v found => calculates.gives_stranger found, fun all => ?_⟩
  cases found : numbers args with
  | nil =>
    rw [← length_numbers all, found] at two
    cases two
  | cons a bs =>
    have divides := Divides.accumulate bs a
    have computed : quotient (numbers args) = Builtin.accumulate divideBy a bs := by
      rw [found, quotient]
    simp only [calculates.gives_iff all, map_number_eq_error_iff, map_number_eq_ok_iff, computed]
    refine ⟨a.toInt, bs.map Int64.toInt, ?_, divides.overflow_iff, divides.zero_iff,
      divides.value_iff⟩
    rw [integers, found, List.map_cons]

/-- The least number is negated behind a divisor 1 and in front of a 0; a 0 in front of a -1; a
    fraction cut off; a product of divisors beyond 64 bits; and an operand that is no number behind
    a 0. -/
theorem division_exact_least :
    let least : Value := .number (-9223372036854775808)
    divide.Gives [least, .number 1, .number (-1), .number 0]
        (.error (.fault (.overflow .division))) ∧
      divide.Gives [least, .number 0, .number (-1)] (.error (.fault .divisionByZero)) ∧
      (∃ q : Int64, q.toInt = -3 ∧ divide.Gives [.number (-7), .number 2] (.ok (.number q))) ∧
      (∃ q : Int64, q.toInt = 0 ∧ divide.Gives [least, least, least] (.ok (.number q))) ∧
      divide.Gives [least, .number 0, .bool true]
        (.error (.type (.notNumber "/" (.bool true)))) := by
  intro least
  refine ⟨?_, ?_, ?_, ?_, ?_⟩
  · have two : 2 ≤ [least, .number 1, .number (-1), .number 0].length := by decide
    obtain ⟨a, bs, same, overflow, -, -⟩ := (division_exact two).2 rfl
    cases same
    exact overflow.mpr (by decide)
  · have two : 2 ≤ [least, .number 0, .number (-1)].length := by decide
    obtain ⟨a, bs, same, -, zero, -⟩ := (division_exact two).2 rfl
    cases same
    exact zero.mpr (by decide)
  · have two : 2 ≤ [Value.number (-7), .number 2].length := by decide
    obtain ⟨a, bs, same, -, -, value⟩ := (division_exact two).2 rfl
    cases same
    obtain ⟨q, quotient, gives⟩ := value.mpr (by decide)
    exact ⟨q, quotient.trans (by decide), gives⟩
  · have two : 2 ≤ [least, least, least].length := by decide
    obtain ⟨a, bs, same, -, -, value⟩ := (division_exact two).2 rfl
    cases same
    obtain ⟨q, quotient, gives⟩ := value.mpr (by decide)
    exact ⟨q, quotient.trans (by decide), gives⟩
  · have two : 2 ≤ [least, .number 0, .bool true].length := by decide
    exact (division_exact two).1 _ rfl

end MiniScheme.Builtin
