/- Numbers are 64-bit signed integers. `ofInt?` is the one way from an integer to
   a number: it succeeds exactly on the integers that fit
   (`ofInt?_eq_some_iff`), so arithmetic is either exact or refused. -/
namespace MiniScheme.Number

/-- The integer fits into 64 bits with sign. -/
def fits (x : Int) : Bool := -9223372036854775808 ≤ x && x ≤ 9223372036854775807

/-- The number equal to an integer, if it fits. -/
def ofInt? (x : Int) : Option Int64 := if fits x then some (Int64.ofInt x) else none

theorem fits_toInt (n : Int64) : fits n.toInt = true := by
  have lower := Int64.le_toInt n
  have upper := Int64.toInt_lt n
  simp only [fits, Bool.and_eq_true, decide_eq_true_eq]
  omega

theorem fits_of_le {m n : Nat} (le : m ≤ n) (h : fits n = true) : fits m = true := by
  simp only [fits, Bool.and_eq_true, decide_eq_true_eq] at h ⊢
  omega

/-- An integer that fits is kept. -/
theorem toInt_ofInt {x : Int} (h : fits x = true) : (Int64.ofInt x).toInt = x := by
  simp only [fits, Bool.and_eq_true, decide_eq_true_eq] at h
  exact Int64.toInt_ofInt_of_le (by omega) (by omega)

/-- Exactly the number with the given value is given. -/
theorem ofInt?_eq_some_iff {x : Int} {n : Int64} : ofInt? x = some n ↔ n.toInt = x := by
  unfold ofInt?
  constructor
  · intro h
    split at h
    · next hx => cases h; exact toInt_ofInt hx
    · cases h
  · rintro rfl
    rw [if_pos (fits_toInt n), Int64.ofInt_toInt]

/-- Exactly the integers that do not fit are refused. -/
theorem ofInt?_eq_none_iff {x : Int} : ofInt? x = none ↔ fits x = false := by
  unfold ofInt?
  split <;> simp_all

end MiniScheme.Number
