import Mathlib.Data.List.Chain
import MiniScheme.Proofs.Operands

/- Comparisons. The five builtins look at each operand and the next one only, so
   the numbers have to be a chain (`chained_iff_isChain`). The relations they stand
   for are transitive, so what holds along a chain holds from any number to every
   later one (`chained_iff_pairwise`). A call reports the first operand that is no
   number, whatever the operands before it are, or tells whether the relation
   holds throughout (`Chains.compares`). A chain read backwards is one for the
   converse relation (`Chains.gives_reverse_iff`). Main statement: what calls of
   the five builtins come to (`comparisons_throughout`). -/
namespace MiniScheme.Builtin

theorem chained_iff_isChain (related : Int64 → Int64 → Bool) (ns : List Int64) :
    chained related ns = true ↔ ns.IsChain fun a b => related a b = true := by
  induction ns with
  | nil => simp [chained]
  | cons a rest ih =>
    cases rest with
    | nil => simp [chained]
    | cons b rest => rw [chained, Bool.and_eq_true, ih, List.isChain_cons_cons]

/-- Numbers are a chain of a transitive relation exactly if each is related to all later ones. -/
theorem chained_iff_pairwise {related : Int64 → Int64 → Bool} {R : Int → Int → Prop} [Trans R R R]
    (same : ∀ a b : Int64, related a b = true ↔ R a.toInt b.toInt) (ns : List Int64) :
    chained related ns = true ↔ (ns.map Int64.toInt).Pairwise R := by
  rw [chained_iff_isChain, ← List.isChain_iff_pairwise, List.isChain_map]
  simp only [same]

/-- A comparison of the operands: an operand that is no number is reported, the first one if there
    are several; of numbers it is told whether each of them is related to every later one. -/
structure Compares (op : Builtin) (args : List Value) (R : Int → Int → Prop) [DecidableRel R] :
    Prop where
  stranger : ∀ v, stranger? args = some v → op.Gives args (.error (.type (.notNumber op.name v)))
  numbers : stranger? args = none →
    op.Gives args (.ok (.bool (decide ((integers args).Pairwise R))))

/-- The builtin takes two operands or more and compares each of them with the next. -/
structure Chains (op : Builtin) (related : Int64 → Int64 → Bool) : Prop where
  arity : op.arity = .atLeast 2
  silent : ∀ args, op.written args = ""
  value : ∀ args, op.value args = comparison op related args

namespace Chains

variable {op op' : Builtin} {related related' : Int64 → Int64 → Bool} {args : List Value}

theorem calculates (h : Chains op related) (two : 2 ≤ args.length) :
    Calculates op args fun ns => .ok (.bool (chained related ns)) := by
  refine ⟨?_, h.silent args, ?_⟩
  · rw [h.arity]
    exact decide_eq_true two
  · rw [h.value, comparison_eq]

theorem compares (h : Chains op related) {R : Int → Int → Prop} [DecidableRel R] [Trans R R R]
    (same : ∀ a b : Int64, related a b = true ↔ R a.toInt b.toInt) (two : 2 ≤ args.length) :
    Compares op args R := by
  have calculates := h.calculates two
  have told (ns : List Int64) :
      chained related ns = decide ((ns.map Int64.toInt).Pairwise R) := by
    rw [Bool.eq_iff_iff, decide_eq_true_iff, chained_iff_pairwise same]
  refine ⟨fun v found => calculates.gives_stranger found, fun all => ?_⟩
  rw [calculates.gives_iff all, told]
  rfl

/-- Numbers in reverse are compared as by the converse relation. -/
theorem gives_reverse_iff (h : Chains op related) (h' : Chains op' fun a b => related b a)
    (two : 2 ≤ args.length) (all : stranger? args = none) (result : Except Error Value) :
    op'.Gives args result ↔ op.Gives args.reverse result := by
  have two' : 2 ≤ args.reverse.length := by rwa [List.length_reverse]
  have all' : stranger? args.reverse = none := by simpa [stranger?] using all
  have turned : Builtin.numbers args.reverse = (Builtin.numbers args).reverse :=
    List.filterMap_reverse
  -- neighbours stay neighbours, and each pair of them is turned round
  have same : chained related (Builtin.numbers args).reverse =
      chained (fun a b => related b a) (Builtin.numbers args) := by
    rw [Bool.eq_iff_iff, chained_iff_isChain, chained_iff_isChain, List.isChain_reverse]
  rw [(h.calculates two').gives_iff all', (h'.calculates two).gives_iff all, turned, same]

end Chains

/-- Calls of `=`, `<`, `>`, `<=` and `>=` with two operands or more compare all of them, not only
    neighbours. On numbers, `>` and `>=` say what `<` and `<=` say of the same numbers in
    reverse. -/
theorem comparisons_throughout {args : List Value} (two : 2 ≤ args.length) :
    Compares numEq args (· = ·) ∧ Compares less args (· < ·) ∧ Compares greater args (· > ·) ∧
    Compares lessEq args (· ≤ ·) ∧ Compares greaterEq args (· ≥ ·) ∧
    (stranger? args = none → ∀ result,
      (greater.Gives args result ↔ less.Gives args.reverse result) ∧
      (greaterEq.Gives args result ↔ lessEq.Gives args.reverse result)) := by
  have equals : Chains numEq (· == ·) := ⟨rfl, fun _ => rfl, fun _ => rfl⟩
  have lt : Chains less fun a b => a < b := ⟨rfl, fun _ => rfl, fun _ => rfl⟩
  have gt : Chains greater fun a b => b < a := ⟨rfl, fun _ => rfl, fun _ => rfl⟩
  have le : Chains lessEq fun a b => a ≤ b := ⟨rfl, fun _ => rfl, fun _ => rfl⟩
  have ge : Chains greaterEq fun a b => b ≤ a := ⟨rfl, fun _ => rfl, fun _ => rfl⟩
  refine ⟨equals.compares (fun a b => ?_) two, lt.compares (fun a b => ?_) two,
    gt.compares (fun a b => ?_) two, le.compares (fun a b => ?_) two,
    ge.compares (fun a b => ?_) two, fun all result => ⟨?_, ?_⟩⟩
  · rw [beq_iff_eq, Int64.toInt_inj]
  · rw [decide_eq_true_iff, Int64.lt_iff_toInt_lt]
  · rw [decide_eq_true_iff, Int64.lt_iff_toInt_lt, gt_iff_lt]
  · rw [decide_eq_true_iff, Int64.le_iff_toInt_le]
  · rw [decide_eq_true_iff, Int64.le_iff_toInt_le, ge_iff_le]
  · exact lt.gives_reverse_iff gt two all result
  · exact le.gives_reverse_iff ge two all result

/-- The bounds of the numbers in their order, and turned round; numbers that equal the next but one
    and not the next; equal numbers; and an operand that is no number behind a pair that fails. -/
theorem comparisons_throughout_bounds :
    let least : Value := .number (-9223372036854775808)
    let most : Value := .number 9223372036854775807
    less.Gives [least, .number 0, most] (.ok (.bool true)) ∧
      (greater.Gives [most, .number 0, least] (.ok (.bool true)) ↔
        less.Gives [least, .number 0, most] (.ok (.bool true))) ∧
      numEq.Gives [.number 1, .number 2, .number 1] (.ok (.bool false)) ∧
      greater.Gives [.number 2, .number 2] (.ok (.bool false)) ∧
      lessEq.Gives [most, least, .string "x", .unspecified]
        (.error (.type (.notNumber "<=" (.string "x")))) := by
  intro least most
  have rising : 2 ≤ [least, .number 0, most].length := by decide
  have falling : 2 ≤ [most, .number 0, least].length := by decide
  have alternating : 2 ≤ [Value.number 1, .number 2, .number 1].length := by decide
  have equals : 2 ≤ [Value.number 2, .number 2].length := by decide
  have mixed : 2 ≤ [most, least, .string "x", .unspecified].length := by decide
  refine ⟨?_, ?_, ?_, ?_, ?_⟩
  · exact (comparisons_throughout rising).2.1.numbers rfl
  · exact ((comparisons_throughout falling).2.2.2.2.2 rfl _).1
  · exact (comparisons_throughout alternating).1.numbers rfl
  · exact (comparisons_throughout equals).2.2.1.numbers rfl
  · exact (comparisons_throughout mixed).2.2.2.1.stranger _ rfl

end MiniScheme.Builtin
