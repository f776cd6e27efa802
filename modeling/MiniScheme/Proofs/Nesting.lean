import MiniScheme.Proofs.Readable

/- The nesting limit. A reader at depth `d` has `maxNesting - d` levels left. With
   fewer levels it refuses some of what it reads with more, and reads the rest in
   the same way. `Restricts low r r'` says so of two readings, where `low` tells
   what is not refused. What is read next keeps it, if what is refused first is
   refused altogether (`Restricts.bind`), so it passes from the items of a list to
   the list (`items_restricts`), and induction on the fewer levels gives that
   exactly the values lower than these are read (`datum_restricts`). Main
   statement: at a greater depth an expression is read exactly if it is read at
   the smaller one and the limit leaves room for its height, and then it is the
   same value with the same text after it (`datum_deeper_iff`). -/
namespace MiniScheme.Reader

/-- The first reading gives what the second one gives, if that is low enough. -/
def Restricts {α : Type} (low : α → Prop) (result result' : Result α) : Prop :=
  ∀ a rest, result = .ok (a, rest) ↔ result' = .ok (a, rest) ∧ low a

namespace Restricts

variable {α β : Type} {low : α → Prop} {fits : β → Prop} {result result' : Result α}

/-- A reading that gives only what is low enough restricts itself. -/
theorem refl (all : ∀ a rest, result = .ok (a, rest) → low a) : Restricts low result result :=
  fun a rest => iff_self_and.mpr (all a rest)

/-- Two readings may go on with what they gave, if what they give then fits only where that was low
    enough. -/
theorem bind (h : Restricts low result result') {f g : α × List Char → Result β}
    (next : ∀ a rest, low a → Restricts fits (f (a, rest)) (g (a, rest)))
    (through : ∀ a rest b rest', g (a, rest) = .ok (b, rest') → fits b → low a) :
    Restricts fits (result.bind f) (result'.bind g) := by
  intro b rest
  constructor
  · intro read
    cases first : result with
    | error failure => rw [first] at read; cases read
    | ok given =>
      obtain ⟨a, after⟩ := given
      obtain ⟨same, here⟩ := (h a after).mp first
      rw [first] at read
      rw [same]
      exact (next a after here b rest).mp read
  · rintro ⟨read, fit⟩
    cases first : result' with
    | error failure => rw [first] at read; cases read
    | ok given =>
      obtain ⟨a, after⟩ := given
      rw [first] at read
      have here := through a after b rest read fit
      rw [(h a after).mpr ⟨first, here⟩]
      exact (next a after here b rest).mpr ⟨read, fit⟩

/-- What is read may be put into something that fits if it is low enough. -/
theorem map (h : Restricts low result result') {f : α → β} (within : ∀ a, fits (f a) ↔ low a) :
    Restricts fits (result.map fun r => (f r.1, r.2)) (result'.map fun r => (f r.1, r.2)) := by
  have wrapped : ∀ r : Result α,
      r.map (fun r => (f r.1, r.2)) = r.bind fun r => .ok (f r.1, r.2) := by
    intro r
    cases r <;> rfl
  rw [wrapped, wrapped]
  refine h.bind (fun a rest here => refl ?_) ?_
  · intro b after same
    cases same
    exact (within a).mpr here
  · intro a rest b after same fit
    cases same
    exact (within a).mp fit

end Restricts

/-- A list is read exactly if none of its items is refused. -/
theorem items_restricts {comments : Bool} {item item' : List Char → Result Value}
    {low : Value → Prop} (each : ∀ input, Restricts low (item input) (item' input)) :
    ∀ bound input, Restricts (fun vs => ∀ v ∈ vs, low v) (items item comments bound input)
      (items item' comments bound input)
  | 0, _ => .refl fun _ _ read => by cases read
  | bound + 1, input => by
    by_cases closed : ∃ rest, skipSpace comments input = ')' :: rest
    · obtain ⟨rest, closed⟩ := closed
      rw [items_of_closed closed, items_of_closed closed]
      refine .refl fun vs _ read => ?_
      cases read
      exact fun _ none => absurd none List.not_mem_nil
    · rw [not_exists] at closed
      rw [items_of_open closed, items_of_open closed]
      refine (each _).bind (fun v rest here => ?_) ?_
      · apply (items_restricts each bound rest).map
        intro vs
        rw [List.forall_mem_cons, and_iff_right here]
      · intro v rest vs rest' read fit
        cases others : items item' comments bound rest with
        | error failure => rw [others] at read; cases read
        | ok given =>
          rw [others] at read
          cases read
          exact fit v List.mem_cons_self

/-- With fewer levels exactly the values are read that are lower than these. -/
theorem datum_restricts (comments : Bool) (levels : Nat) : ∀ {more : Nat}, levels ≤ more →
    ∀ input, Restricts (fun v => v.height < levels) (datum comments levels input)
      (datum comments more input) := by
  induction levels with
  | zero =>
    intro more _ input v rest
    constructor
    · intro read
      cases read
    · rintro ⟨-, low⟩
      exact absurd low (Nat.not_lt_zero _)
  | succ levels ih =>
    rintro (_ | more) fewer input
    · exact absurd fewer (Nat.not_succ_le_zero levels)
    have each := ih (Nat.le_of_succ_le_succ fewer)
    by_cases list : ∃ rest, skipSpace comments input = '(' :: rest
    · obtain ⟨rest, starts⟩ := list
      rw [datum_of_list starts, datum_of_list starts]
      exact (items_restricts each _ rest).map fun _ => Value.height_list_lt_iff
    by_cases quotation : ∃ rest, skipSpace comments input = '\'' :: rest
    · obtain ⟨rest, starts⟩ := quotation
      rw [datum_of_quotation starts, datum_of_quotation starts]
      refine (each rest).map fun v => ?_
      rw [Value.height_quoted]
      omega
    -- what else is read is an atom or a string, whatever the levels
    rw [datum_of_flat rfl (not_exists.mp list) (not_exists.mp quotation) levels more]
    exact .refl fun v rest read => (readable_of_datum comments _ _ _ _ read).2

/-- An expression is read at a depth exactly if it is read at a smaller one and its height does not
    go beyond the limit from there. What is read, and the text after it, are the same. -/
theorem datum_deeper_iff (comments : Bool) {depth deeper : Nat} (order : depth ≤ deeper)
    (input rest : List Char) (v : Value) :
    datum comments (maxNesting - deeper) input = .ok (v, rest) ↔
      datum comments (maxNesting - depth) input = .ok (v, rest) ∧ v.height + deeper ≤ 63 := by
  have fewer : maxNesting - deeper ≤ maxNesting - depth := Nat.sub_le_sub_left order maxNesting
  have room : v.height < maxNesting - deeper ↔ v.height + deeper ≤ 63 := by
    unfold maxNesting
    omega
  rw [← room]
  exact datum_restricts comments _ fewer input v rest

/-- A quotation in a list is two levels high. At depth 61 it is read as in a text of its own, at
    depth 62 no more, where a list in a list is. -/
theorem datum_deeper_iff_quotation :
    0 ≤ 61 ∧ datum true (maxNesting - 61) "('a ;)\n)b".toList =
        .ok (.list [.quoted (.symbol "a")], ['b']) ∧
      0 ≤ 62 ∧ datum true (maxNesting - 62) "('a ;)\n)b".toList ≠
        .ok (.list [.quoted (.symbol "a")], ['b']) ∧
      datum true (maxNesting - 62) "(())".toList = .ok (.list [.list []], []) := by
  have quotation : datum true maxNesting "('a ;)\n)b".toList =
      .ok (.list [.quoted (.symbol "a")], ['b']) := rfl
  have empty : datum true maxNesting "(())".toList = .ok (.list [.list []], []) := rfl
  have shallow : 0 ≤ 61 := by decide
  have deep : 0 ≤ 62 := by decide
  refine ⟨shallow, (datum_deeper_iff true shallow _ _ _).mpr ⟨quotation, by decide⟩, deep, ?_,
    (datum_deeper_iff true deep _ _ _).mpr ⟨empty, by decide⟩⟩
  intro read
  exact absurd ((datum_deeper_iff true deep _ _ _).mp read).2 (by decide)

end MiniScheme.Reader
