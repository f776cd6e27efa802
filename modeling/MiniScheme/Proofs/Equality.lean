import Mathlib.Data.List.Basic
import MiniScheme.Value.Equal

/- Equality of values. What it looks at is the value as it is `seen`: data as they
   stand, a primitive by its name alone and a procedure by its identity. Two
   values are equal exactly if they are seen to be the same and the unspecified
   value, which equals nothing, does not stand inside (`equal_iff`, by induction
   over both trees at once). What is seen still tells whether it stands inside
   (`inside_seen_iff`). So symmetry and transitivity are those of sameness, and
   reflexivity fails exactly on the values with the unspecified one inside. Data
   are seen as they stand, and no other value is seen to be the same
   (`IsData.seen_eq_iff`). Main statement: `equal_partial_equivalence`. -/
namespace MiniScheme.Value

/-- The value `u` is the other one, or an item of it in lists at any depth. -/
inductive Inside (u : Value) : Value → Prop
  | self : Inside u u
  | item {v : Value} {items : List Value} (mem : v ∈ items) (h : Inside u v) :
      Inside u (.list items)

/-- Numbers, symbols, strings, booleans, and lists of data. -/
inductive IsData : Value → Prop
  | number (n : Int64) : IsData (.number n)
  | symbol (name : String) : IsData (.symbol name)
  | string (text : String) : IsData (.string text)
  | bool (b : Bool) : IsData (.bool b)
  | list {items : List Value} (each : ∀ v ∈ items, IsData v) : IsData (.list items)

mutual

/-- The value built again from its parts; a primitive or a procedure stays the one it is. -/
def rebuilt : Value → Value
  | list items => list (rebuiltAll items)
  | v => v

/-- The values of a list, each built again. -/
def rebuiltAll : List Value → List Value
  | [] => []
  | v :: rest => rebuilt v :: rebuiltAll rest

end

mutual

/-- A value as equality looks at it: of a primitive there is the name, and of a procedure the
    identity. -/
def seen : Value → Value
  | list items => list (seenAll items)
  -- one primitive for each name, be it a builtin or not
  | primitive p => primitive (.host p.name 0)
  | procedure identity _ _ _ => procedure identity [] [] .empty
  | v => v

/-- The values of a list as equality looks at them. -/
def seenAll : List Value → List Value
  | [] => []
  | v :: rest => seen v :: seenAll rest

end

mutual

theorem rebuilt_eq : ∀ v : Value, v.rebuilt = v
  | .list items => by rw [rebuilt, rebuiltAll_eq]
  | .number _ | .symbol _ | .string _ | .bool _ | .primitive _ | .procedure .. | .unspecified => rfl

theorem rebuiltAll_eq (vs : List Value) : rebuiltAll vs = vs := by
  cases vs with
  | nil => rfl
  | cons v rest => rw [rebuiltAll, rebuilt_eq v, rebuiltAll_eq rest]

end

/-- What stands inside a list is the list itself or stands inside an item. -/
theorem inside_list_iff {u : Value} {items : List Value} :
    Inside u (.list items) ↔ u = .list items ∨ ∃ v ∈ items, Inside u v := by
  constructor
  · intro h
    cases h with
    | self => exact .inl rfl
    | item mem h => exact .inr ⟨_, mem, h⟩
  · rintro (rfl | ⟨v, mem, h⟩)
    · exact .self
    · exact .item mem h

/-- Nothing else stands inside a value that is no list. -/
theorem inside_iff_of_flat {u v : Value} (flat : ∀ items, v ≠ .list items) :
    Inside u v ↔ u = v := by
  constructor
  · intro h
    cases h with
    | self => rfl
    | item => exact absurd rfl (flat _)
  · rintro rfl
    exact .self

mutual

/-- Values are equal exactly if they are seen to be the same and the unspecified value does not
    stand inside. -/
theorem equal_iff : ∀ a b : Value,
    a.equal b = true ↔ ¬ Inside .unspecified a ∧ a.seen = b.seen
  -- a list is not the unspecified value itself, so only its items count
  | .list as, b => by
    cases b with
    | list bs => simp [equal, seen, equalItems_iff as bs, inside_list_iff]
    | _ => simp [equal, seen]
  | .number _, b | .symbol _, b | .string _, b | .bool _, b | .primitive _, b
  | .procedure .., b | .unspecified, b => by
    cases b <;> simp [equal, seen, inside_iff_of_flat]

theorem equalItems_iff : ∀ as bs : List Value,
    equalItems as bs = true ↔
      (∀ v ∈ as, ¬ Inside .unspecified v) ∧ seenAll as = seenAll bs
  | [], [] => by simp [equalItems]
  | [], b :: bs => by simp [equalItems, seenAll]
  | a :: as, [] => by simp [equalItems, seenAll]
  | a :: as, b :: bs => by
    rw [equalItems, Bool.and_eq_true, equal_iff a b, equalItems_iff as bs, seenAll, seenAll,
      List.forall_mem_cons, List.cons.injEq, and_and_and_comm]

end

mutual

/-- What is seen of a value tells whether the unspecified one stands inside. -/
theorem inside_seen_iff : ∀ v : Value, Inside .unspecified v.seen ↔ Inside .unspecified v
  | .list items => by
    simp only [seen, inside_list_iff, inside_seenAll_iff items, reduceCtorEq, false_or]
  | .primitive _ | .procedure .. => by simp [seen, inside_iff_of_flat]
  | .number _ | .symbol _ | .string _ | .bool _ | .unspecified => Iff.rfl

theorem inside_seenAll_iff (vs : List Value) :
    (∃ v ∈ seenAll vs, Inside .unspecified v) ↔ ∃ v ∈ vs, Inside .unspecified v := by
  cases vs with
  | nil => exact Iff.rfl
  | cons v rest =>
    rw [seenAll, List.exists_mem_cons_iff, List.exists_mem_cons_iff, inside_seen_iff v,
      inside_seenAll_iff rest]

end

/-- Equality looks at both values in the same way. -/
theorem equal_symm {a b : Value} (h : a.equal b = true) : b.equal a = true := by
  obtain ⟨specified, same⟩ := (equal_iff a b).mp h
  rw [← inside_seen_iff, same, inside_seen_iff] at specified
  exact (equal_iff b a).mpr ⟨specified, same.symm⟩

theorem equal_trans {a b c : Value} (h : a.equal b = true) (h' : b.equal c = true) :
    a.equal c = true := by
  obtain ⟨specified, same⟩ := (equal_iff a b).mp h
  obtain ⟨-, same'⟩ := (equal_iff b c).mp h'
  exact (equal_iff a c).mpr ⟨specified, same.trans same'⟩

/-- A value equals itself exactly if the unspecified one does not stand inside. -/
theorem equal_self_iff (v : Value) : v.equal v = true ↔ ¬ Inside .unspecified v := by
  rw [equal_iff, and_iff_left rfl]

/-- The unspecified value does not stand inside data. -/
theorem IsData.specified {v : Value} (h : v.IsData) : ¬ Inside .unspecified v := by
  induction h with
  | list _ ih => simpa [inside_list_iff] using ih
  | _ => simp [inside_iff_of_flat]

/-- Lists are seen to be the same if their items are. -/
theorem seenAll_eq_iff {vs : List Value} (each : ∀ v ∈ vs, ∀ w : Value, v.seen = w.seen ↔ v = w) :
    ∀ ws : List Value, seenAll vs = seenAll ws ↔ vs = ws := by
  induction vs with
  | nil => intro ws; cases ws <;> simp [seenAll]
  | cons v rest ih =>
    intro ws
    obtain ⟨first, others⟩ := List.forall_mem_cons.mp each
    cases ws with
    | nil => simp [seenAll]
    | cons w ws => rw [seenAll, seenAll, List.cons.injEq, List.cons.injEq, first, ih others]

/-- Data are seen as they stand, and no other value is seen to be the same. -/
theorem IsData.seen_eq_iff {v : Value} (h : v.IsData) : ∀ w : Value, v.seen = w.seen ↔ v = w := by
  induction h with
  | list _ ih =>
    intro w
    cases w with
    | list others => rw [seen, seen, list.injEq, list.injEq, seenAll_eq_iff ih]
    | _ => simp [seen]
  | _ => intro w; cases w <;> simp [seen]

/-- Equality of values. It is symmetric and transitive, and a value equals itself, also when it
    is built again, exactly if the unspecified value does not stand inside. Data equal the same
    trees and nothing else. -/
theorem equal_partial_equivalence (a b c : Value) :
    (a.equal b = true ↔ b.equal a = true) ∧
    (a.equal b = true → b.equal c = true → a.equal c = true) ∧
    (a.equal a = true ↔ ¬ Inside .unspecified a) ∧
    (a.equal a.rebuilt = true ↔ ¬ Inside .unspecified a) ∧
    (a.IsData → (a.equal b = true ↔ a = b)) := by
  refine ⟨⟨equal_symm, equal_symm⟩, equal_trans, equal_self_iff a, ?_, fun data => ?_⟩
  · rw [rebuilt_eq]
    exact equal_self_iff a
  · rw [equal_iff, and_iff_right data.specified, data.seen_eq_iff]

/-- Closures of one identity, primitives of one name and data are equal through a third value, in
    lists; a list that holds the unspecified value deep inside does not equal itself; and texts
    that look alike are different trees. -/
theorem equal_partial_equivalence_nested :
    let closure : Value := .procedure 3 ["x"] [.symbol "x"] ⟨some 0⟩
    let car : Value := .primitive (.builtin .car)
    let host : Value := .primitive (.host "car" 5)
    let nested (v : Value) : Value := .list [closure, .list [v, .number 1]]
    (nested car).equal (nested host) = true ∧ (nested host).equal (nested car) = true ∧
      (nested car).equal (nested car) = true ∧
      (nested .unspecified).equal (nested .unspecified).rebuilt = false ∧
      (Value.list [.symbol "a"]).equal (.list [.string "a"]) = false := by
  intro closure car host nested
  have there : (nested car).equal (nested host) = true := by decide
  have back := (equal_partial_equivalence (nested car) (nested host) (nested car)).1.mp there
  refine ⟨there, back, ?_, ?_, ?_⟩
  · exact (equal_partial_equivalence _ _ _).2.1 there back
  · refine Bool.eq_false_iff.mpr fun same => ?_
    exact (equal_partial_equivalence (nested .unspecified) car car).2.2.2.1.mp same
      (.item (v := .list [.unspecified, .number 1]) (by simp) (.item List.mem_cons_self .self))
  · have data : (Value.list [.symbol "a"]).IsData := .list (by simpa using .symbol "a")
    refine Bool.eq_false_iff.mpr fun same => ?_
    cases ((equal_partial_equivalence _ _ car).2.2.2.2 data).mp same

end MiniScheme.Value
