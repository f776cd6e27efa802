import MiniScheme.Store.Basic

/- The procedures inside a value, and those that a store holds. They are found in
   lists at any depth and in the bodies of other procedures; atoms and primitives
   have none. The names of a procedure are its parameters and what stands in its
   body, so they are among the names of every value that it is inside of
   (`names_of_mem_closures`). -/
namespace MiniScheme

/-- A procedure on its own. -/
structure Closure where
  identity : Nat
  params : List String
  body : List Value
  env : Env

namespace Value

mutual

/-- The procedures inside a value, at any depth. -/
def closures : Value → List Closure
  | list items => closuresAll items
  | procedure identity params body env => ⟨identity, params, body, env⟩ :: closuresAll body
  | number _ | symbol _ | string _ | bool _ | primitive _ | unspecified => []

/-- The procedures inside the values of a list. -/
def closuresAll : List Value → List Closure
  | [] => []
  | v :: rest => closures v ++ closuresAll rest

end

mutual

/-- The names in a value: its symbols, and the parameters of the procedures inside it. -/
def names : Value → List String
  | symbol name => [name]
  | list items => namesAll items
  | procedure _ params body _ => params ++ namesAll body
  | number _ | string _ | bool _ | primitive _ | unspecified => []

/-- The names in the values of a list. -/
def namesAll : List Value → List String
  | [] => []
  | v :: rest => names v ++ namesAll rest

end

theorem mem_closuresAll {vs : List Value} {p : Closure} :
    p ∈ closuresAll vs ↔ ∃ v ∈ vs, p ∈ v.closures := by
  induction vs with
  | nil => simp [closuresAll]
  | cons v rest ih => simp [closuresAll, ih]

/-- The procedures inside a list are those inside its items. -/
theorem mem_closures_list {items : List Value} {p : Closure} :
    p ∈ (list items).closures ↔ ∃ v ∈ items, p ∈ v.closures := by
  rw [closures]
  exact mem_closuresAll

theorem mem_namesAll {vs : List Value} {name : String} :
    name ∈ namesAll vs ↔ ∃ v ∈ vs, name ∈ v.names := by
  induction vs with
  | nil => simp [namesAll]
  | cons v rest ih => simp [namesAll, ih]

end Value

/-- The parameters of a procedure and the names in its body. -/
def Closure.names (p : Closure) : List String := p.params ++ Value.namesAll p.body

namespace Value

mutual

/-- The names of a procedure are names in every value that it is inside of. -/
theorem names_of_mem_closures {p : Closure} {name : String} (named : name ∈ p.names) :
    ∀ {v : Value}, p ∈ v.closures → name ∈ v.names
  | list items, h => by
    rw [closures] at h
    rw [names]
    exact namesAll_of_mem_closuresAll named h
  | procedure identity params body env, h => by
    rw [closures] at h
    rw [names]
    rcases List.mem_cons.mp h with rfl | inside
    · exact named
    · exact List.mem_append_right _ (namesAll_of_mem_closuresAll named inside)
  | number _, h | symbol _, h | string _, h | bool _, h | primitive _, h | unspecified, h => by
    cases h

theorem namesAll_of_mem_closuresAll {p : Closure} {name : String} (named : name ∈ p.names) :
    ∀ {vs : List Value}, p ∈ closuresAll vs → name ∈ namesAll vs
  | [], h => by cases h
  | v :: rest, h => by
    rw [closuresAll] at h
    rw [namesAll]
    rcases List.mem_append.mp h with h | h
    · exact List.mem_append_left _ (names_of_mem_closures named h)
    · exact List.mem_append_right _ (namesAll_of_mem_closuresAll named h)

end

end Value

/-- The procedure is inside a value that a frame of the store holds. -/
def Store.Holds (s : Store) (p : Closure) : Prop :=
  ∃ (i : Nat) (f : Frame), s.frames[i]? = some f ∧ ∃ v ∈ f.values, p ∈ v.closures

end MiniScheme
