import MiniScheme.Loader
import MiniScheme.Reader.Stream
import MiniScheme.Value.Closure

/- What the reader can give. A value is readable if it is data whose symbols the
   reader accepts, and its height counts the lists and quotations around its
   deepest atom. Main statement: what is read with some levels of nesting left is
   readable and lower than the levels (`readable_of_datum`), so the expressions
   of a text, or of a source, are readable and at most 63 high. Readable values
   have no procedures inside (`closures_of_readable`). -/
namespace MiniScheme

mutual

/-- Data of which the reader accepts every symbol. -/
def Value.readable : Value → Bool
  | .number _ | .string _ | .bool _ => true
  | .symbol name => Reader.isSymbolName name.toList
  | .list items => Value.allReadable items
  | .primitive _ | .procedure .. | .unspecified => false

/-- All values of a list are readable. -/
def Value.allReadable : List Value → Bool
  | [] => true
  | v :: rest => v.readable && Value.allReadable rest

end

mutual

/-- How deeply lists are nested in a value; the empty list counts as an atom. -/
def Value.height : Value → Nat
  | .list [] => 0
  | .list (v :: rest) => 1 + max v.height (Value.tallest rest)
  | _ => 0

/-- The greatest height of the values of a list. -/
def Value.tallest : List Value → Nat
  | [] => 0
  | v :: rest => max v.height (Value.tallest rest)

end

namespace Value

theorem allReadable_iff {vs : List Value} : allReadable vs = true ↔ ∀ v ∈ vs, v.readable = true := by
  induction vs with
  | nil => simp [allReadable]
  | cons v rest ih => simp [allReadable, ih]

theorem tallest_lt_iff {vs : List Value} {n : Nat} (pos : 0 < n) :
    tallest vs < n ↔ ∀ v ∈ vs, v.height < n := by
  induction vs with
  | nil => simpa [tallest] using pos
  | cons v rest ih => rw [tallest, Nat.max_lt, ih, List.forall_mem_cons]

/-- A list fits into a level more than its items. -/
theorem height_list_lt_iff {items : List Value} {n : Nat} :
    (list items).height < n + 1 ↔ ∀ v ∈ items, v.height < n := by
  cases items with
  | nil => simp [height]
  | cons v rest =>
    rw [height]
    cases n with
    | zero =>
      constructor
      · intro low
        omega
      · intro low
        exact absurd (low v (by simp)) (Nat.not_lt_zero _)
    | succ n =>
      rw [← tallest_lt_iff (Nat.succ_pos n), tallest]
      omega

theorem readable_quoted {v : Value} : (quoted v).readable = v.readable := by
  have named : Reader.isSymbolName "quote".toList = true := by decide
  simp only [quoted, readable, allReadable, named, Bool.true_and, Bool.and_true]

theorem height_quoted (v : Value) : (quoted v).height = 1 + v.height := by
  simp [quoted, height, tallest]

mutual

/-- Nothing that was read has a procedure inside. -/
theorem closures_of_readable : ∀ {v : Value}, v.readable = true → v.closures = []
  | .list items, h => by
    rw [readable] at h
    rw [closures]
    exact closuresAll_of_readable h
  | .number _, _ | .string _, _ | .bool _, _ | .symbol _, _ => rfl

theorem closuresAll_of_readable : ∀ {vs : List Value}, allReadable vs = true → closuresAll vs = []
  | [], _ => rfl
  | v :: rest, h => by
    rw [allReadable, Bool.and_eq_true] at h
    rw [closuresAll, closures_of_readable h.1, closuresAll_of_readable h.2]
    rfl

end

end Value

namespace Reader

theorem digits?_readable {negative : Bool} {input rest : List Char} {v : Value}
    (h : digits? negative input = some (v, rest)) : v.readable = true ∧ v.height = 0 := by
  simp only [digits?] at h
  split at h
  · cases h
  · obtain ⟨n, -, same⟩ := Option.map_eq_some_iff.mp h
    cases same
    exact ⟨rfl, rfl⟩

theorem hexadecimal?_readable {input rest : List Char} {v : Value}
    (h : hexadecimal? input = some (v, rest)) : v.readable = true ∧ v.height = 0 := by
  unfold hexadecimal? at h
  split at h
  · cases h
  · simp only at h
    split at h
    · cases h
    · obtain ⟨n, -, same⟩ := Option.map_eq_some_iff.mp h
      cases same
      exact ⟨rfl, rfl⟩

theorem boolean?_readable {input rest : List Char} {v : Value}
    (h : boolean? input = some (v, rest)) : v.readable = true ∧ v.height = 0 := by
  unfold boolean? at h
  split at h
  · split at h
    · cases h; exact ⟨rfl, rfl⟩
    · cases h
  · split at h
    · cases h; exact ⟨rfl, rfl⟩
    · cases h
  · cases h

theorem symbol?_readable {input rest : List Char} {v : Value}
    (h : symbol? input = some (v, rest)) : v.readable = true ∧ v.height = 0 := by
  simp only [symbol?] at h
  split at h
  · next named =>
    cases h
    simp only [Bool.and_eq_true] at named
    refine ⟨?_, rfl⟩
    simpa [Value.readable] using named.1
  · cases h

/-- Every atom that is read is readable. -/
theorem atom_readable {input rest : List Char} {v : Value} (h : atom? input = some (v, rest)) :
    v.readable = true ∧ v.height = 0 := by
  unfold atom? at h
  split at h
  · rcases Option.or_eq_some_iff.mp h with h | ⟨-, h⟩
    · exact hexadecimal?_readable h
    · exact boolean?_readable h
  · rcases Option.or_eq_some_iff.mp h with h | ⟨-, h⟩
    · unfold decimal? at h
      split at h
      · exact digits?_readable h
      · exact digits?_readable h
    · exact symbol?_readable h

theorem items_of {item : List Char → Result Value} {P : Value → Prop}
    (h : ∀ input v rest, item input = .ok (v, rest) → P v) (comments : Bool) :
    ∀ (bound : Nat) (input rest : List Char) (vs : List Value),
      items item comments bound input = .ok (vs, rest) → ∀ v ∈ vs, P v
  | 0, _, _, _, read => by cases read
  | bound + 1, input, rest, vs, read => by
    rcases of_items_ok read with ⟨rfl, -⟩ | ⟨v, after, others, rfl, first, read⟩
    · exact fun w hw => absurd hw List.not_mem_nil
    · intro w hw
      rcases List.mem_cons.mp hw with rfl | hw
      · exact h _ _ _ first
      · exact items_of h comments bound _ _ _ read w hw

/-- What is read with some levels left is readable and lower than the levels. -/
theorem readable_of_datum (comments : Bool) :
    ∀ (levels : Nat) (input rest : List Char) (v : Value),
      datum comments levels input = .ok (v, rest) → v.readable = true ∧ v.height < levels := by
  intro levels
  induction levels with
  | zero => intro input rest v read; cases read
  | succ levels ih =>
    intro input rest v read
    rcases of_datum_ok read with ⟨after, vs, -, rfl, inner⟩ | ⟨after, w, -, rfl, inner⟩ |
      ⟨after, text, -, rfl, -⟩ | found
    · have each := items_of (fun input v rest read => ih input rest v read) comments _ _ _ _ inner
      refine ⟨?_, Value.height_list_lt_iff.mpr fun w hw => (each w hw).2⟩
      exact Value.allReadable_iff.mpr fun w hw => (each w hw).1
    · obtain ⟨good, low⟩ := ih _ _ _ inner
      rw [Value.readable_quoted, Value.height_quoted]
      exact ⟨good, by omega⟩
    · exact ⟨rfl, Nat.succ_pos _⟩
    · obtain ⟨good, low⟩ := atom_readable found
      exact ⟨good, by omega⟩

/-- A text that holds one expression holds a readable one, at most 63 high. -/
theorem readable_of_parse {comments : Bool} {source : List Char} {v : Value}
    (h : parse comments source = .ok v) : v.readable = true ∧ v.height < maxNesting := by
  unfold parse at h
  split at h
  · cases h
  · next w rest read =>
    split at h
    · cases h
      exact readable_of_datum comments _ _ _ _ read
    · cases h

/-- So are all expressions that a stream gives. -/
theorem readable_of_take :
    ∀ (bound : Nat) (s : Stream) (v : Value), .ok v ∈ s.take bound →
      v.readable = true ∧ v.height < maxNesting
  | 0, _, _, h => by cases h
  | bound + 1, s, v, h => by
    unfold Stream.take at h
    split at h
    · cases h
    · next item after read =>
      rcases List.mem_cons.mp h with rfl | h
      · unfold Stream.next? at read
        split at read
        · cases read
        · split at read
          · cases read
          · split at read
            · next first => cases read; exact readable_of_datum true _ _ _ _ first
            · cases read
      · exact readable_of_take bound after v h

/-- And all expressions of a text. -/
theorem readable_of_readAll {text : String} {v : Value} (h : .ok v ∈ readAll text) :
    v.readable = true := by
  obtain ⟨raw, hr, same⟩ := List.mem_map.mp h
  cases raw with
  | error failure => cases same
  | ok w =>
    cases same
    exact (readable_of_take _ _ _ hr).1

end Reader

/-- The expressions of a source are readable. -/
theorem Loader.readable_of_items {loader : Loader} {location : String}
    {items : List (Except Error Value)} {v : Value} (h : loader.items location = .ok items)
    (hv : .ok v ∈ items) : v.readable = true := by
  unfold Loader.items at h
  split at h
  · next text _ =>
    cases h
    obtain ⟨item, hi, same⟩ := List.mem_map.mp hv
    cases item with
    | error failure => cases same
    | ok w =>
      cases same
      exact Reader.readable_of_readAll hi
  · cases h

end MiniScheme
