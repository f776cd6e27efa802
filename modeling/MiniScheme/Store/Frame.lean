import MiniScheme.Value.Basic

/- Frames. A frame binds names to values in the order in which they were bound
   and knows the environment around it. A name may stand in a frame more than
   once only if a caller made the frame so; the first binding then counts.
   Binding a name gives it its value and leaves the others alone
   (`get?_bind_self`, `get?_bind_of_ne`); unbinding a name that stands once takes its
   value away and leaves the others alone (`get?_unbind_self`, `get?_unbind_of_ne`).
   Neither brings in other names or values
   (`mem_names_bind`, `mem_values_bind`, `names_unbind_sublist`,
   `mem_values_unbind`), nor a name for the second time (`nodup_names_bind`).
   Seen as two lists, the names and the values change at the position where the
   name stands, and grow and shrink together (`names_bind`, `values_bind`,
   `names_unbind`, `values_unbind`), and a name has the value at its position
   (`get?_eq_position`). -/
namespace MiniScheme

/-- Replaces the first binding of a name, or adds one at the end. -/
def bindIn (name : String) (value : Value) : List (String × Value) → List (String × Value)
  | [] => [(name, value)]
  | (bound, old) :: rest =>
    if bound = name then (bound, value) :: rest else (bound, old) :: bindIn name value rest

/-- Removes the first binding of a name. -/
def unbindIn (name : String) (bindings : List (String × Value)) : List (String × Value) :=
  bindings.eraseP fun b => b.1 = name

/-- A name has the value it was last bound to. -/
theorem lookup_bindIn_self (name : String) (value : Value) (bs : List (String × Value)) :
    (bindIn name value bs).lookup name = some value := by
  induction bs with
  | nil => simp [bindIn]
  | cons b rest ih =>
    unfold bindIn
    by_cases h : b.1 = name
    · simp [h]
    · have hne : (name == b.1) = false := by simpa using Ne.symm h
      rw [if_neg h, List.lookup_cons, hne]
      exact ih

/-- Binding a name leaves the values of other names alone. -/
theorem lookup_bindIn_of_ne {name other : String} (h : other ≠ name) (value : Value)
    (bs : List (String × Value)) : (bindIn name value bs).lookup other = bs.lookup other := by
  induction bs with
  | nil =>
    have hne : (other == name) = false := by simpa using h
    simp [bindIn, List.lookup_cons, hne]
  | cons b rest ih =>
    unfold bindIn
    by_cases hb : b.1 = name
    · have hne : (other == b.1) = false := by simpa [hb] using h
      rw [if_pos hb, List.lookup_cons, List.lookup_cons, hne]
    · rw [if_neg hb, List.lookup_cons, List.lookup_cons, ih]

/-- Unbinding a name leaves the values of other names alone. -/
theorem lookup_unbindIn_of_ne {name other : String} (h : other ≠ name)
    (bs : List (String × Value)) : (unbindIn name bs).lookup other = bs.lookup other := by
  induction bs with
  | nil => rfl
  | cons b rest ih =>
    unfold unbindIn at ih ⊢
    by_cases hb : b.1 = name
    · have hne : (other == b.1) = false := by simpa [hb] using h
      rw [List.eraseP_cons_of_pos (by simpa using hb), List.lookup_cons, hne]
    · rw [List.eraseP_cons_of_neg (by simpa using hb), List.lookup_cons, List.lookup_cons, ih]

/-- A name that is bound once has no value when it is unbound. -/
theorem lookup_unbindIn_self (name : String) {bs : List (String × Value)}
    (distinct : (bs.map (·.1)).Nodup) : (unbindIn name bs).lookup name = none := by
  induction bs with
  | nil => rfl
  | cons b rest ih =>
    obtain ⟨new, distinct⟩ := List.nodup_cons.mp distinct
    unfold unbindIn at ih ⊢
    by_cases hb : b.1 = name
    · rw [List.eraseP_cons_of_pos (by simpa using hb), List.lookup_eq_none_iff]
      intro other known
      have differs : b.1 ≠ other.1 := fun same => new (List.mem_map.mpr ⟨other, known, same.symm⟩)
      simpa [← hb] using differs
    · have hne : (name == b.1) = false := by simpa using Ne.symm hb
      rw [List.eraseP_cons_of_neg (by simpa using hb), List.lookup_cons, hne]
      exact ih distinct

/-- Binding a name keeps the names in their order and adds a new one at the end. -/
theorem names_bindIn (name : String) (value : Value) (bs : List (String × Value)) :
    (bindIn name value bs).map (·.1)
      = if name ∈ bs.map (·.1) then bs.map (·.1) else bs.map (·.1) ++ [name] := by
  induction bs with
  | nil => simp [bindIn]
  | cons b rest ih =>
    unfold bindIn
    by_cases hb : b.1 = name
    · simp [hb]
    · rw [if_neg hb, List.map_cons, ih]
      by_cases hm : name ∈ rest.map (·.1)
      · simp [hm]
      · have hn : ¬ name = b.1 := fun e => hb e.symm
        simp [hm, hn]

/-- Binding a name changes the value at the name's position, or adds one at the end. -/
theorem values_bindIn (name : String) (value : Value) (bs : List (String × Value)) :
    (bindIn name value bs).map (·.2) =
      match (bs.map (·.1)).idxOf? name with
      | some k => (bs.map (·.2)).set k value
      | none => bs.map (·.2) ++ [value] := by
  induction bs with
  | nil => rfl
  | cons b rest ih =>
    unfold bindIn
    rw [List.map_cons, List.map_cons, List.idxOf?_cons]
    by_cases hb : b.1 = name
    · simp [hb]
    · have hne : (b.1 == name) = false := by simpa using hb
      rw [if_neg hb, hne, List.map_cons, ih]
      cases (rest.map (·.1)).idxOf? name <;> rfl

/-- Unbinding a name removes what is at the name's position. -/
theorem map_unbindIn {α : Type} (part : String × Value → α) (name : String)
    (bs : List (String × Value)) :
    (unbindIn name bs).map part =
      match (bs.map (·.1)).idxOf? name with
      | some k => (bs.map part).eraseIdx k
      | none => bs.map part := by
  induction bs with
  | nil => rfl
  | cons b rest ih =>
    unfold unbindIn at ih ⊢
    rw [List.map_cons, List.map_cons, List.idxOf?_cons]
    by_cases hb : b.1 = name
    · rw [List.eraseP_cons_of_pos (by simpa using hb)]
      simp [hb]
    · have hne : (b.1 == name) = false := by simpa using hb
      rw [List.eraseP_cons_of_neg (by simpa using hb), List.map_cons, hne, ih]
      cases (rest.map (·.1)).idxOf? name <;> rfl

/-- A name has the value at the first position where it stands. -/
theorem lookup_eq_position (name : String) (bs : List (String × Value)) :
    bs.lookup name = ((bs.map (·.1)).idxOf? name).bind fun k => (bs.map (·.2))[k]? := by
  induction bs with
  | nil => rfl
  | cons b rest ih =>
    rw [List.lookup_cons, List.map_cons, List.map_cons, List.idxOf?_cons]
    by_cases hb : b.1 = name
    · simp [hb]
    · have hne : (b.1 == name) = false := by simpa using hb
      have hne' : (name == b.1) = false := by simpa using Ne.symm hb
      rw [hne, hne', ih]
      cases (rest.map (·.1)).idxOf? name <;> rfl

/-- Binding a name adds no binding but the one made. -/
theorem mem_bindIn {name : String} {value : Value} {b : String × Value}
    {bs : List (String × Value)} (h : b ∈ bindIn name value bs) : b ∈ bs ∨ b = (name, value) := by
  induction bs with
  | nil => exact .inr (List.mem_singleton.mp h)
  | cons first rest ih =>
    unfold bindIn at h
    by_cases same : first.1 = name
    · rw [if_pos same] at h
      rcases List.mem_cons.mp h with rfl | h
      · exact .inr (by rw [same])
      · exact .inl (List.mem_cons_of_mem _ h)
    · rw [if_neg same] at h
      rcases List.mem_cons.mp h with rfl | h
      · exact .inl List.mem_cons_self
      · exact (ih h).imp_left (List.mem_cons_of_mem _)

/-- One scope: its bindings and the environment around it. -/
structure Frame where
  bindings : List (String × Value)
  parent : Env

namespace Frame

/-- The names bound in a frame, in order. -/
def names (f : Frame) : List String := f.bindings.map (·.1)

/-- The values held by a frame, in the order of their names. -/
def values (f : Frame) : List Value := f.bindings.map (·.2)

def get? (f : Frame) (name : String) : Option Value := f.bindings.lookup name

/-- The name is bound in the frame. -/
def binds (f : Frame) (name : String) : Bool := (f.get? name).isSome

/-- Binds a name, in place of an earlier binding of it if there is one. -/
def bind (f : Frame) (name : String) (value : Value) : Frame :=
  { f with bindings := bindIn name value f.bindings }

/-- Removes the first binding of a name. -/
def unbind (f : Frame) (name : String) : Frame :=
  { f with bindings := unbindIn name f.bindings }

def empty (parent : Env) : Frame := ⟨[], parent⟩

/-- A frame with the given bindings, of which a later one replaces an earlier one of the same
    name. -/
def ofBindings (parent : Env) (bindings : List (String × Value)) : Frame :=
  bindings.foldl (fun f b => f.bind b.1 b.2) (empty parent)

@[simp] theorem get?_bind_self (f : Frame) (name : String) (value : Value) :
    (f.bind name value).get? name = some value :=
  lookup_bindIn_self name value f.bindings

theorem get?_bind_of_ne (f : Frame) {name other : String} (h : other ≠ name) (value : Value) :
    (f.bind name value).get? other = f.get? other :=
  lookup_bindIn_of_ne h value f.bindings

theorem get?_unbind_of_ne (f : Frame) {name other : String} (h : other ≠ name) :
    (f.unbind name).get? other = f.get? other :=
  lookup_unbindIn_of_ne h f.bindings

theorem get?_unbind_self {f : Frame} (distinct : f.names.Nodup) (name : String) :
    (f.unbind name).get? name = none :=
  lookup_unbindIn_self name distinct

theorem names_bind (f : Frame) (name : String) (value : Value) :
    (f.bind name value).names = if name ∈ f.names then f.names else f.names ++ [name] :=
  names_bindIn name value f.bindings

theorem values_bind (f : Frame) (name : String) (value : Value) :
    (f.bind name value).values =
      match f.names.idxOf? name with
      | some k => f.values.set k value
      | none => f.values ++ [value] :=
  values_bindIn name value f.bindings

theorem names_unbind (f : Frame) (name : String) :
    (f.unbind name).names =
      match f.names.idxOf? name with
      | some k => f.names.eraseIdx k
      | none => f.names :=
  map_unbindIn (·.1) name f.bindings

theorem values_unbind (f : Frame) (name : String) :
    (f.unbind name).values =
      match f.names.idxOf? name with
      | some k => f.values.eraseIdx k
      | none => f.values :=
  map_unbindIn (·.2) name f.bindings

theorem get?_eq_position (f : Frame) (name : String) :
    f.get? name = (f.names.idxOf? name).bind fun k => f.values[k]? :=
  lookup_eq_position name f.bindings

theorem mem_names_bind {f : Frame} {name other : String} {value : Value}
    (h : other ∈ (f.bind name value).names) : other ∈ f.names ∨ other = name := by
  rw [names_bind] at h
  split at h
  · exact .inl h
  · simpa using h

theorem nodup_names_bind {f : Frame} (h : f.names.Nodup) (name : String) (value : Value) :
    (f.bind name value).names.Nodup := by
  rw [names_bind]
  split
  · exact h
  · next new =>
    refine List.nodup_append.mpr ⟨h, by simp, ?_⟩
    rintro other known _ added rfl
    exact new (List.mem_singleton.mp added ▸ known)

theorem names_unbind_sublist (f : Frame) (name : String) :
    (f.unbind name).names.Sublist f.names :=
  (List.eraseP_sublist ..).map _

theorem mem_values_bind {f : Frame} {name : String} {value v : Value}
    (h : v ∈ (f.bind name value).values) : v ∈ f.values ∨ v = value := by
  obtain ⟨b, hb, rfl⟩ := List.mem_map.mp h
  rcases mem_bindIn hb with hb | rfl
  · exact .inl (List.mem_map_of_mem hb)
  · exact .inr rfl

theorem mem_values_unbind {f : Frame} {name : String} {v : Value}
    (h : v ∈ (f.unbind name).values) : v ∈ f.values :=
  ((List.eraseP_sublist ..).map _).subset h

theorem mem_values_of_get? {f : Frame} {name : String} {v : Value} (h : f.get? name = some v) :
    v ∈ f.values := by
  obtain ⟨before, after, split, -⟩ := List.lookup_eq_some_iff.mp h
  simp [values, split]

/-- A name that stands once in a frame has the value at its own position. -/
theorem get?_of_positions {f : Frame} (distinct : f.names.Nodup) {k : Nat} {name : String}
    {v : Value} (hn : f.names[k]? = some name) (hv : f.values[k]? = some v) :
    f.get? name = some v := by
  obtain ⟨known, here⟩ := List.getElem?_eq_some_iff.mp hn
  have position : f.names.idxOf? name = some k := by
    refine List.idxOf?_eq_some_iff.mpr ⟨known, here, fun j hj same => ?_⟩
    have twice : f.names[j] = f.names[k] := same.trans here.symm
    exact Nat.ne_of_lt hj ((List.getElem_inj distinct).mp twice)
  rw [get?_eq_position, position]
  exact hv

theorem binds_iff {f : Frame} {name : String} : f.binds name = true ↔ name ∈ f.names := by
  unfold binds get? names
  induction f.bindings with
  | nil => simp
  | cons b rest ih =>
    rw [List.lookup_cons, List.map_cons, List.mem_cons]
    by_cases same : name = b.1
    · simp [same]
    · have hne : (name == b.1) = false := by simpa using same
      rw [hne]
      simp [same, ih]

/-- What holds of the frame without bindings, and is kept by each binding, holds of the frame made
    of them. -/
theorem ofBindings_induct {motive : Frame → Prop} {parent : Env} {bindings : List (String × Value)}
    (none : motive (empty parent))
    (bind : ∀ f, ∀ b ∈ bindings, motive f → motive (f.bind b.1 b.2)) :
    motive (ofBindings parent bindings) := by
  unfold ofBindings
  exact List.foldlRecOn bindings _ none fun f hf b hb => bind f b hb hf

theorem nodup_names_ofBindings (parent : Env) (bindings : List (String × Value)) :
    (ofBindings parent bindings).names.Nodup :=
  ofBindings_induct (motive := fun f => f.names.Nodup) .nil
    fun _ b _ hf => nodup_names_bind hf b.1 b.2

theorem parent_ofBindings (parent : Env) (bindings : List (String × Value)) :
    (ofBindings parent bindings).parent = parent :=
  ofBindings_induct (motive := fun f => f.parent = parent) rfl fun _ _ _ hf => hf

theorem mem_names_ofBindings {parent : Env} {bindings : List (String × Value)} {name : String}
    (h : name ∈ (ofBindings parent bindings).names) : name ∈ bindings.map (·.1) := by
  revert h
  refine ofBindings_induct (motive := fun f => name ∈ f.names → name ∈ bindings.map (·.1)) ?_ ?_
  · exact fun h => by cases h
  · intro f b hb hf h
    rcases mem_names_bind h with h | rfl
    · exact hf h
    · exact List.mem_map_of_mem hb

theorem mem_values_ofBindings {parent : Env} {bindings : List (String × Value)} {v : Value}
    (h : v ∈ (ofBindings parent bindings).values) : v ∈ bindings.map (·.2) := by
  revert h
  refine ofBindings_induct (motive := fun f => v ∈ f.values → v ∈ bindings.map (·.2)) ?_ ?_
  · exact fun h => by cases h
  · intro f b hb hf h
    rcases mem_values_bind h with h | rfl
    · exact hf h
    · exact List.mem_map_of_mem hb

end Frame

end MiniScheme
