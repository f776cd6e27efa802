import MiniScheme.Proofs.ByteOrder
import MiniScheme.Proofs.Sharing

/- The listing of what is visible in an environment. A look-up goes outward along
   the chain and stops at the first frame that binds the name; the listing takes
   the bindings of the whole chain, keeps the first one of each name, and sorts
   what is left. Of all bindings in a row, the one that is kept of a name is the
   one that is found first (`mem_firstOfEach`), also if a frame binds a name twice,
   and no name is kept twice (`nodup_firstOfEach`). The bindings of the frames in a
   row are found as the look-up finds them (`lookup_scopes`), and sorting moves
   them about only (`mem_allBindings`, `sorted_allBindings`). Main statement:
   the listing against the look-up (`listing_is_visible`). -/
namespace MiniScheme.Store

/-- The binding that is kept of a name is the first one. -/
theorem mem_firstOfEach {bs : List (String × Value)} {name : String} {v : Value} :
    (name, v) ∈ firstOfEach bs ↔ bs.lookup name = some v := by
  induction bs with
  | nil => exact ⟨nofun, nofun⟩
  | cons b rest ih =>
    rw [firstOfEach, List.mem_cons, List.mem_filter, ih, List.lookup_cons]
    by_cases same : name = b.1
    · subst same
      simp [Prod.ext_iff, eq_comm]
    · have differs : (name == b.1) = false := by simpa using same
      simp [differs, same, Prod.ext_iff]

/-- No name is kept twice. -/
theorem nodup_firstOfEach (bs : List (String × Value)) : ((firstOfEach bs).map (·.1)).Nodup := by
  induction bs with
  | nil => exact .nil
  | cons b rest ih =>
    rw [firstOfEach, List.map_cons, List.nodup_cons]
    constructor
    · intro again
      obtain ⟨other, kept, same⟩ := List.mem_map.mp again
      have differs := (List.mem_filter.mp kept).2
      simp [same] at differs
    · exact ih.sublist (List.filter_sublist.map _)

/-- The first binding of a name along the chain is the one that is looked up. -/
theorem lookup_scopes (s : Store) (env : Env) (name : String) :
    ((s.scopes env).flatMap (·.bindings)).lookup name = s.lookup? env name := by
  unfold lookup?
  induction s.scopes env with
  | nil => rfl
  | cons f outer ih =>
    rw [List.flatMap_cons, List.lookup_append, List.findSome?_cons, ih]
    show (f.get? name).or _ = _
    cases f.get? name <;> rfl

theorem mem_allBindings {s : Store} {env : Env} {name : String} {v : Value} :
    (name, v) ∈ s.allBindings env ↔ s.lookup? env name = some v := by
  rw [allBindings, List.mem_mergeSort, mem_firstOfEach, lookup_scopes]

theorem mem_names_allBindings {s : Store} {env : Env} {name : String} :
    name ∈ (s.allBindings env).map (·.1) ↔ s.isDefined env name = true := by
  rw [isDefined_eq, Option.isSome_iff_exists, List.mem_map]
  constructor
  · rintro ⟨⟨_, v⟩, listed, rfl⟩
    exact ⟨v, mem_allBindings.mp listed⟩
  · rintro ⟨v, found⟩
    exact ⟨(name, v), mem_allBindings.mpr found, rfl⟩

/-- The listing goes up strictly from name to name: it is sorted, and no name stands in it twice. -/
theorem sorted_allBindings (s : Store) (env : Env) :
    (s.allBindings env).Pairwise fun a b => a.1 < b.1 :=
  Text.pairwise_lt_mergeSort (nodup_firstOfEach _)

/-- What is listed of an environment is what is seen in it, whatever frames it has: the names go up
    strictly by their bytes, a name stands with a value exactly if the look-up of the name ends
    with this value, and so the names are those that are defined. -/
theorem listing_is_visible (st : State) (env : Env) :
    (st.store.allBindings env).Pairwise (fun a b => Text.bytes a.1 < Text.bytes b.1) ∧
    (∀ name v, (name, v) ∈ st.store.allBindings env ↔ Eval.lookup env name st = .ok v st) ∧
    ∀ name, name ∈ (st.store.allBindings env).map (·.1) ↔
      st.store.isDefined env name = true := by
  refine ⟨?_, fun name v => ?_, fun name => mem_names_allBindings⟩
  · exact (sorted_allBindings st.store env).imp Text.bytes_lt_bytes
  · rw [mem_allBindings, Eval.lookup_eq_ok_iff]

/-- Of names that a frame binds twice, or that an outer frame binds too, the first binding is
    listed. -/
example :
    let x (n : Int64) : String × Value := ("x", .number n)
    let s : Store := ⟨#[⟨[("y", .bool true), x 3], .empty⟩, ⟨[x 1, x 2], ⟨some 0⟩⟩], 0⟩
    s.allBindings ⟨some 1⟩ = [x 1, ("y", .bool true)] := by
  cbv

end MiniScheme.Store
