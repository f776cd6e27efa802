import MiniScheme.Eval.Basic
import MiniScheme.Proofs.Soundness

/- Environments that share frames. An environment is a chain of frames, and other
   environments may have some of these frames on their chains, too, behind frames
   of their own. What a frame holds under a name is `Store.valueAt`; a variable has
   the value of the nearest frame that holds one (`lookup?_eq`). The operations
   change what one frame, or each frame of a chain, holds under one name, and no
   chain (`valueAt_bind`, `valueAt_unbind`, `valueAt_unbindAll`, `chain_of_parents`).
   So a change is seen from an environment exactly if the frame is in sight there:
   it is on the chain, and no nearer frame has the name (`shows_bind`). Main
   statement: assigning, defining and the two ways of unbinding, as they are seen
   through every environment (`bindings_shared`). -/
namespace MiniScheme

namespace Store

/-- What a frame holds under a name. -/
def valueAt (s : Store) (i : Nat) (name : String) : Option Value :=
  (s.frames[i]?).bind (·.get? name)

/-- A frame binds a name. -/
def BindsAt (s : Store) (i : Nat) (name : String) : Prop :=
  ∃ f, s.frames[i]? = some f ∧ name ∈ f.names

/-- The frame is on the chain of the environment, and no nearer frame binds the name. -/
def InSight (s : Store) (env : Env) (name : String) (i : Nat) : Prop :=
  ∃ nearer above, s.chain env = nearer ++ i :: above ∧ ∀ k ∈ nearer, ¬ s.BindsAt k name

/-- The frame is the innermost one on the chain of the environment that binds the name. -/
def Slot (s : Store) (env : Env) (name : String) (i : Nat) : Prop :=
  s.InSight env name i ∧ s.BindsAt i name

/-- Each frame binds a name once. -/
def Distinct (s : Store) : Prop :=
  ∀ (i : Nat) (f : Frame), s.frames[i]? = some f → f.names.Nodup

/-- Of all that is seen in the first store, the second one differs in this: the environments that
    see the change have the value under the name. -/
def Shows (s s' : Store) (name : String) (v : Value) (sees : Env → Prop) : Prop :=
  ∀ env other,
    (other = name ∧ sees env → s'.lookup? env other = some v) ∧
    (¬ (other = name ∧ sees env) → s'.lookup? env other = s.lookup? env other)

/-! Lookup goes along the chain. -/

theorem bindsAt_iff {s : Store} {i : Nat} {name : String} :
    s.BindsAt i name ↔ (s.valueAt i name).isSome = true := by
  unfold BindsAt valueAt
  cases s.frames[i]? with
  | none => simp
  | some f =>
    have binds : (f.get? name).isSome = true ↔ name ∈ f.names := Frame.binds_iff
    simpa using binds.symm

theorem valueAt_eq_none_iff {s : Store} {i : Nat} {name : String} :
    s.valueAt i name = none ↔ ¬ s.BindsAt i name := by
  rw [bindsAt_iff, Option.not_isSome_iff_eq_none]

/-- A variable has the value that the first frame of the chain with one holds. -/
theorem lookup?_eq (s : Store) (env : Env) (name : String) :
    s.lookup? env name = (s.chain env).findSome? (s.valueAt · name) := by
  unfold lookup? scopes
  induction s.chain env with
  | nil => rfl
  | cons i above ih =>
    rw [List.filterMap_cons, List.findSome?_cons]
    unfold valueAt
    cases s.frames[i]? with
    | none => exact ih
    | some f =>
      show (f :: _).findSome? _ = _
      rw [List.findSome?_cons, ih]
      rfl

theorem isDefined_eq (s : Store) (env : Env) (name : String) :
    s.isDefined env name = (s.lookup? env name).isSome := by
  unfold isDefined lookup? Frame.binds
  rw [Bool.eq_iff_iff, List.any_eq_true, List.findSome?_isSome_iff]

/-- The frame to which an assignment goes is the slot of the name. -/
theorem slot?_eq_some_iff {s : Store} {env : Env} {name : String} {i : Nat} :
    s.slot? env name = some i ↔ s.Slot env name i := by
  have binds : ∀ k, (s.frames[k]?).any (·.binds name) = true ↔ s.BindsAt k name := by
    intro k
    rw [bindsAt_iff]
    unfold valueAt Frame.binds
    cases s.frames[k]? <;> simp
  unfold slot? Slot InSight
  rw [List.find?_eq_some_iff_append]
  simp only [binds, Bool.not_eq_true', Bool.eq_false_iff, ne_eq]
  constructor
  · rintro ⟨here, nearer, above, split, free⟩
    exact ⟨⟨nearer, above, split, free⟩, here⟩
  · rintro ⟨⟨nearer, above, split, free⟩, here⟩
    exact ⟨here, nearer, above, split, free⟩

/-- The slot of a name tells the value of the variable. -/
theorem lookup?_of_slot {s : Store} {env : Env} {name : String} {i : Nat}
    (slot : s.Slot env name i) : s.lookup? env name = s.valueAt i name := by
  obtain ⟨⟨nearer, above, split, free⟩, here⟩ := slot
  obtain ⟨v, value⟩ := Option.isSome_iff_exists.mp (bindsAt_iff.mp here)
  rw [lookup?_eq, value]
  exact List.findSome?_eq_some_iff.mpr
    ⟨nearer, i, above, split, value, fun k hk => valueAt_eq_none_iff.mpr (free k hk)⟩

/-- A variable that has a value has a slot. -/
theorem exists_slot_of_lookup? {s : Store} {env : Env} {name : String} {v : Value}
    (found : s.lookup? env name = some v) : ∃ i, s.Slot env name i := by
  rw [lookup?_eq] at found
  obtain ⟨nearer, i, above, split, value, free⟩ := List.findSome?_eq_some_iff.mp found
  refine ⟨i, ⟨nearer, above, split, fun k hk => valueAt_eq_none_iff.mp (free k hk)⟩, ?_⟩
  rw [bindsAt_iff, value]
  rfl

theorem exists_slot_iff {s : Store} {env : Env} {name : String} :
    (∃ i, s.Slot env name i) ↔ s.isDefined env name = true := by
  rw [isDefined_eq]
  constructor
  · rintro ⟨i, slot⟩
    rw [lookup?_of_slot slot]
    exact bindsAt_iff.mp slot.2
  · intro some?
    obtain ⟨v, found⟩ := Option.isSome_iff_exists.mp some?
    exact exists_slot_of_lookup? found

/-! What the operations change. -/

/-- A chain is the same in stores whose frames have the same parents. -/
theorem chain_of_parents {s s' : Store}
    (parents : ∀ k : Nat, (s'.frames[k]?).map Frame.parent = (s.frames[k]?).map Frame.parent)
    (env : Env) :
    s'.chain env = s.chain env := by
  have within : ∀ bound env, s'.chainWithin bound env = s.chainWithin bound env := by
    intro bound
    induction bound with
    | zero => exact fun _ => rfl
    | succ bound ih =>
      intro env
      unfold chainWithin
      split
      · rfl
      next i _ =>
      have same := parents i
      cases old : s.frames[i]? with
      | none =>
        rw [old, Option.map_none, Option.map_eq_none_iff] at same
        rw [same]
      | some f =>
        rw [old, Option.map_some, Option.map_eq_some_iff] at same
        obtain ⟨f', new, parent⟩ := same
        rw [new]
        simp only
        rw [parent, ih]
  unfold chain
  split
  · rfl
  · exact within _ env

theorem chain_modifyFrame (s : Store) (i : Nat) (change : Frame → Frame)
    (parent : ∀ f, (change f).parent = f.parent) (env : Env) :
    (s.modifyFrame i change).chain env = s.chain env := by
  apply chain_of_parents
  intro k
  rw [getElem?_modifyFrame]
  split
  · rw [Option.map_map]
    congr 1
    funext f
    exact parent f
  · rfl

theorem chain_bind (s : Store) (i : Nat) (name : String) (v : Value) (env : Env) :
    (s.modifyFrame i (·.bind name v)).chain env = s.chain env :=
  chain_modifyFrame s i (·.bind name v) (fun _ => rfl) env

theorem chain_unbind (s : Store) (i : Nat) (name : String) (env : Env) :
    (s.modifyFrame i (·.unbind name)).chain env = s.chain env :=
  chain_modifyFrame s i (·.unbind name) (fun _ => rfl) env

/-- Binding a name in a frame changes what this frame holds under this name. -/
theorem valueAt_bind {s : Store} {i : Nat} (known : i < s.frames.size) (name : String) (v : Value)
    (k : Nat) (other : String) :
    (s.modifyFrame i (·.bind name v)).valueAt k other =
      if k = i ∧ other = name then some v else s.valueAt k other := by
  unfold valueAt
  rw [getElem?_modifyFrame]
  by_cases here : i = k
  · subst here
    rw [if_pos rfl, Array.getElem?_eq_getElem known]
    by_cases same : other = name
    · subst same
      rw [if_pos ⟨rfl, rfl⟩]
      exact Frame.get?_bind_self _ _ _
    · rw [if_neg fun both => same both.2]
      exact Frame.get?_bind_of_ne _ same v
  · rw [if_neg here, if_neg fun both => here both.1.symm]

/-- Unbinding a name in a frame takes away what this frame holds under this name. -/
theorem valueAt_unbind {s : Store} (distinct : s.Distinct) (i : Nat) (name : String) (k : Nat)
    (other : String) :
    (s.modifyFrame i (·.unbind name)).valueAt k other =
      if k = i ∧ other = name then none else s.valueAt k other := by
  unfold valueAt
  rw [getElem?_modifyFrame]
  by_cases here : i = k
  · subst here
    rw [if_pos rfl]
    cases old : s.frames[i]? with
    | none => simp
    | some f =>
      by_cases same : other = name
      · subst same
        rw [if_pos ⟨rfl, rfl⟩]
        exact Frame.get?_unbind_self (distinct i f old) other
      · rw [if_neg fun both => same both.2]
        exact Frame.get?_unbind_of_ne f same
  · rw [if_neg here, if_neg fun both => here both.1.symm]

theorem Distinct.unbind {s : Store} (distinct : s.Distinct) (i : Nat) (name : String) :
    (s.modifyFrame i (·.unbind name)).Distinct := by
  intro k f hf
  rw [getElem?_modifyFrame] at hf
  split at hf
  · obtain ⟨old, here, rfl⟩ := Option.map_eq_some_iff.mp hf
    exact (distinct k old here).sublist (Frame.names_unbind_sublist old name)
  · exact distinct k f hf

/-- Unbinding a name in some frames takes away what these frames hold under this name, and changes
    no chain. -/
theorem valueAt_unbindAll (name : String) : ∀ (is : List Nat) {s : Store}, s.Distinct →
    let s' := is.foldl (fun s i => s.modifyFrame i (·.unbind name)) s
    (∀ env, s'.chain env = s.chain env) ∧
      ∀ k other, s'.valueAt k other = if k ∈ is ∧ other = name then none else s.valueAt k other
  | [], s, _ => ⟨fun _ => rfl, by simp⟩
  | i :: is, s, distinct => by
    obtain ⟨chains, values⟩ := valueAt_unbindAll name is (distinct.unbind i name)
    refine ⟨fun env => (chains env).trans (chain_unbind s i name env), ?_⟩
    intro k other
    rw [List.foldl_cons, values k other, valueAt_unbind distinct]
    by_cases same : other = name
    · by_cases first : k = i <;> simp [same, first]
    · simp [same]

/-! How a change is seen from an environment. -/

theorem findSome?_congr {α β : Type} {f g : α → Option β} :
    ∀ {l : List α}, (∀ a ∈ l, f a = g a) → l.findSome? f = l.findSome? g
  | [], _ => rfl
  | a :: l, same => by
    rw [List.findSome?_cons, List.findSome?_cons, same a List.mem_cons_self,
      findSome?_congr fun b hb => same b (List.mem_cons_of_mem _ hb)]

theorem findSome?_filter {α β : Type} (f : α → Option β) (p : α → Prop) [DecidablePred p] :
    ∀ l : List α, (l.filter (p ·)).findSome? f = l.findSome? fun a => if p a then f a else none
  | [] => rfl
  | a :: l => by
    rw [List.findSome?_cons, List.filter_cons, ← findSome?_filter f p l]
    by_cases h : p a <;> simp [h, List.findSome?_cons]

/-- A value that is put at a place is found if nothing before the place has one. -/
theorem findSome?_put {β : Type} {f : Nat → Option β} {i : Nat} (v : β) (above : List Nat) :
    ∀ {nearer : List Nat}, (∀ k ∈ nearer, f k = none) →
      (nearer ++ i :: above).findSome? (fun k => if k = i then some v else f k) = some v
  | [], _ => by rw [List.nil_append, List.findSome?_cons, if_pos rfl]
  | k :: nearer, free => by
    rw [List.cons_append, List.findSome?_cons]
    by_cases here : k = i
    · rw [if_pos here]
    · rw [if_neg here, free k List.mem_cons_self]
      exact findSome?_put v above fun j hj => free j (List.mem_cons_of_mem _ hj)

/-- A value that is put at a place changes nothing if something before the place has one. -/
theorem findSome?_put_hidden {β : Type} {f : Nat → Option β} {i : Nat} (v : β) :
    ∀ {l : List Nat}, (¬ ∃ nearer above, l = nearer ++ i :: above ∧ ∀ k ∈ nearer, f k = none) →
      l.findSome? (fun k => if k = i then some v else f k) = l.findSome? f
  | [], _ => rfl
  | k :: l, hidden => by
    rw [List.findSome?_cons, List.findSome?_cons]
    by_cases here : k = i
    · exact absurd ⟨[], l, by rw [here, List.nil_append], by simp⟩ hidden
    rw [if_neg here]
    cases value : f k with
    | some w => rfl
    | none =>
      apply findSome?_put_hidden v
      rintro ⟨nearer, above, rfl, free⟩
      refine hidden ⟨k :: nearer, above, rfl, fun j hj => ?_⟩
      rcases List.mem_cons.mp hj with rfl | hj
      · exact value
      · exact free j hj

/-- A value that is bound in a frame is seen where the frame is in sight. -/
theorem shows_bind {s : Store} {i : Nat} (known : i < s.frames.size) (name : String) (v : Value) :
    s.Shows (s.modifyFrame i (·.bind name v)) name v (s.InSight · name i) := by
  intro env other
  rw [lookup?_eq, lookup?_eq, chain_bind]
  by_cases same : other = name
  · subst same
    have values : ∀ k, (s.modifyFrame i (·.bind other v)).valueAt k other =
        if k = i then some v else s.valueAt k other := by
      intro k
      rw [valueAt_bind known]
      simp
    simp only [values, true_and]
    constructor
    · rintro ⟨nearer, above, split, free⟩
      rw [split]
      exact findSome?_put v above fun k hk => valueAt_eq_none_iff.mpr (free k hk)
    · intro unseen
      apply findSome?_put_hidden
      rintro ⟨nearer, above, split, free⟩
      exact unseen ⟨nearer, above, split, fun k hk => valueAt_eq_none_iff.mp (free k hk)⟩
  · refine ⟨fun both => absurd both.1 same, fun _ => findSome?_congr fun k _ => ?_⟩
    rw [valueAt_bind known, if_neg fun both => same both.2]

theorem Shows.congr {s s' : Store} {name : String} {v : Value} {sees sees' : Env → Prop}
    (h : s.Shows s' name v sees) (same : ∀ env, sees' env ↔ sees env) :
    s.Shows s' name v sees' := by
  intro env other
  rw [same env]
  exact h env other

theorem BindsAt.known {s : Store} {i : Nat} {name : String} (h : s.BindsAt i name) :
    i < s.frames.size := by
  obtain ⟨f, here, -⟩ := h
  exact (Array.getElem?_eq_some_iff.mp here).1

end Store

namespace Eval

open Store

theorem attempt_of_ok {f : Store → Except Error Store} {st : State} {s : Store}
    (done : f st.store = .ok s) : attempt f st = .ok () { st with store := s } := by
  unfold attempt
  rw [done]

theorem attempt_of_error {f : Store → Except Error Store} {st : State} {e : Error}
    (refused : f st.store = .error e) : attempt f st = .error e st := by
  unfold attempt
  rw [refused]

theorem lookup_eq_ok_iff {st : State} {env : Env} {name : String} {v : Value} :
    lookup env name st = .ok v st ↔ st.store.lookup? env name = some v := by
  have asked : ask (·.lookup? env name) st = .ok (st.store.lookup? env name) st := rfl
  unfold lookup
  simp only [bind, EStateM.bind, asked]
  cases st.store.lookup? env name with
  | none => exact ⟨nofun, nofun⟩
  | some w => exact ⟨fun h => by cases h; rfl, fun h => by cases h; rfl⟩

variable (st : State) (env : Env) (name : String)

/-- A variable can be looked up exactly if its name has a slot. -/
theorem exists_slot_iff_lookup :
    (∃ i, st.store.Slot env name i) ↔ ∃ v, lookup env name st = .ok v st := by
  simp only [lookup_eq_ok_iff]
  rw [exists_slot_iff, isDefined_eq, Option.isSome_iff_exists]

/-- An assignment goes to the slot of the name, and is seen where the name has the same slot. -/
theorem assign_of_slot (v : Value) {i : Nat} (slot : st.store.Slot env name i) :
    ∃ st', assign env name v st = .ok () st' ∧
      st.store.Shows st'.store name v (st.store.Slot · name i) := by
  have done : st.store.set env name v = .ok (st.store.modifyFrame i (·.bind name v)) := by
    unfold Store.set
    rw [slot?_eq_some_iff.mpr slot]
  refine ⟨_, attempt_of_ok done, (shows_bind slot.2.known name v).congr fun env' => ?_⟩
  exact ⟨fun other => other.1, fun sight => ⟨sight, slot.2⟩⟩

/-- Without a slot, an assignment is refused. -/
theorem assign_of_no_slot (v : Value) (none? : ¬ ∃ i, st.store.Slot env name i) :
    assign env name v st = .error (.unbound name) st := by
  have slot? : st.store.slot? env name = none := by
    cases found : st.store.slot? env name with
    | none => rfl
    | some i => exact absurd ⟨i, slot?_eq_some_iff.mp found⟩ none?
  have refused : st.store.set env name v = .error (.unbound name) := by
    unfold Store.set
    rw [slot?]
  exact attempt_of_error refused

/-- A definition goes to the innermost frame, and is seen where this frame is in sight. -/
theorem define_of_frame (v : Value) {i : Nat} (innermost : env.frame? = some i)
    (known : i < st.store.frames.size) :
    ∃ st', define env name v st = .ok () st' ∧
      st.store.Shows st'.store name v (st.store.InSight · name i) := by
  have done : st.store.define env name v = .ok (st.store.modifyFrame i (·.bind name v)) := by
    unfold Store.define
    rw [innermost]
  exact ⟨_, attempt_of_ok done, shows_bind known name v⟩

/-- Unbinding locally takes the name out of the innermost frame. -/
theorem unbindLocally_of_distinct (distinct : st.store.Distinct) :
    ∃ st', unbindLocally env name st = .ok (st.store.isLocallyDefined env name) st' ∧
      (∀ env', st'.store.chain env' = st.store.chain env') ∧
      (∀ k, env.frame? ≠ some k → st'.store.frames[k]? = st.store.frames[k]?) ∧
      ∀ k other, st'.store.valueAt k other =
        if env.frame? = some k ∧ other = name then none else st.store.valueAt k other := by
  refine ⟨{ st with store := st.store.unbindLocally env name }, rfl, ?_⟩
  unfold Store.unbindLocally
  cases env.frame? with
  | none => simp
  | some i =>
    refine ⟨st.store.chain_unbind i name, fun k other => ?_, fun k other => ?_⟩
    · rw [getElem?_modifyFrame, if_neg fun same => other (congrArg some same)]
    · simp only [Option.some.injEq, eq_comm (a := i)]
      exact valueAt_unbind distinct i name k other

/-- Unbinding takes the name out of all frames of the chain. -/
theorem unbind_of_distinct (distinct : st.store.Distinct) :
    ∃ st', unbind env name st = .ok (st.store.isDefined env name) st' ∧
      (∀ env', st'.store.chain env' = st.store.chain env') ∧
      ∀ k other, st'.store.valueAt k other =
        if k ∈ st.store.chain env ∧ other = name then none else st.store.valueAt k other :=
  ⟨{ st with store := st.store.unbind env name }, rfl,
    valueAt_unbindAll name (st.store.chain env) distinct⟩

/-- What an operation does through one environment, as it is seen through every other one.

    Assigning succeeds exactly if the name has a slot, which is to say, if the variable is defined
    and can be looked up. Then the new value is seen where the name has the same slot; otherwise
    nothing is changed. A definition is seen where the innermost frame of the environment is on the
    chain and no nearer frame binds the name. Unbinding locally takes the name out of the innermost
    frame and leaves all else as it was. Unbinding takes it out of the whole chain: it tells whether
    the variable was defined, other environments see the name only in frames that are not on this
    chain, and other names are seen as before. Where parents are older than their frames, as they
    are made, a chain goes through all parents to the end. -/
theorem bindings_shared (st : State) (distinct : st.store.Distinct) (env : Env) (name : String)
    (v : Value) :
    (((∃ i, st.store.Slot env name i) ↔ ∃ st', assign env name v st = .ok () st') ∧
      ((∃ i, st.store.Slot env name i) ↔ st.store.isDefined env name = true) ∧
      ((∃ i, st.store.Slot env name i) ↔ ∃ w, lookup env name st = .ok w st) ∧
      (∀ i, st.store.Slot env name i → ∃ st', assign env name v st = .ok () st' ∧
        st.store.Shows st'.store name v (st.store.Slot · name i)) ∧
      ((¬ ∃ i, st.store.Slot env name i) → assign env name v st = .error (.unbound name) st)) ∧
    (∀ i, env.frame? = some i → i < st.store.frames.size →
      ∃ st', define env name v st = .ok () st' ∧
        st.store.Shows st'.store name v (st.store.InSight · name i)) ∧
    (∃ st', unbindLocally env name st = .ok (st.store.isLocallyDefined env name) st' ∧
      (∀ env', st'.store.chain env' = st.store.chain env') ∧
      (∀ k, env.frame? ≠ some k → st'.store.frames[k]? = st.store.frames[k]?) ∧
      ∀ k other, st'.store.valueAt k other =
        if env.frame? = some k ∧ other = name then none else st.store.valueAt k other) ∧
    (∃ bound st', unbind env name st = .ok bound st' ∧
      (bound = true ↔ ∃ i, st.store.Slot env name i) ∧
      (¬ ∃ i, st'.store.Slot env name i) ∧
      ∀ env', st'.store.lookup? env' name =
          ((st.store.chain env').filter (· ∉ st.store.chain env)).findSome?
            (st.store.valueAt · name) ∧
        ∀ other, other ≠ name → st'.store.lookup? env' other = st.store.lookup? env' other) ∧
    ((∀ (i : Nat) (f : Frame), st.store.frames[i]? = some f →
        ∀ j, f.parent.frame? = some j → j < i) →
      (∀ i, env.frame? = some i → i < st.store.frames.size) →
      st.store.Path env (st.store.chain env)) := by
  refine ⟨⟨?_, exists_slot_iff, exists_slot_iff_lookup st env name, ?_, ?_⟩, ?_, ?_, ?_, ?_⟩
  · constructor
    · rintro ⟨i, slot⟩
      obtain ⟨st', done, -⟩ := assign_of_slot st env name v slot
      exact ⟨st', done⟩
    · rintro ⟨st', done⟩
      refine Classical.byContradiction fun none? => ?_
      rw [assign_of_no_slot st env name v none?] at done
      cases done
  · exact fun i slot => assign_of_slot st env name v slot
  · exact assign_of_no_slot st env name v
  · exact fun i innermost known => define_of_frame st env name v innermost known
  · exact unbindLocally_of_distinct st env name distinct
  · obtain ⟨st', done, chains, values⟩ := unbind_of_distinct st env name distinct
    refine ⟨_, st', done, exists_slot_iff.symm, ?_, fun env' => ⟨?_, fun other differs => ?_⟩⟩
    · rintro ⟨i, ⟨nearer, above, split, -⟩, binds⟩
      rw [chains] at split
      rw [bindsAt_iff, values, if_pos ⟨by simp [split], rfl⟩] at binds
      cases binds
    · rw [lookup?_eq, chains, findSome?_filter]
      refine findSome?_congr fun k _ => ?_
      simp [values]
    · rw [lookup?_eq, lookup?_eq, chains]
      refine findSome?_congr fun k _ => ?_
      rw [values, if_neg fun both => differs both.2]
  · exact fun older known => (path_chain older fun i hi => ⟨known i hi, known i hi⟩).1

/-- Two environments in front of a global one, of which the first hides a variable. What is done
    through the second one is seen in the global one, and is hidden from the first. -/
theorem bindings_shared_hidden :
    let x (n : Int64) : String × Value := ("x", .number n)
    let st : State := ⟨⟨#[⟨[x 1, ("y", .number 2)], .empty⟩, ⟨[x 10], ⟨some 0⟩⟩, ⟨[], ⟨some 0⟩⟩], 0⟩,
      "", #[]⟩
    st.store.Distinct ∧
      (∃ st', assign ⟨some 2⟩ "x" (.number 7) st = .ok () st' ∧
        st'.store.lookup? ⟨some 0⟩ "x" = some (.number 7) ∧
        st'.store.lookup? ⟨some 1⟩ "x" = some (.number 10)) ∧
      ∃ st', unbind ⟨some 2⟩ "x" st = .ok true st' ∧
        st'.store.lookup? ⟨some 0⟩ "x" = none ∧
        st'.store.lookup? ⟨some 1⟩ "x" = some (.number 10) ∧
        st'.store.lookup? ⟨some 1⟩ "y" = some (.number 2) := by
  intro x st
  have distinct : st.store.Distinct := by
    intro i f hf
    have known : f ∈ st.store.frames := Array.mem_of_getElem? hf
    have all : ∀ f ∈ st.store.frames, f.names.Nodup := by decide
    exact all f known
  have slot : st.store.Slot ⟨some 2⟩ "x" 0 := slot?_eq_some_iff.mp rfl
  have sees : st.store.Slot ⟨some 0⟩ "x" 0 := slot?_eq_some_iff.mp rfl
  have hides : ¬ st.store.Slot ⟨some 1⟩ "x" 0 := by
    intro seen
    cases slot?_eq_some_iff.mpr seen
  obtain ⟨⟨-, -, -, assigned, -⟩, -, -, ⟨bound, st'', unbound, was, -, views⟩, -⟩ :=
    bindings_shared st distinct ⟨some 2⟩ "x" (.number 7)
  obtain ⟨st', done, shows⟩ := assigned 0 slot
  obtain rfl : bound = true := was.mpr ⟨0, slot⟩
  refine ⟨distinct, ⟨st', done, (shows ⟨some 0⟩ "x").1 ⟨rfl, sees⟩, ?_⟩, st'', unbound, ?_, ?_, ?_⟩
  · exact (shows ⟨some 1⟩ "x").2 fun seen => hides seen.2
  · exact (views ⟨some 0⟩).1
  · exact (views ⟨some 1⟩).1
  · exact (views ⟨some 1⟩).2 "y" (by decide)

end Eval

end MiniScheme
