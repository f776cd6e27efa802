import MiniScheme.Proofs.Readable
import MiniScheme.Store.Basic

/- Which frames a value, a frame and an environment can get at. A value captures
   the frames that the procedures inside it close over; a frame leads to its
   parent and to what its values capture; `Store.Reach` follows these links. Data
   that was read captures nothing (`captures_of_readable`), and the frames of an
   environment's chain are reached from the environment (`mem_chain_of_closed`). -/
namespace MiniScheme

mutual

/-- The frames that the procedures inside a value, at any depth, close over. -/
def Value.captures : Value → List Nat
  | .list items => Value.capturesAll items
  | .procedure _ _ body env => env.frame?.toList ++ Value.capturesAll body
  | .number _ | .symbol _ | .string _ | .bool _ | .primitive _ | .unspecified => []

/-- The frames that the values of a list capture. -/
def Value.capturesAll : List Value → List Nat
  | [] => []
  | v :: rest => v.captures ++ Value.capturesAll rest

end

/-- The frames that a frame leads to: its parent and what its values capture. -/
def Frame.links (f : Frame) : List Nat :=
  f.parent.frame?.toList ++ Value.capturesAll (f.bindings.map (·.2))

/-- The frames reached from some frames by following links. -/
inductive Store.Reach (s : Store) (roots : List Nat) : Nat → Prop
  | root {i : Nat} (h : i ∈ roots) : Reach s roots i
  | link {i j : Nat} {f : Frame} (h : Reach s roots i) (hf : s.frames[i]? = some f)
      (hj : j ∈ f.links) : Reach s roots j

namespace Value

theorem mem_capturesAll {vs : List Value} {i : Nat} :
    i ∈ capturesAll vs ↔ ∃ v ∈ vs, i ∈ v.captures := by
  induction vs with
  | nil => simp [capturesAll]
  | cons v rest ih => simp [capturesAll, ih]

mutual

/-- What a value captures are the environments of the procedures inside it. -/
theorem captures_eq : ∀ v : Value, v.captures = v.closures.flatMap fun p => p.env.frame?.toList
  | .list items => by rw [captures, closures, capturesAll_eq]
  | .procedure _ _ body _ => by rw [captures, closures, capturesAll_eq, List.flatMap_cons]
  | .number _ | .symbol _ | .string _ | .bool _ | .primitive _ | .unspecified => rfl

theorem capturesAll_eq :
    ∀ vs : List Value, capturesAll vs = (closuresAll vs).flatMap fun p => p.env.frame?.toList
  | [] => rfl
  | v :: rest => by
    rw [capturesAll, closuresAll, captures_eq v, capturesAll_eq rest, List.flatMap_append]

end

theorem captures_of_readable {v : Value} (h : v.readable = true) : v.captures = [] := by
  rw [captures_eq, closures_of_readable h]
  rfl

end Value

namespace Frame

theorem mem_links_parent {f : Frame} {i : Nat} (h : f.parent.frame? = some i) : i ∈ f.links := by
  simp [links, h]

theorem mem_links_of_get? {f : Frame} {name : String} {v : Value} {i : Nat}
    (hv : f.get? name = some v) (hi : i ∈ v.captures) : i ∈ f.links :=
  List.mem_append_right _ (Value.mem_capturesAll.mpr ⟨v, mem_values_of_get? hv, hi⟩)

/-- Binding a name adds at most the links of the value. -/
theorem mem_links_bind {f : Frame} {name : String} {v : Value} {i : Nat}
    (h : i ∈ (f.bind name v).links) : i ∈ f.links ∨ i ∈ v.captures := by
  rcases List.mem_append.mp h with h | h
  · exact .inl (List.mem_append_left _ h)
  · obtain ⟨w, hw, hi⟩ := Value.mem_capturesAll.mp h
    rcases mem_values_bind hw with hw | rfl
    · exact .inl (List.mem_append_right _ (Value.mem_capturesAll.mpr ⟨w, hw, hi⟩))
    · exact .inr hi

/-- Unbinding a name adds no link. -/
theorem mem_links_unbind {f : Frame} {name : String} {i : Nat} (h : i ∈ (f.unbind name).links) :
    i ∈ f.links := by
  rcases List.mem_append.mp h with h | h
  · exact List.mem_append_left _ h
  · obtain ⟨v, hv, hi⟩ := Value.mem_capturesAll.mp h
    exact List.mem_append_right _ (Value.mem_capturesAll.mpr ⟨v, mem_values_unbind hv, hi⟩)

/-- The frame of a call leads to what its arguments capture and to the frame around it. -/
theorem mem_links_call {params : List String} {args : List Value} {env : Env} {i : Nat}
    (h : i ∈ (Frame.mk (params.zip args) env).links) :
    env.frame? = some i ∨ ∃ a ∈ args, i ∈ a.captures := by
  rcases List.mem_append.mp h with h | h
  · exact .inl (by simpa using h)
  · obtain ⟨v, hv, hi⟩ := Value.mem_capturesAll.mp h
    obtain ⟨b, hb, rfl⟩ := List.mem_map.mp hv
    exact .inr ⟨b.2, (List.of_mem_zip hb).2, hi⟩

end Frame

namespace Store

/-- What contains the roots and is closed under links contains all that is reached. -/
theorem Reach.of_closed {s : Store} {roots : List Nat} {P : Nat → Prop} (hroots : ∀ i ∈ roots, P i)
    (closed : ∀ i f, P i → s.frames[i]? = some f → ∀ j ∈ f.links, P j) {i : Nat}
    (h : s.Reach roots i) : P i := by
  induction h with
  | root h => exact hroots _ h
  | link _ hf hj ih => exact closed _ _ ih hf _ hj

theorem chainWithin_of_closed {s : Store} {P : Nat → Prop}
    (closed : ∀ i f, P i → s.frames[i]? = some f → ∀ j ∈ f.links, P j) :
    ∀ (bound : Nat) (env : Env), (∀ i, env.frame? = some i → P i) →
      ∀ i ∈ s.chainWithin bound env, P i
  | 0, _, _, i, hi => by cases hi
  | bound + 1, env, he, i, hi => by
    unfold chainWithin at hi
    split at hi
    · cases hi
    · next k hk =>
      split at hi
      · cases hi
      · next f hf =>
        rcases List.mem_cons.mp hi with rfl | hi
        · exact he i hk
        · refine chainWithin_of_closed closed bound f.parent (fun j hj => ?_) i hi
          exact closed k f (he k hk) hf j (Frame.mem_links_parent hj)

/-- The frames of an environment's chain are within every closed set that has the first. -/
theorem mem_chain_of_closed {s : Store} {P : Nat → Prop}
    (closed : ∀ i f, P i → s.frames[i]? = some f → ∀ j ∈ f.links, P j) {env : Env}
    (he : ∀ i, env.frame? = some i → P i) : ∀ i ∈ s.chain env, P i := by
  intro i hi
  unfold chain at hi
  split at hi
  · cases hi
  · exact chainWithin_of_closed closed _ env he i hi

end Store

end MiniScheme
