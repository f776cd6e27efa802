import MiniScheme.Proofs.Agreement
import MiniScheme.Proofs.Readable
import MiniScheme.Value.Closure

/- Policies: what the frames of a store may be like one by one, and what may be
   evaluated, stored and closed over. Every policy is a discipline, under which
   frames are only added and keep their parents (`Policy.discipline`). Main
   statement: an interpreter respects the discipline if the policy allows the few
   things that forms do to frames and procedures (`Policy.Allows.observes`,
   `Policy.Lawful.respects`). Of a liberal policy, which looks at an expression
   only for the procedures inside, less has to be shown (`Policy.Liberal.lawful`). -/
namespace MiniScheme

/-- The procedures that the function gives are among those in its arguments. -/
def HostFunction.MakesNoProcedures (f : HostFunction) : Prop :=
  ∀ args v, f.run args = .ok v → ∀ p ∈ v.closures, p ∈ Value.closuresAll args

/-- Frames are only added, and keep their parents. -/
def Store.Grows (a b : Store) : Prop :=
  ∀ (i : Nat) (f : Frame), a.frames[i]? = some f → ∃ g, b.frames[i]? = some g ∧ g.parent = f.parent

namespace Store

theorem Grows.refl (s : Store) : s.Grows s := fun _ f hf => ⟨f, hf, rfl⟩

theorem Grows.trans {a b c : Store} (h : a.Grows b) (h' : b.Grows c) : a.Grows c := by
  intro i f hf
  obtain ⟨g, hg, same⟩ := h i f hf
  obtain ⟨k, hk, same'⟩ := h' i g hg
  exact ⟨k, hk, same'.trans same⟩

theorem Grows.size {a b : Store} (h : a.Grows b) : a.frames.size ≤ b.frames.size := by
  apply Nat.le_of_not_lt
  intro less
  obtain ⟨g, hg, -⟩ := h b.frames.size _ (Array.getElem?_eq_getElem less)
  obtain ⟨beyond, -⟩ := Array.getElem?_eq_some_iff.mp hg
  exact Nat.lt_irrefl _ beyond

theorem Grows.modifyFrame (s : Store) (i : Nat) {change : Frame → Frame}
    (parent : ∀ f, (change f).parent = f.parent) : s.Grows (s.modifyFrame i change) := by
  intro k f hf
  rw [getElem?_modifyFrame, hf]
  by_cases same : i = k
  · rw [if_pos same]
    exact ⟨change f, rfl, parent f⟩
  · rw [if_neg same]
    exact ⟨f, rfl, rfl⟩

theorem Grows.push (s : Store) (f : Frame) : s.Grows (s.push f).2 := by
  intro k g hg
  have known : k < s.frames.size := (Array.getElem?_eq_some_iff.mp hg).1
  rw [getElem?_push, if_neg (Nat.ne_of_lt known)]
  exact ⟨g, hg, rfl⟩

/-- The store holds the procedures inside the value of a variable. -/
theorem holds_of_lookup? {s : Store} {env : Env} {name : String} {v : Value} {p : Closure}
    (found : s.lookup? env name = some v) (hp : p ∈ v.closures) : s.Holds p := by
  obtain ⟨f, hf, hv⟩ := List.exists_of_findSome?_eq_some found
  obtain ⟨i, -, hf⟩ := List.mem_filterMap.mp hf
  exact ⟨i, f, hf, v, Frame.mem_values_of_get? hv, hp⟩

end Store

/-- What stores may be like. Environments, procedures and expressions are judged by the number of
    frames there are, and stay allowed when there are more. -/
structure Policy where
  /-- So many frames there are at least. -/
  known : Nat
  /-- The frame may stand under the number. -/
  frame : Nat → Frame → Prop
  env : Nat → Env → Prop
  /-- The procedure may be held. -/
  procedure : Nat → Closure → Prop
  /-- The expression may be evaluated. -/
  code : Nat → Value → Prop
  env_mono : ∀ {n m e}, n ≤ m → env n e → env m e
  procedure_mono : ∀ {n m p}, n ≤ m → procedure n p → procedure m p
  code_mono : ∀ {n m v}, n ≤ m → code n v → code m v

namespace Policy

/-- The procedures inside a value are allowed. -/
def Admits (P : Policy) (n : Nat) (v : Value) : Prop := ∀ p ∈ v.closures, P.procedure n p

/-- A store as the policy wants it. -/
structure Upheld (P : Policy) (s : Store) : Prop where
  known : P.known ≤ s.frames.size
  frames : ∀ (i : Nat) (f : Frame), s.frames[i]? = some f → P.frame i f
  held : ∀ p, s.Holds p → P.procedure s.frames.size p

theorem Admits.mono {P : Policy} {n m : Nat} {v : Value} (le : n ≤ m) (h : P.Admits n v) :
    P.Admits m v :=
  fun p hp => P.procedure_mono le (h p hp)

/-- The discipline of keeping to a policy. -/
def discipline (P : Policy) : Discipline where
  later := Store.Grows
  store := P.Upheld
  env s := P.env s.frames.size
  expr s := P.code s.frames.size
  value s := P.Admits s.frames.size
  excused _ := False
  later_refl := Store.Grows.refl
  later_trans := Store.Grows.trans
  env_later h := P.env_mono h.size
  expr_later h := P.code_mono h.size
  value_later h := Admits.mono h.size

/-- What a policy allows an interpreter with its forms, sources and host functions, clauses without
    an `else` apart. -/
structure Allows (P : Policy) (interp : Interp) : Prop where
  bind : ∀ {i f name} v, interp.forms.contains name = false → P.frame i f →
    P.frame i (f.bind name v)
  unbind : ∀ {i f} name, P.frame i f → P.frame i (f.unbind name)
  /-- The frame of a call. -/
  call : ∀ {n p args}, P.known ≤ n → P.procedure n p → p.params.length = args.length →
    P.frame n ⟨p.params.zip args, p.env⟩
  inner : ∀ n, P.env (n + 1) ⟨some n⟩
  /-- Closing over an environment. -/
  close : ∀ {n identity env params body names}, P.env n env → P.code n params →
    (∀ e ∈ body, P.code n e) → Form.signature interp.forms.contains params body = .ok names →
    P.procedure n ⟨identity, names, body, env⟩
  items : ∀ {n vs}, P.code n (.list vs) ↔ ∀ v ∈ vs, P.code n v
  codeIf : ∀ n, P.code n (.symbol "if")
  codeBegin : ∀ n, P.code n (.symbol "begin")
  /-- Expressions are data. -/
  data : ∀ {n v}, P.code n v → P.Admits n v
  /-- The body of an allowed procedure. -/
  body : ∀ {n p}, P.procedure n p → (∀ e ∈ p.body, P.Admits n e) → ∀ e ∈ p.body, P.code n e
  read : ∀ {n location items v}, interp.loader.items location = .ok items → .ok v ∈ items →
    P.code n v
  host : ∀ {n} {f : HostFunction} {args v}, f ∈ interp.hosts → f.run args = .ok v →
    (∀ a ∈ args, P.Admits n a) → P.Admits n v

/-- What a policy allows an interpreter: the value that clauses without an `else` end in may be
    evaluated, too. -/
structure Lawful (P : Policy) (interp : Interp) : Prop extends P.Allows interp where
  codeUnspecified : ∀ n, P.code n .unspecified

/-- Every expression may be evaluated if the procedures inside are allowed. -/
def Liberal (P : Policy) : Prop := ∀ n v, P.code n v ↔ P.Admits n v

theorem admits_list {P : Policy} {n : Nat} {vs : List Value} :
    P.Admits n (.list vs) ↔ ∀ v ∈ vs, P.Admits n v := by
  constructor
  · exact fun h v hv p hp => h p (Value.mem_closures_list.mpr ⟨v, hv, hp⟩)
  · intro h p hp
    obtain ⟨v, hv, hp⟩ := Value.mem_closures_list.mp hp
    exact h v hv p hp

theorem admits_of_readable {P : Policy} {n : Nat} {v : Value} (h : v.readable = true) :
    P.Admits n v := by
  intro p hp
  rw [Value.closures_of_readable h] at hp
  cases hp

theorem admits_of_isAtom {P : Policy} {n : Nat} {v : Value} (h : v.isAtom = true) :
    P.Admits n v := by
  intro p hp
  cases v with
  | list | procedure => cases h
  | _ => cases hp

/-- What a liberal policy has to allow: binding names that are no tags, unbinding, calls, and
    closing over an environment with distinct parameters that are no tags and a body. -/
theorem Liberal.lawful {P : Policy} (liberal : P.Liberal) {interp : Interp}
    (hosts : ∀ f ∈ interp.hosts, f.MakesNoProcedures)
    (bind : ∀ {i f name} v, interp.forms.contains name = false → P.frame i f →
      P.frame i (f.bind name v))
    (unbind : ∀ {i f} name, P.frame i f → P.frame i (f.unbind name))
    (call : ∀ {n p args}, P.known ≤ n → P.procedure n p → p.params.length = args.length →
      P.frame n ⟨p.params.zip args, p.env⟩)
    (inner : ∀ n, P.env (n + 1) ⟨some n⟩)
    (close : ∀ {n identity names body env}, P.env n env → names.Nodup → body ≠ [] →
      (∀ name ∈ names, interp.forms.contains name = false) →
      P.procedure n ⟨identity, names, body, env⟩) : P.Lawful interp where
  bind := bind
  unbind := unbind
  call := call
  inner := inner
  close he _ _ signed := by
    obtain ⟨-, some?, distinct, free⟩ := Form.of_signature signed
    exact close he distinct some? free
  items := by simp only [liberal _ _, admits_list, implies_true]
  codeIf n := (liberal _ _).mpr (admits_of_isAtom rfl)
  codeBegin n := (liberal _ _).mpr (admits_of_isAtom rfl)
  codeUnspecified n := (liberal _ _).mpr (admits_of_isAtom rfl)
  data h := (liberal _ _).mp h
  body _ parts e he := (liberal _ _).mpr (parts e he)
  read opened hv := (liberal _ _).mpr (admits_of_readable (Loader.readable_of_items opened hv))
  host {n f args v} known run ha p hp := by
    obtain ⟨a, hm, hp⟩ := Value.mem_closuresAll.mp (hosts f known args v run p hp)
    exact ha a hm p hp

section
variable {P : Policy} {s : Store}

/-- Changing a frame in a way that the policy allows. -/
theorem Upheld.modifyFrame (kept : P.Upheld s) (i : Nat) {change : Frame → Frame}
    (frame : ∀ f, P.frame i f → P.frame i (change f))
    (values : ∀ f, ∀ v ∈ (change f).values, v ∈ f.values ∨ P.Admits s.frames.size v) :
    P.Upheld (s.modifyFrame i change) := by
  have size := s.size_modifyFrame i change
  have changed : ∀ (k : Nat) (g : Frame), (s.modifyFrame i change).frames[k]? = some g →
      ∃ f, s.frames[k]? = some f ∧ (g = f ∨ i = k ∧ g = change f) := by
    intro k g hg
    rw [Store.getElem?_modifyFrame] at hg
    by_cases same : i = k
    · rw [if_pos same] at hg
      obtain ⟨f, hf, rfl⟩ := Option.map_eq_some_iff.mp hg
      exact ⟨f, hf, .inr ⟨same, rfl⟩⟩
    · rw [if_neg same] at hg
      exact ⟨g, hg, .inl rfl⟩
  refine ⟨by rw [size]; exact kept.known, fun k g hg => ?_, ?_⟩
  · obtain ⟨f, hf, rfl | ⟨rfl, rfl⟩⟩ := changed k g hg
    · exact kept.frames k g hf
    · exact frame f (kept.frames i f hf)
  · rw [size]
    rintro p ⟨k, g, hg, v, hv, hp⟩
    obtain ⟨f, hf, rfl | ⟨rfl, rfl⟩⟩ := changed k g hg
    · exact kept.held p ⟨k, g, hf, v, hv, hp⟩
    · rcases values f v hv with hv | good
      · exact kept.held p ⟨i, f, hf, v, hv, hp⟩
      · exact good p hp

/-- Adding a frame that the policy allows. -/
theorem Upheld.push (kept : P.Upheld s) {f : Frame} (frame : P.frame s.frames.size f)
    (values : ∀ v ∈ f.values, P.Admits s.frames.size v) : P.Upheld (s.push f).2 := by
  have size := s.size_push f
  have more : s.frames.size ≤ (s.push f).2.frames.size := by omega
  refine ⟨Nat.le_trans kept.known more, fun k g hg => ?_, ?_⟩
  · rw [Store.getElem?_push] at hg
    split at hg
    · next new => cases hg; rw [new]; exact frame
    · exact kept.frames k g hg
  · rintro p ⟨k, g, hg, v, hv, hp⟩
    refine P.procedure_mono more ?_
    rw [Store.getElem?_push] at hg
    split at hg
    · cases hg; exact values v hv p hp
    · exact kept.held p ⟨k, g, hg, v, hv, hp⟩

variable {interp : Interp} (L : P.Allows interp)
include L

theorem Allows.upheld_bind (kept : P.Upheld s) (i : Nat) {name : String} {v : Value}
    (good : P.Admits s.frames.size v) (free : interp.forms.contains name = false) :
    P.Upheld (s.modifyFrame i (·.bind name v)) := by
  refine kept.modifyFrame i (fun f hf => L.bind v free hf) fun f w hw => ?_
  rcases Frame.mem_values_bind hw with hw | rfl
  · exact .inl hw
  · exact .inr good

theorem Allows.upheld_unbind (kept : P.Upheld s) (i : Nat) (name : String) :
    P.Upheld (s.modifyFrame i (·.unbind name)) :=
  kept.modifyFrame i (fun _ hf => L.unbind name hf) fun _ _ hw => .inl (Frame.mem_values_unbind hw)

/-- Unbinding a name in one frame after the other. -/
theorem Allows.upheld_unbindAll (name : String) :
    ∀ (is : List Nat) {s : Store}, P.Upheld s →
      let s' := is.foldl (fun s i => s.modifyFrame i (·.unbind name)) s
      s.Grows s' ∧ P.Upheld s'
  | [], s, kept => ⟨.refl s, kept⟩
  | i :: rest, s, kept => by
    obtain ⟨grows, kept'⟩ := upheld_unbindAll name rest (L.upheld_unbind kept i name)
    have first : s.Grows (s.modifyFrame i (·.unbind name)) := .modifyFrame s i fun _ => rfl
    exact ⟨first.trans grows, kept'⟩

/-- The operations of an interpreter keep to a policy that allows them. -/
theorem Allows.observes : P.discipline.Observes interp where
  expr_items h := L.items.mp h
  expr_list h := L.items.mpr h
  expr_if s := L.codeIf _
  expr_begin s := L.codeBegin _
  value_of_expr h := L.data h
  value_atom _ _ atom := admits_of_isAtom atom
  value_items h := admits_list.mp h
  value_list h := admits_list.mpr h
  read opened hv := L.read opened hv
  host known run ha := L.host known run ha
  lookup kept _ found p hp := kept.held p (Store.holds_of_lookup? found hp)
  define {s s' env name v} kept _ hv free done := by
    unfold Store.define at done
    split at done
    · next i _ =>
      cases done
      exact ⟨.modifyFrame s i fun _ => rfl, L.upheld_bind kept i hv free⟩
    · cases done
  set {s s' env name v} kept _ hv free done := by
    unfold Store.set at done
    split at done
    · next i _ =>
      cases done
      exact ⟨.modifyFrame s i fun _ => rfl, L.upheld_bind kept i hv free⟩
    · cases done
  unbindLocally {s env} name kept _ := by
    unfold Store.unbindLocally
    split
    · next i _ => exact ⟨.modifyFrame s i fun _ => rfl, L.upheld_unbind kept i name⟩
    · exact ⟨.refl s, kept⟩
  unbind {s env} name kept _ := L.upheld_unbindAll name (s.chain env) kept
  closure {s env params body names} kept he hp hb hn := by
    refine ⟨.refl s, ⟨kept.known, kept.frames, kept.held⟩, fun p hp' => ?_⟩
    -- the closure itself, and those that stand in its body
    rcases List.mem_cons.mp hp' with rfl | inside
    · exact L.close he hp hb hn
    · obtain ⟨e, he, hp⟩ := Value.mem_closuresAll.mp inside
      exact L.data (hb e he) p hp
  call {s identity params body env args} kept hf ha fits := by
    have self : P.procedure s.frames.size ⟨identity, params, body, env⟩ := hf _ List.mem_cons_self
    have parts : ∀ e ∈ body, P.Admits s.frames.size e :=
      fun e he p hp => hf p (List.mem_cons_of_mem _ (Value.mem_closuresAll.mpr ⟨e, he, hp⟩))
    have size := s.size_push ⟨params.zip args, env⟩
    -- the new frame holds arguments, and the body is judged with one more frame
    refine ⟨.push s _, kept.push (L.call kept.known self fits) fun v hv => ?_, ?_, fun e he => ?_⟩
    · obtain ⟨b, hb, rfl⟩ := List.mem_map.mp hv
      exact ha b.2 (List.of_mem_zip hb).2
    · show P.env (s.push ⟨params.zip args, env⟩).2.frames.size _
      rw [size]
      exact L.inner _
    · refine P.code_mono ?_ (L.body self parts e he)
      show s.frames.size ≤ (s.push ⟨params.zip args, env⟩).2.frames.size
      omega

omit L in
theorem Lawful.respects (L : P.Lawful interp) : P.discipline.Respects interp :=
  ⟨L.observes, fun _ => L.codeUnspecified _⟩

end

end Policy

end MiniScheme
