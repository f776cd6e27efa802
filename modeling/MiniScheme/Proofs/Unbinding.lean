import MiniScheme.Proofs.Sharing

/- Unbinding a name along a whole chain. Each frame of the chain loses its first
   binding of the name, so the name is gone from the environment exactly if no
   frame had it twice (`isDefined_unbind`). Frames made by forms have distinct
   names, but a host can make others: `Host` deals with environments directly and
   may put any names in front of one. What it makes has older parents, so a chain
   passes each frame once (`Path.descending`), and frames with distinct names, if
   the lists it gives have distinct names (`Built.perform`). Main statement: for
   whatever environment a host has made, unbinding is complete exactly if no frame
   of the chain binds the name twice, and so always if the lists are distinct
   (`Runs.unbind_complete_iff`). -/
namespace MiniScheme

/-- Unbinding takes the first of the equal names away. -/
theorem Frame.names_unbind_erase (f : Frame) (name : String) :
    (f.unbind name).names = f.names.erase name := by
  unfold names unbind unbindIn
  induction f.bindings with
  | nil => rfl
  | cons b rest ih =>
    by_cases same : b.1 = name
    · rw [List.eraseP_cons_of_pos (by simpa using same), List.map_cons, same,
        List.erase_cons_head]
    · rw [List.eraseP_cons_of_neg (by simpa using same), List.map_cons, List.map_cons,
        List.erase_cons_tail (by simpa using same), ih]

namespace Store

/-- A frame binds a name more than once. -/
def BindsTwice (s : Store) (i : Nat) (name : String) : Prop :=
  ∃ f, s.frames[i]? = some f ∧ 1 < f.names.count name

/-- Where parents are older, a chain goes on to ever older frames. -/
theorem Path.descending {s : Store}
    (older : ∀ (i : Nat) (f : Frame), s.frames[i]? = some f →
      ∀ j, f.parent.frame? = some j → j < i)
    {env : Env} {is : List Nat} (path : s.Path env is) :
    is.Pairwise (· > ·) ∧ ∀ j ∈ is, ∃ i, env.frame? = some i ∧ j ≤ i := by
  induction path with
  | empty => simp
  | @frame i f above here rest ih =>
    obtain ⟨descending, below⟩ := ih
    have lower : ∀ j ∈ above, j < i := by
      intro j hj
      obtain ⟨p, parent, le⟩ := below j hj
      have := older i f here p parent
      omega
    refine ⟨List.pairwise_cons.mpr ⟨lower, descending⟩, fun j hj => ⟨i, rfl, ?_⟩⟩
    rcases List.mem_cons.mp hj with rfl | hj
    · exact Nat.le_refl j
    · exact Nat.le_of_lt (lower j hj)

theorem isDefined_iff {s : Store} {env : Env} {name : String} :
    s.isDefined env name = true ↔ ∃ i ∈ s.chain env, s.BindsAt i name := by
  rw [isDefined_eq, lookup?_eq, List.findSome?_isSome_iff]
  simp only [bindsAt_iff]

/-- Each of the frames loses its first binding of the name. -/
theorem frames_unbindAll (name : String) : ∀ (is : List Nat) (s : Store), is.Nodup → ∀ k : Nat,
    (is.foldl (fun s i => s.modifyFrame i (·.unbind name)) s).frames[k]? =
      if k ∈ is then s.frames[k]?.map (·.unbind name) else s.frames[k]?
  | [], _, _, _ => by simp
  | i :: is, s, distinct, k => by
    obtain ⟨new, distinct⟩ := List.nodup_cons.mp distinct
    rw [List.foldl_cons, frames_unbindAll name is _ distinct k, getElem?_modifyFrame]
    by_cases here : i = k
    · subst here
      simp [new]
    · have other : ¬ k = i := fun same => here same.symm
      simp [here, other]

theorem chain_unbindAll (name : String) (env : Env) : ∀ (is : List Nat) (s : Store),
    (is.foldl (fun s i => s.modifyFrame i (·.unbind name)) s).chain env = s.chain env
  | [], _ => rfl
  | i :: is, s => (chain_unbindAll name env is _).trans (chain_unbind s i name env)

/-- A name is left after unbinding exactly if a frame of the chain had it twice. -/
theorem isDefined_unbind {s : Store} {env : Env} (once : (s.chain env).Nodup) (name : String) :
    (s.unbind env name).isDefined env name = true ↔ ∃ i ∈ s.chain env, s.BindsTwice i name := by
  have left : ∀ i ∈ s.chain env, (s.unbind env name).BindsAt i name ↔ s.BindsTwice i name := by
    intro i hi
    have frame : (s.unbind env name).frames[i]? = s.frames[i]?.map (·.unbind name) := by
      rw [unbind, frames_unbindAll name _ s once i, if_pos hi]
    unfold BindsAt BindsTwice
    rw [frame]
    cases s.frames[i]? with
    | none => simp
    | some f =>
      simp only [Option.map_some, Option.some.injEq, exists_eq_left', f.names_unbind_erase,
        ← List.count_pos_iff, List.count_erase_self]
      omega
  rw [isDefined_iff, unbind, chain_unbindAll]
  constructor
  · intro ⟨i, hi, binds⟩
    exact ⟨i, hi, (left i hi).mp binds⟩
  · intro ⟨i, hi, twice⟩
    exact ⟨i, hi, (left i hi).mpr twice⟩

end Store

/-- A host that deals with environments directly: the state, and the environments that it has got,
    latest first. -/
structure Host where
  state : State
  envs : List Env

/-- What a host can do with environments. -/
inductive HostCall where
  | empty
  /-- One frame without bindings. -/
  | newGlobal
  /-- One frame with the given bindings. -/
  | globalWith (bindings : List (String × Value))
  /-- A frame with any names in front of an environment. -/
  | extend (env : Env) (names : List String) (values : List Value)
  | define (env : Env) (name : String) (value : Value)
  | set (env : Env) (name : String) (value : Value)
  | unbind (env : Env) (name : String)
  | unbindLocally (env : Env) (name : String)

namespace Host

/-- A host before it has made an environment. -/
def start : Host := ⟨⟨.empty, "", #[]⟩, []⟩

/-- Keeps the environment that a call gives. -/
def take (h : Host) : EStateM.Result Error State Env → Host
  | .ok env st => ⟨st, env :: h.envs⟩
  | .error _ st => { h with state := st }

/-- Goes on after a call that gives no environment. -/
def leave {α : Type} (h : Host) (ended : EStateM.Result Error State α) : Host :=
  { h with state := Eval.leaves ended }

/-- The host after a call. -/
def perform (h : Host) : HostCall → Host
  | .empty => { h with envs := .empty :: h.envs }
  | .newGlobal => h.take (Eval.push (Frame.empty .empty) h.state)
  | .globalWith bindings => h.take (Eval.push (Frame.ofBindings .empty bindings) h.state)
  | .extend env names values => h.take (Eval.extend env names values h.state)
  | .define env name value => h.leave (Eval.define env name value h.state)
  | .set env name value => h.leave (Eval.assign env name value h.state)
  | .unbind env name => h.leave (Eval.unbind env name h.state)
  | .unbindLocally env name => h.leave (Eval.unbindLocally env name h.state)

/-- A host uses the environments it has got; it puts the `lists` of names into new frames. -/
def Permits (h : Host) (lists : List String → Prop) : HostCall → Prop
  | .empty | .newGlobal | .globalWith _ => True
  | .extend env names _ => env ∈ h.envs ∧ lists names
  | .define env _ _ | .set env _ _ | .unbind env _ | .unbindLocally env _ => env ∈ h.envs

/-- The second host is the first after some calls, whatever their outcomes. -/
inductive Runs (lists : List String → Prop) (a : Host) : Host → Prop
  | done : Runs lists a a
  | next {b : Host} (call : HostCall) (before : Runs lists a b) (permitted : b.Permits lists call) :
      Runs lists a (b.perform call)

end Host

/-- Frames have older parents, and bind each name once if names are distinct. -/
def Policy.layered (distinct : Prop) : Policy where
  known := 0
  frame i f := (∀ j, f.parent.frame? = some j → j < i) ∧ (distinct → f.names.Nodup)
  env := Policy.ordered.env
  procedure _ _ := True
  code _ _ := True
  env_mono := Policy.ordered.env_mono
  procedure_mono _ _ := trivial
  code_mono _ _ := trivial

namespace Host

/-- What holds of a host between calls. -/
structure Built (distinct : Prop) (h : Host) : Prop where
  store : (Policy.layered distinct).Upheld h.state.store
  envs : ∀ env ∈ h.envs, (Policy.layered distinct).env h.state.store.frames.size env

section
variable {distinct : Prop}

theorem layered_modifyFrame {s : Store} (upheld : (Policy.layered distinct).Upheld s) (i : Nat)
    {change : Frame → Frame} (parent : ∀ f, (change f).parent = f.parent)
    (names : ∀ f, f.names.Nodup → (change f).names.Nodup) :
    s.Grows (s.modifyFrame i change) ∧ (Policy.layered distinct).Upheld (s.modifyFrame i change) := by
  refine ⟨.modifyFrame s i parent, upheld.modifyFrame i ?_ fun _ _ _ => .inr fun _ _ => trivial⟩
  intro f ⟨older, once⟩
  refine ⟨?_, fun all => names f (once all)⟩
  rw [parent f]
  exact older

theorem layered_bind {s : Store} (upheld : (Policy.layered distinct).Upheld s) (i : Nat)
    (name : String) (v : Value) :
    let s' := s.modifyFrame i (·.bind name v)
    s.Grows s' ∧ (Policy.layered distinct).Upheld s' :=
  layered_modifyFrame upheld i (fun _ => rfl) fun _ once => Frame.nodup_names_bind once name v

theorem layered_unbind {s : Store} (upheld : (Policy.layered distinct).Upheld s) (i : Nat)
    (name : String) :
    let s' := s.modifyFrame i (·.unbind name)
    s.Grows s' ∧ (Policy.layered distinct).Upheld s' :=
  layered_modifyFrame upheld i (fun _ => rfl) fun f once =>
    once.sublist (Frame.names_unbind_sublist f name)

theorem layered_unbindAll (name : String) : ∀ (is : List Nat) {s : Store},
    (Policy.layered distinct).Upheld s →
    let s' := is.foldl (fun s i => s.modifyFrame i (·.unbind name)) s
    s.Grows s' ∧ (Policy.layered distinct).Upheld s'
  | [], s, upheld => ⟨.refl s, upheld⟩
  | i :: is, s, upheld => by
    obtain ⟨first, upheld⟩ := layered_unbind upheld i name
    obtain ⟨others, upheld⟩ := layered_unbindAll name is upheld
    exact ⟨first.trans others, upheld⟩

variable {h : Host} (built : h.Built distinct)
include built

/-- A call that changes frames as they may change. -/
theorem Built.leave {st : State}
    (kept : h.state.store.Grows st.store ∧ (Policy.layered distinct).Upheld st.store) :
    ({ h with state := st } : Host).Built distinct where
  store := kept.2
  envs env got := (Policy.layered distinct).env_mono kept.1.size (built.envs env got)

/-- A call that changes frames, or is refused. -/
theorem Built.attempt {f : Store → Except Error Store}
    (keeps : ∀ s, f h.state.store = .ok s →
      h.state.store.Grows s ∧ (Policy.layered distinct).Upheld s) :
    (h.leave (Eval.attempt f h.state)).Built distinct := by
  cases done : f h.state.store with
  | ok s =>
    rw [Eval.attempt_of_ok done]
    exact built.leave (keeps s done)
  | error e =>
    rw [Eval.attempt_of_error done]
    exact built

/-- A call that makes an environment with a new frame. -/
theorem Built.push {f : Frame}
    (frame : (Policy.layered distinct).frame h.state.store.frames.size f) :
    (h.take (Eval.push f h.state)).Built distinct := by
  have upheld := built.store.push frame fun _ _ _ _ => trivial
  have grows := Store.Grows.push h.state.store f
  refine ⟨upheld, List.forall_mem_cons.mpr ⟨?_, fun env got => ?_⟩⟩
  · intro i hi
    have size := h.state.store.size_push f
    have new : h.state.store.frames.size = i := Option.some.inj hi
    show i < (h.state.store.push f).2.frames.size
    omega
  · exact (Policy.layered distinct).env_mono grows.size (built.envs env got)

end

/-- Calls keep what holds of a host, if lists of names are distinct where frames are to be. -/
theorem Built.perform {lists : List String → Prop} {h : Host}
    (built : h.Built (∀ names, lists names → names.Nodup)) (call : HostCall)
    (permitted : h.Permits lists call) :
    (h.perform call).Built (∀ names, lists names → names.Nodup) := by
  cases call with
  | empty =>
    refine ⟨built.store, List.forall_mem_cons.mpr ⟨?_, built.envs⟩⟩
    intro i none
    cases none
  | newGlobal =>
    refine built.push ⟨?_, fun _ => List.nodup_nil⟩
    intro j none
    cases none
  | globalWith bindings =>
    refine built.push ⟨fun j parent => ?_, fun _ => Frame.nodup_names_ofBindings .empty bindings⟩
    rw [Frame.parent_ofBindings] at parent
    cases parent
  | extend env names values =>
    obtain ⟨got, listed⟩ := permitted
    by_cases fits : names.length = values.length
    · have made : Eval.extend env names values h.state =
          Eval.push ⟨names.zip values, env⟩ h.state := by
        simp only [Eval.extend, Store.extend, if_pos fits, Eval.push]
      show (h.take (Eval.extend env names values h.state)).Built _
      rw [made]
      refine built.push ⟨built.envs env got, fun distinct => ?_⟩
      show ((names.zip values).map (·.1)).Nodup
      rw [List.map_fst_zip (Nat.le_of_eq fits)]
      exact distinct names listed
    · have refused : Eval.extend env names values h.state =
          .error (.arity names.length values.length) h.state := by
        simp only [Eval.extend, Store.extend, if_neg fits]
      show (h.take (Eval.extend env names values h.state)).Built _
      rw [refused]
      exact built
  | define env name value =>
    refine built.attempt fun s done => ?_
    unfold Store.define at done
    split at done
    · cases done
      exact layered_bind built.store _ name value
    · cases done
  | set env name value =>
    refine built.attempt fun s done => ?_
    unfold Store.set at done
    split at done
    · cases done
      exact layered_bind built.store _ name value
    · cases done
  | unbind env name => exact built.leave (layered_unbindAll name _ built.store)
  | unbindLocally env name =>
    refine built.leave ?_
    show h.state.store.Grows (h.state.store.unbindLocally env name) ∧
      (Policy.layered _).Upheld (h.state.store.unbindLocally env name)
    unfold Store.unbindLocally
    split
    · exact layered_unbind built.store _ name
    · exact ⟨.refl _, built.store⟩

theorem Built.runs {lists : List String → Prop} {a b : Host}
    (built : a.Built (∀ names, lists names → names.Nodup)) (run : a.Runs lists b) :
    b.Built (∀ names, lists names → names.Nodup) := by
  induction run with
  | done => exact built
  | next call _ permitted ih => exact ih.perform call permitted

theorem built_start (distinct : Prop) : start.Built distinct where
  store := ⟨Nat.zero_le _, fun i f hf => by simp [start, Store.empty] at hf, fun _ _ => trivial⟩
  envs env got := by cases got

/-- A chain of an environment that a host has got passes each frame once. -/
theorem Built.nodup_chain {distinct : Prop} {h : Host} (built : h.Built distinct) {env : Env}
    (got : env ∈ h.envs) : (h.state.store.chain env).Nodup := by
  have older := fun i f hf => (built.store.frames i f hf).1
  have allocated := built.envs env got
  obtain ⟨path, -⟩ := Store.path_chain older fun i hi => ⟨allocated i hi, allocated i hi⟩
  exact (path.descending older).1.imp fun gt same => Nat.ne_of_gt gt same

end Host

namespace Eval

/-- Nothing is left of a variable: it is not defined, it cannot be looked up, and unbinding it
    removes nothing. -/
def Gone (env : Env) (name : String) (st : State) : Prop :=
  ask (·.isDefined env name) st = .ok false st ∧ lookup env name st = .error (.unbound name) st ∧
    ∃ st', unbind env name st = .ok false st'

theorem gone_iff {env : Env} {name : String} {st : State} :
    Gone env name st ↔ st.store.isDefined env name = false := by
  constructor
  · intro ⟨asked, _, _⟩
    have answer : ask (·.isDefined env name) st = .ok (st.store.isDefined env name) st := rfl
    rw [answer] at asked
    exact (EStateM.Result.ok.inj asked).1
  · intro undefined
    have none : st.store.lookup? env name = none := by
      simpa [Store.isDefined_eq] using undefined
    refine ⟨congrArg (EStateM.Result.ok · st) undefined, ?_, { st with store := _ },
      congrArg (EStateM.Result.ok · _) undefined⟩
    have asked : ask (·.lookup? env name) st = .ok (st.store.lookup? env name) st := rfl
    unfold lookup
    simp only [bind, EStateM.bind, asked, none]
    rfl

end Eval

/-- What a host has made of environments by any calls, unbinding a name in one of them leaves
    nothing of it exactly if no frame of the chain binds the name twice. If the host gives only
    lists of distinct names, unbinding is always complete. -/
theorem Host.Runs.unbind_complete_iff {lists : List String → Prop} {h : Host}
    (run : Host.start.Runs lists h) {env : Env} (got : env ∈ h.envs) (name : String) :
    ∃ st', Eval.unbind env name h.state = .ok (h.state.store.isDefined env name) st' ∧
      (Eval.Gone env name st' ↔
        ∀ i ∈ h.state.store.chain env, ¬ h.state.store.BindsTwice i name) ∧
      ((∀ names, lists names → names.Nodup) → Eval.Gone env name st') := by
  have built := (Host.built_start _).runs run
  have left := Store.isDefined_unbind (built.nodup_chain got) name
  have complete : (h.state.store.unbind env name).isDefined env name = false ↔
      ∀ i ∈ h.state.store.chain env, ¬ h.state.store.BindsTwice i name := by
    rw [← Bool.not_eq_true, left]
    simp
  refine ⟨{ h.state with store := h.state.store.unbind env name }, rfl, ?_, fun distinct => ?_⟩
  · rw [Eval.gone_iff]
    exact complete
  · rw [Eval.gone_iff]
    refine complete.mpr fun i _ ⟨f, here, twice⟩ => ?_
    have once := (built.store.frames i f here).2 distinct
    have := List.nodup_iff_count.mp once name
    omega

/-- A variable is unbound through an inner frame that hides it, and is gone from both frames. -/
theorem Host.Runs.unbind_complete_iff_hidden :
    let made := Host.start.perform .newGlobal
    let outer := made.perform (.define ⟨some 0⟩ "x" (.number 1))
    let h := outer.perform (.extend ⟨some 0⟩ ["x", "y"] [.number 2, .number 3])
    Host.start.Runs List.Nodup h ∧ (⟨some 1⟩ : Env) ∈ h.envs ∧
      ∃ st', Eval.unbind ⟨some 1⟩ "x" h.state = .ok true st' ∧ Eval.Gone ⟨some 1⟩ "x" st' ∧
        Eval.Gone ⟨some 0⟩ "x" st' ∧ st'.store.lookup? ⟨some 1⟩ "y" = some (.number 3) := by
  intro made outer h
  have first : Host.start.Runs List.Nodup made := .next .newGlobal .done trivial
  have second : Host.start.Runs List.Nodup outer :=
    .next (.define ⟨some 0⟩ "x" (.number 1)) first List.mem_cons_self
  have run : Host.start.Runs List.Nodup h :=
    .next (.extend ⟨some 0⟩ ["x", "y"] [.number 2, .number 3]) second
      ⟨List.mem_cons_self, by decide⟩
  have got : (⟨some 1⟩ : Env) ∈ h.envs := List.mem_cons_self
  obtain ⟨st', done, -, complete⟩ := run.unbind_complete_iff got "x"
  have after : Eval.unbind ⟨some 1⟩ "x" h.state = .ok true _ := rfl
  obtain ⟨-, rfl⟩ := EStateM.Result.ok.inj (done.symm.trans after)
  exact ⟨run, got, _, after, complete fun _ distinct => distinct, Eval.gone_iff.mpr rfl, rfl⟩

/-- A host puts a frame that has one name twice in front of the empty environment. Unbinding the
    name once leaves its second binding. -/
theorem Host.unbind_incomplete :
    let made := Host.start.perform .empty
    let h := made.perform (.extend .empty ["x", "x"] [.number 1, .number 2])
    Host.start.Runs (fun _ => True) h ∧ (⟨some 0⟩ : Env) ∈ h.envs ∧
      ∃ st', Eval.unbind ⟨some 0⟩ "x" h.state = .ok true st' ∧
        st'.store.isDefined ⟨some 0⟩ "x" = true ∧
        Eval.lookup ⟨some 0⟩ "x" st' = .ok (.number 2) st' ∧
        ∃ st'', Eval.unbind ⟨some 0⟩ "x" st' = .ok true st'' := by
  intro made h
  have first : Host.start.Runs (fun _ => True) made := .next .empty .done trivial
  have run : Host.start.Runs (fun _ => True) h :=
    .next (.extend .empty ["x", "x"] [.number 1, .number 2]) first ⟨List.mem_cons_self, trivial⟩
  exact ⟨run, List.mem_cons_self, _, rfl, rfl, rfl, _, rfl⟩

end MiniScheme
