import MiniScheme.Proofs.Keeping
import MiniScheme.Proofs.Policy

/- Clients: programs that use an interpreter from outside. A client starts with a
   fresh interpreter, makes calls one after the other and keeps what they give; a
   call that fails keeps the changes made before the error. `Runs` are the
   sequences of calls of a client that makes no procedures of its own: it
   evaluates expressions and applies procedures that it has read, found in the
   store or been given, in environments that it can have come by. Main statement:
   a call keeps every policy that the handlers keep and that allows what the
   interpreter does, and adds at most a function or a form to the interpreter
   (`Within.perform`). -/
namespace MiniScheme

/-- A fresh interpreter has one frame. -/
theorem Interp.frame_of_initialState {i : Nat} {f : Frame}
    (hf : initialState.store.frames[i]? = some f) :
    i = 0 ∧ f = Frame.ofBindings .empty initialBindings := by
  unfold initialState at hf
  rw [Store.getElem?_push] at hf
  split at hf
  · next first => exact ⟨first, (Option.some.inj hf).symm⟩
  · simp [Store.empty] at hf

/-- A fresh interpreter has no procedures but primitives. -/
theorem Interp.not_holds_initialState (p : Closure) : ¬ initialState.store.Holds p := by
  rintro ⟨i, f, hf, v, hv, hp⟩
  obtain ⟨-, rfl⟩ := frame_of_initialState hf
  have bound := Frame.mem_values_ofBindings hv
  simp only [initialBindings, List.map_map, List.mem_map] at bound
  obtain ⟨op, -, rfl⟩ := bound
  cases hp

/-- An interpreter in use, its state, and the values that it has given, latest first. -/
structure Client where
  interp : Interp
  state : State
  received : List Value

/-- What can be asked of an interpreter. A source is loaded by evaluating a `load`. -/
inductive Call where
  | eval (expr : Value)
  | evalText (text : String)
  | evaluate (expr : Value) (env : Env)
  | apply (operator : Value) (args : List Value)
  | install (name : String) (function : HostFunction)
  | register (tag : String) (handler : Handler)

namespace Client

/-- A client that has not made any call. -/
def start (loader : Loader) (sink : Sink) (limit : Nat) : Client where
  interp := Interp.fresh loader sink limit
  state := Interp.initialState
  received := []

/-- Keeps the value that a call gives. -/
def take (c : Client) : EStateM.Result Error State Value → Client
  | .ok v st => { c with state := st, received := v :: c.received }
  | .error _ st => { c with state := st }

/-- Goes on with the interpreter that a call gives. -/
def adopt (c : Client) : EStateM.Result Error State Interp → Client
  | .ok interp st => { c with interp := interp, state := st }
  | .error _ st => { c with state := st }

/-- The client after a call. -/
def perform (c : Client) : Call → Client
  | .eval expr => c.take (c.interp.eval expr c.state)
  | .evalText text => c.take (c.interp.evalText text c.state)
  | .evaluate expr env => c.take (c.interp.evalIn expr env c.state)
  | .apply operator args => c.take (c.interp.apply operator args c.state)
  | .install name function => c.adopt (c.interp.install name function c.state)
  | .register tag handler => c.adopt (c.interp.registerForm tag handler c.state)

/-- The client can get at the procedure. -/
def Holds (c : Client) (p : Closure) : Prop :=
  c.state.store.Holds p ∨ p ∈ Value.closuresAll c.received

/-- The client can get at the procedures inside the value. What was read has none inside. -/
def Has (c : Client) (v : Value) : Prop := ∀ p ∈ v.closures, c.Holds p

/-- The client can have come by the environment: the empty one, the global one, one that a
    procedure closes over, or another one that some evaluation ran in. -/
def Reaches (c : Client) (env : Env) : Prop :=
  env = .empty ∨ env = c.interp.global ∨ (∃ p, c.Holds p ∧ env = p.env) ∨
    ∃ i, i < c.state.store.frames.size ∧ env = ⟨some i⟩

/-- What a client may ask for; of handlers it registers the `registrable` ones. -/
def Permits (c : Client) (registrable : Handler → Prop) : Call → Prop
  | .eval expr => c.Has expr
  | .evalText _ => True
  | .evaluate expr env => c.Has expr ∧ c.Reaches env
  | .apply operator args => c.Has operator ∧ ∀ a ∈ args, c.Has a
  | .install _ function => function.MakesNoProcedures
  | .register _ handler => registrable handler

/-- The second client is the first after some calls, whatever their outcomes. -/
inductive Runs (registrable : Handler → Prop) (a : Client) : Client → Prop
  | done : Runs registrable a a
  | next {b : Client} (call : Call) (before : Runs registrable a b)
      (permitted : b.Permits registrable call) : Runs registrable a (b.perform call)

theorem has_of_closures {c : Client} {v : Value} (none : v.closures = []) : c.Has v := by
  intro p hp
  rw [none] at hp
  cases hp

theorem has_of_lookup? {c : Client} {env : Env} {name : String} {v : Value}
    (found : c.state.store.lookup? env name = some v) : c.Has v :=
  fun _ hp => .inl (Store.holds_of_lookup? found hp)

/-- What a call can do to the interpreter of a client: at most it adds a function, or a form under
    a tag that was free. -/
structure Extended (registrable : Handler → Prop) (c after : Client) : Prop where
  global : after.interp.global = c.interp.global
  hosts : ∀ f ∈ after.interp.hosts, f ∈ c.interp.hosts ∨ f.MakesNoProcedures
  forms : after.interp.forms = c.interp.forms ∨ ∃ tag handler, registrable handler ∧
    after.state.store.isDefined c.interp.global tag = false ∧
    c.interp.forms.insert tag handler = .ok after.interp.forms

section
variable {registrable : Handler → Prop} {c after : Client}

theorem Extended.of_same (same : after.interp = c.interp) : c.Extended registrable after := by
  refine ⟨by rw [same], fun f known => .inl ?_, .inl (by rw [same])⟩
  rw [same] at known
  exact known

theorem Extended.of_installed {function : HostFunction} (plain : function.MakesNoProcedures)
    (same : after.interp = { c.interp with hosts := c.interp.hosts.push function }) :
    c.Extended registrable after := by
  refine ⟨by rw [same], fun f known => ?_, .inl (by rw [same])⟩
  rw [same] at known
  rcases Array.mem_push.mp known with known | rfl
  · exact .inl known
  · exact .inr plain

theorem Extended.of_registered {tag : String} {handler : Handler} {forms : Registry}
    (allowed : registrable handler)
    (free : after.state.store.isDefined c.interp.global tag = false)
    (added : c.interp.forms.insert tag handler = .ok forms)
    (same : after.interp = { c.interp with forms := forms }) : c.Extended registrable after := by
  refine ⟨by rw [same], fun f known => .inl ?_, .inr ⟨tag, handler, allowed, free, ?_⟩⟩
  · rw [same] at known
    exact known
  · rw [same]
    exact added

end

/-- The store of a client, and all that the client was given, are as a policy wants them. -/
structure Within (P : Policy) (c : Client) : Prop where
  store : P.Upheld c.state.store
  received : ∀ v ∈ c.received, P.Admits c.state.store.frames.size v

section
variable {P : Policy} {c : Client} (W : c.Within P)
include W

theorem Within.procedure {p : Closure} (h : c.Holds p) :
    P.procedure c.state.store.frames.size p := by
  rcases h with held | given
  · exact W.store.held p held
  · obtain ⟨v, hv, hp⟩ := Value.mem_closuresAll.mp given
    exact W.received v hv p hp

theorem Within.admits {v : Value} (h : c.Has v) : P.Admits c.state.store.frames.size v :=
  fun p hp => W.procedure (h p hp)

/-- Calls that give a value. -/
theorem Within.take {x : Eval Value}
    (keeps : P.discipline.Agree c.state.store P.discipline.value x x) :
    let after := c.take (x c.state)
    c.state.store.Grows after.state.store ∧ after.Within P ∧ after.interp = c.interp := by
  obtain ⟨grows, kept, good⟩ := (keeps c.state rfl W.store).keeps fun _ h => h
  have earlier : ∀ v ∈ c.received, P.Admits (Eval.leaves (x c.state)).store.frames.size v :=
    fun v hv => (W.received v hv).mono grows.size
  cases ended : x c.state with
  | error e st =>
    rw [ended] at grows kept earlier
    exact ⟨grows, ⟨kept, earlier⟩, rfl⟩
  | ok v st =>
    rw [ended] at grows kept earlier
    exact ⟨grows, ⟨kept, List.forall_mem_cons.mpr ⟨good v st ended, earlier⟩⟩, rfl⟩

/-- Calls that give an interpreter. -/
theorem Within.adopt {post : Store → Interp → Prop} {x : Eval Interp}
    (keeps : P.discipline.Agree c.state.store post x x) :
    let after := c.adopt (x c.state)
    c.state.store.Grows after.state.store ∧ after.Within P ∧
      (after.interp = c.interp ∨ post after.state.store after.interp) := by
  obtain ⟨grows, kept, good⟩ := (keeps c.state rfl W.store).keeps fun _ h => h
  have earlier : ∀ v ∈ c.received, P.Admits (Eval.leaves (x c.state)).store.frames.size v :=
    fun v hv => (W.received v hv).mono grows.size
  cases ended : x c.state with
  | error e st =>
    rw [ended] at grows kept earlier
    exact ⟨grows, ⟨kept, earlier⟩, .inl rfl⟩
  | ok interp st =>
    rw [ended] at grows kept earlier
    exact ⟨grows, ⟨kept, earlier⟩, .inr (good interp st ended)⟩

/-- A call adds frames and keeps to a policy, and may extend the interpreter. -/
theorem Within.perform {registrable : Handler → Prop} (liberal : P.Liberal)
    (lawful : P.Lawful c.interp)
    (handlers : ∀ form ∈ c.interp.forms.forms, P.discipline.HandlerKeeps c.interp form.handler)
    (reached : ∀ env, c.Reaches env → P.env c.state.store.frames.size env)
    (call : Call) (permitted : c.Permits registrable call) :
    let after := c.perform call
    c.state.store.Grows after.state.store ∧ after.Within P ∧ c.Extended registrable after := by
  have respects := lawful.respects
  have evaluates := Discipline.evalAt_keeps respects handlers
  have global : P.env c.state.store.frames.size c.interp.global := reached _ (.inr (.inl rfl))
  have code : ∀ {v}, c.Has v → P.code c.state.store.frames.size v :=
    fun h => (liberal _ _).mpr (W.admits h)
  cases call with
  | eval expr =>
    have keeps := evaluates 0 c.state.store expr _ global (code permitted)
    obtain ⟨grows, within, same⟩ := W.take keeps
    exact ⟨grows, within, .of_same same⟩
  | evalText text =>
    have read : ∀ (s : Store) (v : Value), .ok v ∈ Reader.readAll text → P.discipline.expr s v :=
      fun s v hv => (liberal _ _).mpr (Policy.admits_of_readable (Reader.readable_of_readAll hv))
    have keeps := Discipline.evalText_keeps respects handlers text global read
    obtain ⟨grows, within, same⟩ := W.take keeps
    exact ⟨grows, within, .of_same same⟩
  | evaluate expr env =>
    obtain ⟨owned, come⟩ := permitted
    have keeps := evaluates 0 c.state.store expr env (reached env come) (code owned)
    obtain ⟨grows, within, same⟩ := W.take keeps
    exact ⟨grows, within, .of_same same⟩
  | apply operator args =>
    obtain ⟨owned, given⟩ := permitted
    have keeps := Discipline.apply_keeps respects handlers (W.admits owned)
      fun a ha => W.admits (given a ha)
    obtain ⟨grows, within, same⟩ := W.take keeps
    exact ⟨grows, within, .of_same same⟩
  | install name function =>
    have keeps := Discipline.install_keeps respects name function global fun p hp => by cases hp
    obtain ⟨grows, within, same | pushed⟩ := W.adopt keeps
    · exact ⟨grows, within, .of_same same⟩
    · exact ⟨grows, within, .of_installed permitted pushed⟩
  | register tag handler =>
    have keeps := Discipline.registerForm_keeps P.discipline c.interp tag handler c.state.store
    obtain ⟨grows, within, same | ⟨unchanged, free, forms, added, same⟩⟩ := W.adopt keeps
    · exact ⟨grows, within, .of_same same⟩
    · refine ⟨grows, within, .of_registered permitted ?_ added same⟩
      rw [← free, ← unchanged]
      rfl

end

end Client

end MiniScheme
