import MiniScheme.Extension
import MiniScheme.Proofs.Clauses
import MiniScheme.Proofs.Clients

/- Tags and variables stay apart. Four places see to it: `define` and `set!`
   refuse the tags there are, `lambda` refuses them as parameters, `install`
   refuses them as names, and a registration refuses the names of global
   variables. A parameter was no tag when its procedure was made, but may have
   become one when the procedure is called; so a frame other than the global one
   can bind a tag, though never one of a builtin form, which were tags from the
   beginning. This is what `Policy.separate` says, and it is kept by all calls of a
   client that registers handlers which bind names only by evaluating expressions
   (`Separate.perform`). Main statement: `Runs.tags_unbound`. -/
namespace MiniScheme

/-- Frames bind only names of some kind, and procedures are of some kind. -/
def Policy.bounds (known : Nat) (binding : Nat → String → Prop) (procedure : Closure → Prop) :
    Policy where
  known := known
  frame i f := ∀ name ∈ f.names, binding i name
  env _ _ := True
  procedure _ p := procedure p
  code _ v := ∀ p ∈ v.closures, procedure p
  env_mono _ h := h
  procedure_mono _ h := h
  code_mono _ h := h

theorem Policy.liberal_bounds (known : Nat) (binding : Nat → String → Prop)
    (procedure : Closure → Prop) : (Policy.bounds known binding procedure).Liberal :=
  fun _ _ => Iff.rfl

/-- The handler binds names, and makes procedures, only by evaluating expressions: whatever names
    an evaluator leaves unbound in whatever frames, the handler with this evaluator leaves them
    unbound, and it has no procedures but those that evaluation can give. -/
def Handler.BindsByEvaluating (handler : Handler) : Prop :=
  ∀ interp known binding procedure,
    (Policy.bounds known binding procedure).discipline.HandlerKeeps interp handler

namespace Extension

/-- The handlers in stock bind names only by evaluating expressions. -/
theorem bindsByEvaluating_of_mem {name : String} {handler : Handler}
    (h : (name, handler) ∈ handlers) : handler.BindsByEvaluating := by
  intro interp known binding procedure eval depth s operands env keeps _ hx
  have atom : ∀ (s : Store) {v : Value}, v.isAtom = true →
      (Policy.bounds known binding procedure).discipline.value s v :=
    fun _ _ h => Policy.admits_of_isAtom h
  simp only [handlers, List.mem_cons, Prod.mk.injEq, List.not_mem_nil, or_false] at h
  rcases h with ⟨-, rfl⟩ | ⟨-, rfl⟩ | ⟨-, rfl⟩ | ⟨-, rfl⟩ | ⟨-, rfl⟩ | ⟨-, rfl⟩ | ⟨-, rfl⟩ |
    ⟨-, rfl⟩ | ⟨-, rfl⟩ | ⟨-, rfl⟩
  · exact .pure' (atom s rfl)
  · exact .pure' (atom s rfl)
  · exact .pure' (Policy.admits_list.mpr hx)
  · cases operands with
    | nil => exact .pure' (atom s rfl)
    | cons first rest => exact .pure' (hx first List.mem_cons_self)
  · exact .ask_then _ (.pure' (atom s rfl))
  · refine .ask_then _ (.pure' (Policy.admits_list.mpr fun v hv => ?_))
    obtain ⟨bound, -, rfl⟩ := List.mem_map.mp hv
    exact atom s rfl
  · exact .throw' _
  · cases operands with
    | nil => exact .fault _
    | cons first rest => exact keeps (depth + 1) s first env trivial (hx first List.mem_cons_self)
  · cases operands with
    | nil => exact .fault _
    | cons first rest =>
      refine .bind (keeps (depth + 1) s first env trivial (hx first List.mem_cons_self)) ?_
      exact fun s' v _ hv => keeps (depth + 1) s' v env trivial hv
  · cases operands with
    | nil => exact .fault _
    | cons test body =>
      refine .bind (keeps (depth + 1) s test env trivial (hx test List.mem_cons_self)) ?_
      intro s' v _ _
      cases v.isTrue with
      | true => exact .pure' (atom s' rfl)
      | false =>
        exact Discipline.sequence_agrees (keeps 1) body s' trivial
          fun e he => hx e (List.mem_cons_of_mem _ he)

end Extension

/-- No frame binds the tag of a builtin form, the global frame binds none of `forms`, and no
    parameter of a procedure is the tag of a builtin form. -/
def Policy.separate (forms : Registry) : Policy :=
  .bounds 1
    (fun i name => Registry.builtin.contains name = false ∧ (i = 0 → forms.contains name = false))
    (fun p => ∀ name ∈ p.params, Registry.builtin.contains name = false)

theorem Policy.lawful_separate {interp : Interp} (grown : interp.forms.Grown)
    (hosts : ∀ f ∈ interp.hosts, f.MakesNoProcedures) :
    (Policy.separate interp.forms).Lawful interp := by
  -- the builtin tags are among the tags
  have noBuiltin : ∀ {name}, interp.forms.contains name = false →
      Registry.builtin.contains name = false := by
    intro name free
    cases known : Registry.builtin.contains name with
    | false => rfl
    | true =>
      rw [grown.contains_builtin known] at free
      cases free
  refine (Policy.liberal_bounds _ _ _).lawful hosts ?bind ?unbind ?call ?inner ?close
  case bind =>
    intro i f name v free bounded other bound
    rcases Frame.mem_names_bind bound with old | rfl
    · exact bounded other old
    · exact ⟨noBuiltin free, fun _ => free⟩
  case unbind =>
    intro i f name bounded other bound
    exact bounded other ((Frame.names_unbind_sublist f name).subset bound)
  case call =>
    intro n p args known free fits name bound
    -- the frame of a call is not the global one
    have inner : n ≠ 0 := Nat.ne_of_gt known
    obtain ⟨b, hb, rfl⟩ := List.mem_map.mp bound
    exact ⟨free b.1 (List.of_mem_zip hb).1, fun zero => absurd zero inner⟩
  case inner => exact fun _ => trivial
  case close => exact fun _ _ _ free name param => noBuiltin (free name param)

/-- A frame of an environment in which a name is not defined does not bind the name. -/
theorem Store.not_mem_names_of_isDefined {s : Store} {i : Nat} {f : Frame} {name : String}
    (hf : s.frames[i]? = some f) (undefined : s.isDefined ⟨some i⟩ name = false) :
    name ∉ f.names := by
  have first : f ∈ s.scopes ⟨some i⟩ := by
    refine List.mem_filterMap.mpr ⟨i, ?_, hf⟩
    simp [chain, chainWithin, hf]
  intro bound
  have := List.any_eq_false.mp undefined f first
  exact this (Frame.binds_iff.mpr bound)

namespace Client

/-- What holds of a client between calls. -/
structure Separate (c : Client) : Prop where
  global : c.interp.global = ⟨some 0⟩
  grown : c.interp.forms.Grown
  handlers : ∀ form ∈ c.interp.forms.forms,
    form ∈ Form.builtins ∨ form.handler.BindsByEvaluating
  hosts : ∀ f ∈ c.interp.hosts, f.MakesNoProcedures
  within : c.Within (.separate c.interp.forms)

/-- The global frame of a fresh interpreter binds the builtins, none of which is a tag. -/
theorem separate_start (loader : Loader) (sink : Sink) (limit : Nat) :
    (start loader sink limit).Separate where
  global := rfl
  grown := .builtin
  handlers _ known := .inl known
  hosts f known := by simp [start, Interp.fresh] at known
  within := by
    have apart : ∀ op ∈ Builtin.all, Registry.builtin.contains op.name = false := by decide
    refine ⟨⟨Nat.le_refl 1, fun i f hf name bound => ?_, fun p hp => ?_⟩, fun v hv => by cases hv⟩
    · obtain ⟨-, rfl⟩ := Interp.frame_of_initialState hf
      have initial := Frame.mem_names_ofBindings bound
      simp only [Interp.initialBindings, List.map_map, List.mem_map] at initial
      obtain ⟨op, known, rfl⟩ := initial
      exact ⟨apart op known, fun _ => apart op known⟩
    · exact absurd hp (Interp.not_holds_initialState p)

/-- A form is registered under the name of no global variable, so the global frame does not bind
    its tag either. -/
theorem Within.register {c : Client} {tag : String} {handler : Handler} {forms grown : Registry}
    (W : c.Within (.separate forms)) (added : forms.insert tag handler = .ok grown)
    (free : c.state.store.isDefined ⟨some 0⟩ tag = false) : c.Within (.separate grown) := by
  refine ⟨⟨W.store.known, fun i f hf name bound => ?_, W.store.held⟩, W.received⟩
  obtain ⟨noBuiltin, noTag⟩ := W.store.frames i f hf name bound
  refine ⟨noBuiltin, ?_⟩
  -- only the global frame is asked to be free of the new tag
  rintro rfl
  have other : name ≠ tag := by
    rintro rfl
    exact Store.not_mem_names_of_isDefined hf free bound
  rw [Registry.contains_insert added, noTag rfl]
  simpa using other

/-- A call keeps tags and variables apart. -/
theorem Separate.perform {c : Client} (h : c.Separate) (call : Call)
    (permitted : c.Permits Handler.BindsByEvaluating call) : (c.perform call).Separate := by
  have lawful := Policy.lawful_separate h.grown h.hosts
  have handlers : ∀ form ∈ c.interp.forms.forms,
      (Policy.separate c.interp.forms).discipline.HandlerKeeps c.interp form.handler := by
    intro form known
    rcases h.handlers form known with builtin | binds
    · exact Discipline.builtin_keeps lawful.respects builtin
    · exact binds c.interp _ _ _
  obtain ⟨-, within, extended⟩ :=
    h.within.perform (Policy.liberal_bounds _ _ _) lawful handlers (fun _ _ => trivial) call
      permitted
  have global := extended.global.trans h.global
  have hosts : ∀ f ∈ (c.perform call).interp.hosts, f.MakesNoProcedures := by
    intro f known
    rcases extended.hosts f known with old | plain
    · exact h.hosts f old
    · exact plain
  rcases extended.forms with same | ⟨tag, handler, allowed, free, added⟩
  · exact ⟨global, same ▸ h.grown, same ▸ h.handlers, hosts, same ▸ within⟩
  · rw [h.global] at free
    refine ⟨global, .insert h.grown added, fun form known => ?_, hosts, within.register added free⟩
    rcases Registry.mem_of_insert added known with old | rfl
    · exact h.handlers form old
    · exact .inr allowed

theorem Separate.runs {a b : Client} (h : a.Separate) (run : a.Runs Handler.BindsByEvaluating b) :
    b.Separate := by
  induction run with
  | done => exact h
  | next call _ permitted ih => exact ih.perform call permitted

/-- After any calls on a fresh interpreter the global frame binds no tag, and no frame binds the
    tag of a builtin form. -/
theorem Runs.tags_unbound {loader : Loader} {sink : Sink} {limit : Nat} {c : Client}
    (run : (start loader sink limit).Runs Handler.BindsByEvaluating c) :
    (∃ g, c.state.store.innermost? c.interp.global = some g ∧
      ∀ tag, c.interp.forms.contains tag = true → tag ∉ g.names) ∧
    ∀ (i : Nat) (f : Frame), c.state.store.frames[i]? = some f →
      ∀ tag, Registry.builtin.contains tag = true → tag ∉ f.names := by
  have separate := (separate_start loader sink limit).runs run
  have frames := separate.within.store.frames
  have known : 0 < c.state.store.frames.size := separate.within.store.known
  have first : c.state.store.frames[0]? = some c.state.store.frames[0] :=
    Array.getElem?_eq_getElem known
  refine ⟨⟨c.state.store.frames[0], ?_, fun tag tagged bound => ?_⟩,
    fun i f hf tag tagged bound => ?_⟩
  · rw [separate.global]
    exact first
  · have free := (frames 0 _ first tag bound).2 rfl
    rw [tagged] at free
    cases free
  · have free := (frames i f hf tag bound).1
    rw [tagged] at free
    cases free

/-- A parameter becomes a tag after its procedure was made, so that the frame of a call binds the
    tag; a variable is refused the name of the tag, and a form the name of a variable. The global
    frame binds no tag all the same. -/
theorem Runs.tags_unbound_unless :
    let fresh := start (.memory []) .kept 20
    let define : Value :=
      .list [.symbol "define", .list [.symbol "f", .symbol "unless"], .number 1]
    let tagged := (fresh.perform (.eval define)).perform (.register "unless" Extension.evalUnless)
    let called := tagged.perform (.eval (.list [.symbol "f", .number 2]))
    let refused := called.perform (.eval (.list [.symbol "define", .symbol "unless", .number 3]))
    let c := refused.perform (.register "f" Extension.evalTwice)
    fresh.Runs Handler.BindsByEvaluating c ∧
      ((∃ g, c.state.store.innermost? c.interp.global = some g ∧
        ∀ tag, c.interp.forms.contains tag = true → tag ∉ g.names) ∧
      ∀ (i : Nat) (f : Frame), c.state.store.frames[i]? = some f →
        ∀ tag, Registry.builtin.contains tag = true → tag ∉ f.names) ∧
      c.interp.forms.contains "unless" = true ∧ c.interp.forms.contains "f" = false ∧
      c.state.store.frames[1]?.map Frame.names = some ["unless"] ∧
      c.received = [.number 1, .symbol "f"] := by
  intro fresh define tagged called refused c
  have stocked : Extension.handlers[9]? = some ("unless", Extension.evalUnless) := rfl
  have stockedTwice : Extension.handlers[8]? = some ("eval-twice", Extension.evalTwice) := rfl
  have untilTrue : Extension.evalUnless.BindsByEvaluating :=
    Extension.bindsByEvaluating_of_mem (List.mem_of_getElem? stocked)
  have twice : Extension.evalTwice.BindsByEvaluating :=
    Extension.bindsByEvaluating_of_mem (List.mem_of_getElem? stockedTwice)
  have defined : fresh.Runs Handler.BindsByEvaluating (fresh.perform (.eval define)) :=
    .next (.eval define) .done (has_of_closures rfl)
  have run_tagged : fresh.Runs Handler.BindsByEvaluating tagged :=
    .next (.register "unless" Extension.evalUnless) defined untilTrue
  have run_called : fresh.Runs Handler.BindsByEvaluating called :=
    .next (.eval (.list [.symbol "f", .number 2])) run_tagged (has_of_closures rfl)
  have run_refused : fresh.Runs Handler.BindsByEvaluating refused :=
    .next (.eval (.list [.symbol "define", .symbol "unless", .number 3])) run_called
      (has_of_closures rfl)
  have run : fresh.Runs Handler.BindsByEvaluating c :=
    .next (.register "f" Extension.evalTwice) run_refused twice
  refine ⟨run, Runs.tags_unbound run, ?_, ?_, ?_, ?_⟩
  all_goals
    unfold c refused called tagged fresh define
    rfl

end Client

end MiniScheme
