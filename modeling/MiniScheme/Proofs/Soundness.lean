import MiniScheme.Proofs.Columns

/- The representation of the store is sound, whatever a client has an interpreter
   do. Each frame binds a name once, with its value at the same position; the
   frames around it are older, so the chain of an environment is finite; a frame
   never gets another parent; and all procedures that can be got at close over
   frames there are, with distinct parameters and a body. `Policy.ordered` says so
   frame by frame and procedure by procedure. Binding keeps names distinct by
   itself, but the frame of a call has distinct names only because `lambda` checks
   its parameters, and its parent is older only because procedures close over
   frames there are; so the two parts are kept together (`Ordered.perform`), over
   all calls of a client (`Runs.store_sound`). That names and values stay side by
   side is no matter of how a frame is represented: as two lists, the frames come
   about by edits that keep the lists equally long (`Ordered.evolves`,
   `Columns.Evolves.aligned`). -/
namespace MiniScheme

/-- The frames that an environment leads through, innermost first, up to the empty environment. -/
inductive Store.Path (s : Store) : Env → List Nat → Prop
  | empty : Path s .empty []
  | frame {i : Nat} {f : Frame} {above : List Nat} (here : s.frames[i]? = some f)
      (rest : Path s f.parent above) : Path s ⟨some i⟩ (i :: above)

namespace Store

/-- Where parents are older, a chain with room for all frames from the first on is a whole path. -/
theorem path_chainWithin {s : Store}
    (older : ∀ (i : Nat) (f : Frame), s.frames[i]? = some f →
      ∀ j, f.parent.frame? = some j → j < i) :
    ∀ (bound : Nat) (env : Env), (∀ i, env.frame? = some i → i < s.frames.size ∧ i < bound) →
      s.Path env (s.chainWithin bound env) ∧ ∀ j ∈ s.chainWithin bound env, j < bound
  | 0, ⟨none⟩, _ => ⟨.empty, fun _ h => by cases h⟩
  | bound + 1, ⟨none⟩, _ => ⟨.empty, fun _ h => by cases h⟩
  | 0, ⟨some i⟩, room => absurd (room i rfl).2 (Nat.not_lt_zero i)
  | bound + 1, ⟨some i⟩, room => by
    obtain ⟨known, low⟩ := room i rfl
    have here : s.frames[i]? = some s.frames[i] := Array.getElem?_eq_getElem known
    have chained : s.chainWithin (bound + 1) ⟨some i⟩
        = i :: s.chainWithin bound s.frames[i].parent := by
      simp only [chainWithin, here]
    -- the parent is older than the frame, so there is room for it in what is left
    have above : ∀ j, s.frames[i].parent.frame? = some j → j < s.frames.size ∧ j < bound := by
      intro j hj
      have := older i _ here j hj
      omega
    obtain ⟨path, within⟩ := path_chainWithin older bound _ above
    rw [chained]
    refine ⟨.frame here path, fun j hj => ?_⟩
    rcases List.mem_cons.mp hj with rfl | hj
    · exact low
    · have := within j hj
      omega

/-- Where parents are older, the chain of an environment is its path. -/
theorem path_chain {s : Store}
    (older : ∀ (i : Nat) (f : Frame), s.frames[i]? = some f →
      ∀ j, f.parent.frame? = some j → j < i)
    {env : Env} {bound : Nat}
    (room : ∀ i, env.frame? = some i → i < s.frames.size ∧ i < bound) :
    s.Path env (s.chain env) ∧ ∀ j ∈ s.chain env, j < bound := by
  unfold chain
  split
  · next none =>
    obtain rfl : env = .empty := by cases env; cases none; rfl
    exact ⟨.empty, fun _ h => by cases h⟩
  · next i here =>
    have self : ∀ k, env.frame? = some k → k < s.frames.size ∧ k < i + 1 := by
      intro k hk
      obtain rfl : i = k := Option.some.inj (here.symm.trans hk)
      exact ⟨(room i here).1, Nat.lt_succ_self i⟩
    obtain ⟨path, within⟩ := path_chainWithin older (i + 1) env self
    refine ⟨path, fun j hj => ?_⟩
    have := within j hj
    have := (room i here).2
    omega

end Store

/-- The procedure closes over a frame there is, of `n`, and has distinct parameters and a body. -/
structure Closure.InOrder (n : Nat) (p : Closure) : Prop where
  captured : ∀ i, p.env.frame? = some i → i < n
  parameters : p.params.Nodup
  body : p.body ≠ []

theorem Closure.InOrder.mono {n m : Nat} {p : Closure} (le : n ≤ m) (h : p.InOrder n) :
    p.InOrder m :=
  ⟨fun i hi => Nat.lt_of_lt_of_le (h.captured i hi) le, h.parameters, h.body⟩

/-- Frames bind each name once and have an older parent, and procedures are in order. -/
def Policy.ordered : Policy where
  known := 1
  frame i f := f.names.Nodup ∧ ∀ j, f.parent.frame? = some j → j < i
  env n e := ∀ i, e.frame? = some i → i < n
  procedure n p := p.InOrder n
  code n v := ∀ p ∈ v.closures, p.InOrder n
  env_mono le h i hi := Nat.lt_of_lt_of_le (h i hi) le
  procedure_mono le h := h.mono le
  code_mono le h p hp := (h p hp).mono le

theorem Policy.liberal_ordered : Policy.ordered.Liberal := fun _ _ => Iff.rfl

/-- What forms do to frames and procedures is in order. -/
theorem Policy.lawful_ordered {interp : Interp}
    (hosts : ∀ f ∈ interp.hosts, f.MakesNoProcedures) : Policy.ordered.Lawful interp := by
  refine Policy.liberal_ordered.lawful hosts ?bind ?unbind ?call ?inner ?close
  case bind =>
    rintro i f name v - ⟨distinct, older⟩
    exact ⟨Frame.nodup_names_bind distinct name v, older⟩
  case unbind =>
    rintro i f name ⟨distinct, older⟩
    exact ⟨distinct.sublist (Frame.names_unbind_sublist f name), older⟩
  case call =>
    intro n p args _ ordered fits
    refine ⟨?_, ordered.captured⟩
    show ((p.params.zip args).map (·.1)).Nodup
    rw [List.map_fst_zip (Nat.le_of_eq fits)]
    exact ordered.parameters
  case inner =>
    intro n i hi
    cases hi
    exact Nat.lt_succ_self n
  case close => exact fun allocated distinct some? _ => ⟨allocated, distinct, some?⟩

namespace Client

/-- The store of a client, with the procedures that the client can get at, is well represented. -/
structure Sound (c : Client) : Prop where
  aligned : ∀ (i : Nat) (f : Frame), c.state.store.frames[i]? = some f →
    f.names.length = f.values.length
  /-- With their names and their values in two lists, the frames have come about from nothing by
      steps none of which goes to a position past the end of the values. -/
  columns : Columns.Evolves [] c.state.store.columns
  /-- What a name stands for is at the name's position. -/
  positions : ∀ (i : Nat) (f : Frame), c.state.store.frames[i]? = some f →
    ∀ (k : Nat) (name : String) (v : Value), f.names[k]? = some name → f.values[k]? = some v →
      f.get? name = some v
  distinct : ∀ (i : Nat) (f : Frame), c.state.store.frames[i]? = some f → f.names.Nodup
  /-- The frames around a frame end with the empty environment, and are older. -/
  chains : ∀ (i : Nat) (f : Frame), c.state.store.frames[i]? = some f →
    c.state.store.Path f.parent (c.state.store.chain f.parent) ∧
      ∀ j ∈ c.state.store.chain f.parent, j < i
  captured : ∀ p, c.Holds p → ∀ i, p.env.frame? = some i → i < c.state.store.frames.size
  parameters : ∀ p, c.Holds p → p.params.Nodup
  bodies : ∀ p, c.Holds p → p.body ≠ []

/-- What holds of a client between calls. -/
structure Ordered (c : Client) : Prop where
  forms : c.interp.forms = .builtin
  global : c.interp.global = ⟨some 0⟩
  hosts : ∀ f ∈ c.interp.hosts, f.MakesNoProcedures
  within : c.Within .ordered

theorem Ordered.sound {c : Client} (h : c.Ordered)
    (evolved : Columns.Evolves [] c.state.store.columns) : c.Sound where
  aligned i f hf := by
    have held : f.columns ∈ c.state.store.columns :=
      List.mem_map_of_mem (Array.mem_toList_iff.mpr (Array.mem_of_getElem? hf))
    exact evolved.aligned (fun _ none => absurd none List.not_mem_nil) f.columns held
  columns := evolved
  positions i f hf k name v := Frame.get?_of_positions (h.within.store.frames i f hf).1
  distinct i f hf := (h.within.store.frames i f hf).1
  chains i f hf := by
    have known : i < c.state.store.frames.size := (Array.getElem?_eq_some_iff.mp hf).1
    have older : ∀ (k : Nat) (g : Frame), c.state.store.frames[k]? = some g →
        ∀ j, g.parent.frame? = some j → j < k :=
      fun k g hg => (h.within.store.frames k g hg).2
    refine Store.path_chain older fun j hj => ?_
    have := older i f hf j hj
    omega
  captured p held := (h.within.procedure held).captured
  parameters p held := (h.within.procedure held).parameters
  bodies p held := (h.within.procedure held).body

/-- A fresh interpreter has one frame, without a parent, and no procedures. -/
theorem ordered_start (loader : Loader) (sink : Sink) (limit : Nat) :
    (start loader sink limit).Ordered where
  forms := rfl
  global := rfl
  hosts f known := by simp [start, Interp.fresh] at known
  within := by
    refine ⟨⟨Nat.le_refl 1, fun i f hf => ?_, fun p hp => ?_⟩, fun v hv => by cases hv⟩
    · obtain ⟨-, rfl⟩ := Interp.frame_of_initialState hf
      refine ⟨Frame.nodup_names_ofBindings _ _, fun j hj => ?_⟩
      rw [Frame.parent_ofBindings] at hj
      cases hj
    · exact absurd hp (Interp.not_holds_initialState p)

/-- A call adds frames to a store in order, and leaves it in order. -/
theorem Ordered.perform {c : Client} (h : c.Ordered) (call : Call)
    (permitted : c.Permits (fun _ => False) call) :
    c.state.store.Grows (c.perform call).state.store ∧ (c.perform call).Ordered := by
  have lawful := Policy.lawful_ordered h.hosts
  have handlers : ∀ form ∈ c.interp.forms.forms,
      Policy.ordered.discipline.HandlerKeeps c.interp form.handler := by
    intro form known
    rw [h.forms] at known
    exact Discipline.builtin_keeps lawful.respects known
  have reached : ∀ env, c.Reaches env → Policy.ordered.env c.state.store.frames.size env := by
    rintro env (rfl | rfl | ⟨p, held, rfl⟩ | ⟨k, known, rfl⟩) i hi
    · cases hi
    · rw [h.global] at hi
      cases hi
      exact h.within.store.known
    · exact (h.within.procedure held).captured i hi
    · cases hi
      exact known
  obtain ⟨grows, within, extended⟩ :=
    h.within.perform Policy.liberal_ordered lawful handlers reached call permitted
  refine ⟨grows, ?_, extended.global.trans h.global, fun f known => ?_, within⟩
  · rcases extended.forms with same | ⟨tag, handler, allowed, -⟩
    · exact same.trans h.forms
    · exact allowed.elim
  · rcases extended.hosts f known with old | plain
    · exact h.hosts f old
    · exact plain

theorem Ordered.runs {a b : Client} (h : a.Ordered) (run : a.Runs (fun _ => False) b) :
    a.state.store.Grows b.state.store ∧ b.Ordered := by
  induction run with
  | done => exact ⟨.refl _, h⟩
  | next call _ permitted ih =>
    obtain ⟨before, ordered⟩ := ih
    obtain ⟨grows, after⟩ := ordered.perform call permitted
    exact ⟨before.trans grows, after⟩

/-- Calls change the frames, kept as two lists each, step by step. -/
theorem Ordered.evolves {a b : Client} (h : a.Ordered) (run : a.Runs (fun _ => False) b) :
    Columns.Evolves a.state.store.columns b.state.store.columns := by
  induction run with
  | done => exact .refl
  | @next b call before _ ih =>
    have builtin : b.interp.forms = .builtin := (h.runs before).2.forms
    refine ih.trans (evolves_perform (fun form known => ?_) call)
    rw [builtin] at known
    exact Discipline.builtin_keeps (Discipline.columnwise_respects b.interp) known

/-- After any calls that register no form on a fresh interpreter the store is sound, and whatever
    is called then, the frames stay and keep their parents. -/
theorem Runs.store_sound {loader : Loader} {sink : Sink} {limit : Nat} {c : Client}
    (run : (start loader sink limit).Runs (fun _ => False) c) :
    c.Sound ∧ ∀ later, c.Runs (fun _ => False) later → c.state.store.Grows later.state.store := by
  have fresh := ordered_start loader sink limit
  have evolved := (evolves_start loader sink limit).trans (fresh.evolves run)
  obtain ⟨-, ordered⟩ := fresh.runs run
  exact ⟨ordered.sound evolved, fun later more => (ordered.runs more).1⟩

/-- A client defines a counter, evaluates in the environment of the counter, which fails, applies
    the counter, and installs a function. -/
theorem Runs.store_sound_counter :
    let fresh := start (.memory []) .kept 20
    let body : List Value := [
      .list [.symbol "set!", .symbol "n", .list [.symbol "+", .symbol "n", .number 1]],
      .symbol "n"]
    let make : Value := .list [.symbol "define", .list [.symbol "make", .symbol "n"],
      .list (.symbol "lambda" :: .list [] :: body)]
    let define : Value :=
      .list [.symbol "define", .symbol "tick", .list [.symbol "make", .number 0]]
    let tick : Value := .procedure 1 [] body ⟨some 1⟩
    let keep : HostFunction := ⟨.any, fun args => .ok (.list args)⟩
    let made := (fresh.perform (.eval make)).perform (.eval define)
    let missed := made.perform (.evaluate (.symbol "m") ⟨some 1⟩)
    let ticked := missed.perform (.apply tick [])
    let c := ticked.perform (.install "keep" keep)
    fresh.Runs (fun _ => False) c ∧
      (c.Sound ∧ ∀ later, c.Runs (fun _ => False) later →
        c.state.store.Grows later.state.store) ∧
      c.received = [.number 1, .symbol "tick", .symbol "make"] := by
  intro fresh body make define tick keep made missed ticked c
  have defined : fresh.Runs (fun _ => False) (fresh.perform (.eval make)) :=
    .next (.eval make) .done (has_of_closures rfl)
  have run_made : fresh.Runs (fun _ => False) made :=
    .next (.eval define) defined (has_of_closures rfl)
  -- the client finds the counter in the store, and with it the environment
  have found : made.state.store.lookup? made.interp.global "tick" = some tick := by
    unfold made fresh make define tick body
    rfl
  have inside : made.Reaches ⟨some 1⟩ :=
    .inr (.inr (.inl ⟨_, .inl (Store.holds_of_lookup? found List.mem_cons_self), rfl⟩))
  have run_missed : fresh.Runs (fun _ => False) missed :=
    .next (.evaluate (.symbol "m") ⟨some 1⟩) run_made ⟨has_of_closures rfl, inside⟩
  have again : missed.state.store.lookup? missed.interp.global "tick" = some tick := by
    unfold missed made fresh make define tick body
    rfl
  have run_ticked : fresh.Runs (fun _ => False) ticked :=
    .next (.apply tick []) run_missed ⟨has_of_lookup? again, fun a ha => nomatch ha⟩
  have plain : keep.MakesNoProcedures := by
    intro args v given p hp
    cases given
    exact hp
  have run : fresh.Runs (fun _ => False) c := .next (.install "keep" keep) run_ticked plain
  have given : c.received = [.number 1, .symbol "tick", .symbol "make"] := by
    unfold c ticked missed made fresh make define tick keep body
    rfl
  exact ⟨run, Runs.store_sound run, given⟩

end Client

end MiniScheme
