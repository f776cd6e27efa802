import MiniScheme.Proofs.Agreement
import MiniScheme.Proofs.Reach

/- Evaluation is confined to the frames it can reach. The discipline `confined R
   start` keeps a region: the frames of `R` and those made since the store
   `start`. Environments, expressions and values refer into the region, the
   frames of the region lead only into it, and the frames of `start` outside it
   stay as they are. If `R` is what the environment and the expression reach,
   the region starts out closed; so a run leaves all else alone, and what it
   gives back reaches only `R` and new frames (`evalAt_isolated`). -/
namespace MiniScheme

/-- The region of a confined run: the frames of `R`, and those of `s` that `start` did not have. -/
def Region (R : Nat → Prop) (start s : Store) (i : Nat) : Prop :=
  R i ∨ (start.frames.size ≤ i ∧ i < s.frames.size)

/-- Frames are not removed, and those outside `R` that `start` had stay as they are. -/
structure Untouched (R : Nat → Prop) (start a b : Store) : Prop where
  grows : a.frames.size ≤ b.frames.size
  outside : ∀ i, i < start.frames.size → ¬ R i → b.frames[i]? = a.frames[i]?

/-- The frames of a region lead only into it. -/
structure Closed (R : Nat → Prop) (start s : Store) : Prop where
  grown : start.frames.size ≤ s.frames.size
  links : ∀ i f, Region R start s i → s.frames[i]? = some f → ∀ j ∈ f.links, Region R start s j

section
variable {R : Nat → Prop} {start : Store}

theorem Untouched.region {a b : Store} (h : Untouched R start a b) {i : Nat}
    (hi : Region R start a i) : Region R start b i := by
  rcases hi with hi | ⟨new, known⟩
  · exact .inl hi
  · exact .inr ⟨new, Nat.lt_of_lt_of_le known h.grows⟩

/-- The discipline of a run confined to a region. -/
def Discipline.confined (R : Nat → Prop) (start : Store) : Discipline where
  later := Untouched R start
  store := Closed R start
  env s env := ∀ i, env.frame? = some i → Region R start s i
  expr s v := ∀ i ∈ v.captures, Region R start s i
  value s v := ∀ i ∈ v.captures, Region R start s i
  excused _ := False
  later_refl _ := ⟨Nat.le_refl _, fun _ _ _ => rfl⟩
  later_trans h h' := ⟨Nat.le_trans h.grows h'.grows, fun i known free =>
    (h'.outside i known free).trans (h.outside i known free)⟩
  env_later h he i hi := h.region (he i hi)
  expr_later h hv i hi := h.region (hv i hi)
  value_later h hv i hi := h.region (hv i hi)

/-- Changing a frame of the region in a way that adds only links into the region. -/
theorem Closed.modifyFrame {s : Store} (kept : Closed R start s) {i : Nat} {change : Frame → Frame}
    (hi : Region R start s i)
    (new : ∀ f, s.frames[i]? = some f → ∀ j ∈ (change f).links, j ∈ f.links ∨ Region R start s j) :
    Untouched R start s (s.modifyFrame i change) ∧ Closed R start (s.modifyFrame i change) := by
  have size : (s.modifyFrame i change).frames.size = s.frames.size := by
    simp [Store.modifyFrame]
  have same : ∀ j, Region R start (s.modifyFrame i change) j ↔ Region R start s j := by
    intro j
    unfold Region
    rw [size]
  refine ⟨⟨Nat.le_of_eq size.symm, fun k known free => ?_⟩, ⟨by rw [size]; exact kept.grown, ?_⟩⟩
  · -- the changed frame is in the region, so a frame outside is another one
    have other : i ≠ k := by
      intro eq
      subst eq
      rcases hi with hi | ⟨fresh, _⟩
      · exact free hi
      · omega
    simp only [Store.modifyFrame, Array.getElem?_modify, if_neg other]
  · intro k f hk hf j hj
    rw [same] at hk ⊢
    simp only [Store.modifyFrame, Array.getElem?_modify] at hf
    by_cases eq : i = k
    · subst eq
      rw [if_pos rfl] at hf
      obtain ⟨old, ho, rfl⟩ := Option.map_eq_some_iff.mp hf
      rcases new old ho j hj with hj | hj
      · exact kept.links i old hk ho j hj
      · exact hj
    · rw [if_neg eq] at hf
      exact kept.links k f hk hf j hj

/-- Adding a frame that leads only into the region. -/
theorem Closed.push {s : Store} (kept : Closed R start s) {f : Frame}
    (into : ∀ j ∈ f.links, Region R start s j) :
    Untouched R start s (s.push f).2 ∧ Closed R start (s.push f).2 := by
  have size : (s.push f).2.frames.size = s.frames.size + 1 := by simp [Store.push]
  -- the new frame has a number that no frame had
  have untouched : Untouched R start s (s.push f).2 := by
    refine ⟨by omega, fun i known _ => ?_⟩
    have old : i ≠ s.frames.size := by
      have := kept.grown
      omega
    simp only [Store.push, Array.getElem?_push, if_neg old]
  refine ⟨untouched, ⟨by have := kept.grown; omega, fun i g hi hg j hj => ?_⟩⟩
  simp only [Store.push, Array.getElem?_push] at hg
  by_cases new : i = s.frames.size
  · rw [if_pos new] at hg
    cases hg
    exact untouched.region (into j hj)
  · rw [if_neg new] at hg
    have old : Region R start s i := by
      rcases hi with hi | ⟨fresh, known⟩
      · exact .inl hi
      · exact .inr ⟨fresh, by omega⟩
    exact untouched.region (kept.links i g old hg j hj)

/-- Unbinding a name in frames of the region, one after the other. -/
theorem Closed.unbindAll (name : String) :
    ∀ (is : List Nat) {s : Store}, Closed R start s → (∀ i ∈ is, Region R start s i) →
      let s' := is.foldl (fun s i => s.modifyFrame i (·.unbind name)) s
      Untouched R start s s' ∧ Closed R start s'
  | [], s, kept, _ => ⟨(Discipline.confined R start).later_refl s, kept⟩
  | i :: rest, s, kept, hi => by
    have first : Untouched R start s (s.modifyFrame i (·.unbind name)) ∧
        Closed R start (s.modifyFrame i (·.unbind name)) :=
      kept.modifyFrame (hi i (by simp)) fun _ _ _ hj => .inl (Frame.mem_links_unbind hj)
    have others := Closed.unbindAll name rest first.2
      fun k hk => first.1.region (hi k (by simp [hk]))
    exact ⟨(Discipline.confined R start).later_trans first.1 others.1, others.2⟩

/-- Binding a name in a frame of the region to a value that refers into it. -/
theorem Closed.bind {s : Store} (kept : Closed R start s) {i : Nat} (hi : Region R start s i)
    (name : String) {v : Value} (hv : ∀ j ∈ v.captures, Region R start s j) :
    Untouched R start s (s.modifyFrame i (·.bind name v)) ∧
      Closed R start (s.modifyFrame i (·.bind name v)) := by
  refine kept.modifyFrame hi fun f _ j hj => ?_
  rcases Frame.mem_links_bind hj with hj | hj
  · exact .inl hj
  · exact .inr (hv j hj)

end

/-- The function gives nothing but parts of its arguments and data. -/
def HostFunction.ReturnsParts (f : HostFunction) : Prop :=
  ∀ args v, f.run args = .ok v → ∀ i ∈ v.captures, i ∈ Value.capturesAll args

/-- The operations of an interpreter stay within every region. -/
theorem Interp.respects_confined (interp : Interp)
    (parts : ∀ f ∈ interp.hosts, f.ReturnsParts) (R : Nat → Prop) (start : Store) :
    (Discipline.confined R start).Respects interp where
  expr_items h v hv i hi := h i (Value.mem_capturesAll.mpr ⟨v, hv, hi⟩)
  expr_list h i hi := by
    obtain ⟨v, hv, hi⟩ := Value.mem_capturesAll.mp hi
    exact h v hv i hi
  expr_if _ _ h := by cases h
  expr_begin _ _ h := by cases h
  expr_unspecified _ _ h := by cases h
  value_of_expr h := h
  value_atom s v atom i hi := by
    cases v with
    | list | procedure => cases atom
    | _ => cases hi
  value_items h v hv i hi := h i (Value.mem_capturesAll.mpr ⟨v, hv, hi⟩)
  value_list h i hi := by
    obtain ⟨v, hv, hi⟩ := Value.mem_capturesAll.mp hi
    exact h v hv i hi
  read opened hv i hi := by
    rw [Value.captures_of_readable (Loader.readable_of_items opened hv)] at hi
    cases hi
  host known run ha i hi := by
    obtain ⟨a, hm, hi⟩ := Value.mem_capturesAll.mp (parts _ known _ _ run i hi)
    exact ha a hm i hi
  lookup kept he found i hi := by
    -- the value is held by a frame of the chain, and the chain stays inside
    obtain ⟨f, hf, hv⟩ := List.exists_of_findSome?_eq_some found
    obtain ⟨k, hk, hf⟩ := List.mem_filterMap.mp hf
    have inside := Store.mem_chain_of_closed kept.links he k hk
    exact kept.links k f inside hf i (Frame.mem_links_of_get? hv hi)
  define {s s' env name v} kept he hv _ done := by
    unfold Store.define at done
    split at done
    · next k hk => cases done; exact kept.bind (he k hk) name hv
    · cases done
  set {s s' env name v} kept he hv _ done := by
    unfold Store.set at done
    split at done
    · next k hk =>
      cases done
      have onChain : k ∈ s.chain env := List.mem_of_find?_eq_some hk
      exact kept.bind (Store.mem_chain_of_closed kept.links he k onChain) name hv
    · cases done
  unbindLocally {s env} name kept he := by
    unfold Store.unbindLocally
    split
    · next k hk =>
      exact kept.modifyFrame (he k hk) fun _ _ _ hj => .inl (Frame.mem_links_unbind hj)
    · exact ⟨(Discipline.confined R start).later_refl s, kept⟩
  unbind {s env} name kept he :=
    Closed.unbindAll name (s.chain env) kept (Store.mem_chain_of_closed kept.links he)
  closure {s env params body names} kept he _ hb _ := by
    refine ⟨⟨Nat.le_refl _, fun _ _ _ => rfl⟩, ⟨kept.grown, kept.links⟩, fun i hi => ?_⟩
    rcases List.mem_append.mp hi with hi | hi
    · exact he i (by simpa using hi)
    · obtain ⟨e, hm, hi⟩ := Value.mem_capturesAll.mp hi
      exact hb e hm i hi
  call {s identity params body env args} kept hf ha _ := by
    -- the closure refers to the frame around it, and its body to what it captures
    have around : ∀ i, env.frame? = some i → Region R start s i :=
      fun i hi => hf i (List.mem_append_left _ (by simp [hi]))
    have inner : ∀ e ∈ body, ∀ i ∈ e.captures, Region R start s i :=
      fun e hm i hi => hf i (List.mem_append_right _ (Value.mem_capturesAll.mpr ⟨e, hm, hi⟩))
    have pushed := kept.push (f := ⟨params.zip args, env⟩) fun j hj => by
      rcases Frame.mem_links_call hj with hj | ⟨a, hm, hj⟩
      · exact around j hj
      · exact ha a hm j hj
    refine ⟨pushed.1, pushed.2, fun i hi => ?_, fun e hm i hi => pushed.1.region (inner e hm i hi)⟩
    cases hi
    exact .inr ⟨kept.grown, by simp⟩

/-- A run that starts with the store `before` and is confined to the frames of `R` and new ones. -/
structure Confinement (R : Nat → Prop) (before : Store)
    (ended : EStateM.Result Error State Value) : Prop where
  /-- The other frames stay as they are. -/
  outside : ∀ i, i < before.frames.size → ¬ R i →
    (Eval.leaves ended).store.frames[i]? = before.frames[i]?
  /-- The result reaches nothing else. -/
  result : ∀ v st, ended = .ok v st → ∀ i, st.store.Reach v.captures i →
    Region R before st.store i
  /-- Nor do the frames of `R`. -/
  region : ∀ r, R r → ∀ i, (Eval.leaves ended).store.Reach [r] i →
    Region R before (Eval.leaves ended).store i

/-- A run that ends well under the discipline of a region is confined to it. -/
theorem Confinement.of_ends {R : Nat → Prop} {before : Store}
    {ended : EStateM.Result Error State Value}
    (ends : (Discipline.confined R before).Ends before (Discipline.confined R before).value ended
      ended) : Confinement R before ended := by
  have inside : ∀ s, Closed R before s → ∀ roots, (∀ i ∈ roots, Region R before s i) →
      ∀ i, s.Reach roots i → Region R before s i :=
    fun s kept roots hr i hi => Store.Reach.of_closed hr kept.links hi
  cases ended with
  | ok v st =>
    cases ends with
    | ok later kept good =>
      refine ⟨later.outside, fun w st' same i hi => ?_, fun r hr i hi => ?_⟩
      · cases same
        exact inside st.store kept _ good i hi
      · refine inside st.store kept [r] (fun j hj => ?_) i hi
        rw [List.mem_singleton.mp hj]
        exact .inl hr
  | error e st =>
    cases ends with
    | error later kept =>
      refine ⟨later.outside, fun w st' same => (by cases same), fun r hr i hi => ?_⟩
      refine inside st.store kept [r] (fun j hj => ?_) i hi
      rw [List.mem_singleton.mp hj]
      exact .inl hr
    | excused h => cases h

/-- The region of the frames that an environment and an expression reach starts out closed. -/
theorem Closed.of_reach (s : Store) (roots : List Nat) : Closed (s.Reach roots) s s := by
  refine ⟨Nat.le_refl _, fun i f hi hf j hj => ?_⟩
  rcases hi with hi | ⟨known, unknown⟩
  · exact .inl (hi.link hf hj)
  · omega

/-- Evaluation is confined to the frames that the environment and the expression reach and to
    those it makes. In particular an environment that does not reach the global frame leaves the
    global frame alone. -/
theorem Interp.evalAt_isolated (interp : Interp) (builtin : interp.forms = .builtin)
    (parts : ∀ f ∈ interp.hosts, f.ReturnsParts) (expr : Value) (env : Env) (depth : Nat)
    (st : State) :
    let R := st.store.Reach (env.frame?.toList ++ expr.captures)
    let ended := interp.evalAt expr env depth st
    Confinement R st.store ended ∧
      ∀ g, interp.global.frame? = some g → g < st.store.frames.size → ¬ R g →
        (Eval.leaves ended).store.frames[g]? = st.store.frames[g]? := by
  intro R ended
  have respects := interp.respects_confined parts R st.store
  have mates : (Discipline.confined R st.store).Mates interp interp := ⟨rfl, rfl, rfl, fun _ => rfl⟩
  have depths : (Discipline.confined R st.store).Depths interp interp Eq :=
    ⟨fun same => by rw [same], fun same admitted => same ▸ admitted,
      fun same refused => .inr ⟨same ▸ refused, rfl⟩⟩
  have agree := Discipline.evalAt_agree respects mates depths builtin (rfl : depth = depth)
  have started : ∀ i ∈ env.frame?.toList ++ expr.captures, Region R st.store st.store i :=
    fun i hi => .inl (.root hi)
  have confinement : Confinement R st.store ended := by
    refine .of_ends (agree st.store expr env (fun i hi => ?_) (fun i hi => ?_) st rfl ?_)
    · exact started i (List.mem_append_left _ (by simp [hi]))
    · exact started i (List.mem_append_right _ hi)
    · exact Closed.of_reach st.store _
  exact ⟨confinement, fun g _ known free => confinement.outside g known free⟩

/-- A frame apart from the global one, in which a variable is set to a closure over the frame and
    the closure goes through a host function into a list: the global frame stays as it was. -/
theorem Interp.evalAt_isolated_closure :
    let keep : HostFunction := ⟨.any, fun args => .ok (.list args)⟩
    let interp : Interp := { Interp.fresh (.memory []) .kept 20 with hosts := #[keep] }
    let apart : Frame := ⟨[("n", .number 0), ("keep", .primitive (.host "keep" 0))], .empty⟩
    let st : State := ⟨⟨#[Frame.ofBindings .empty initialBindings, apart], 0⟩, "", #[]⟩
    let expr : Value := .list [.symbol "begin",
      .list [.symbol "set!", .symbol "n", .list [.symbol "lambda", .list [], .symbol "n"]],
      .list [.symbol "keep", .symbol "n", .list [.symbol "n"]]]
    let ended := interp.evalAt expr ⟨some 1⟩ 0 st
    interp.forms = .builtin ∧ (∀ f ∈ interp.hosts, f.ReturnsParts) ∧
      Confinement (st.store.Reach [1]) st.store ended ∧
      interp.global.frame? = some 0 ∧ 0 < st.store.frames.size ∧ ¬ st.store.Reach [1] 0 ∧
      (Eval.leaves ended).store.frames[0]? = st.store.frames[0]? := by
  intro keep interp apart st expr ended
  have parts : ∀ f ∈ interp.hosts, f.ReturnsParts := by
    intro f hf args v run i hi
    obtain rfl : f = keep := by simpa [interp] using hf
    cases run
    exact hi
  have away : ¬ st.store.Reach [1] 0 := by
    intro h
    have one := Store.Reach.of_closed (P := (· = 1)) (by simp) ?_ h
    · cases one
    · intro i f hi hf j hj
      subst hi
      cases hf
      cases hj
  obtain ⟨confinement, global⟩ := interp.evalAt_isolated rfl parts expr ⟨some 1⟩ 0 st
  exact ⟨rfl, parts, confinement, rfl, by decide, away, global 0 rfl (by decide) away⟩

end MiniScheme
