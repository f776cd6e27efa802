import MiniScheme.Proofs.Likeness
import MiniScheme.Proofs.Streams

/- Evaluation ends. What bounds it is not the size of the expressions, which
   grows with closure bodies, expanded clauses and loaded sources, but the levels
   left up to the depth limit. `evalWatched` evaluates with a count of levels and
   a range of depths: a nested evaluation that is not strictly deeper, or deeper
   than the range allows, goes astray, wherever that leads. Main statement: with
   the builtin forms nothing ever goes astray, and every run ends with a value or
   an error of the program (`evaluation_ends`). One level is the step lemma
   (`strict_step`), the levels left are the induction (`evalAt_strict`). -/
namespace MiniScheme

/-- Every run ends with a value or with an error other than that of an evaluation that has
    restarted too often. -/
def Eval.Finishes {α : Type} (x : Eval α) : Prop :=
  ∀ st, (∃ a st', x st = .ok a st') ∨ ∃ e st', e ≠ .exhausted ∧ x st = .error e st'

/-- The likeness of runs that are the same and finish. -/
def Likeness.strict : Likeness :=
  .same (· ≠ .exhausted) fun checked exhausted => by rw [exhausted] at checked; exact checked

namespace Likeness

theorem strict_states_eq {st st' : State} (h : strict.States st st') : st' = st := by
  obtain ⟨store, output, logs⟩ := h
  cases st
  cases st'
  cases store
  cases output
  cases logs
  rfl

theorem strict_states_refl (st : State) : strict.States st st := ⟨rfl, rfl, rfl⟩

section
variable {α : Type} {x y : Eval α} (h : strict.Alike x y)
include h

theorem Alike.eq : x = y := by
  funext st
  have ends := h st st (strict_states_refl st)
  generalize x st = ended at ends
  generalize y st = ended' at ends
  cases ends with
  | ok states => rw [strict_states_eq states]
  | error _ states => rw [strict_states_eq states]

theorem Alike.finishes : x.Finishes := by
  intro st
  have ends := h st st (strict_states_refl st)
  generalize x st = ended at ends
  generalize y st = ended' at ends
  cases ends with
  | ok => exact .inl ⟨_, _, rfl⟩
  | error genuine => exact .inr ⟨_, _, genuine, rfl⟩

end

end Likeness

namespace Interp

/-- What an evaluation at `depth` hands on under watch: nested evaluations strictly deeper, and at
    most at `deepest`, are `eval`, and all others are `stray`. -/
def watched (depth deepest : Nat) (eval stray : Evaluator) : Evaluator := fun expr env deeper =>
  if depth < deeper ∧ deeper ≤ deepest then eval expr env deeper else stray expr env deeper

theorem watched_of_le {depth deepest deeper : Nat} (eval stray : Evaluator) (h : depth < deeper)
    (room : deeper ≤ deepest) (expr : Value) (env : Env) :
    watched depth deepest eval stray expr env deeper = eval expr env deeper :=
  if_pos ⟨h, room⟩

/-- Evaluation under watch, with at most `levels` evaluations inside one another. -/
def evalWatched (interp : Interp) (deepest : Nat) (stray : Evaluator) : (levels : Nat) → Evaluator
  | 0 => stray
  | levels + 1 => fun expr env depth =>
    interp.evalStep (watched depth deepest (interp.evalWatched deepest stray levels) stray)
      expr env depth

section
variable {interp : Interp} (builtin : interp.forms = .builtin)
  (hosts : ∀ f ∈ interp.hosts, ∀ args, f.run args ≠ .error .exhausted)
include builtin hosts

/-- A step below the limit needs evaluations one level down, and two levels down if the limit is
    further. -/
theorem strict_step {eval eval' : Evaluator} {depth : Nat}
    (one : Likeness.strict.Evaluators eval eval' (depth + 1))
    (two : depth + 1 < interp.limit → Likeness.strict.Evaluators eval eval' (depth + 2))
    (refused : interp.limit ≤ depth + 1 → ∀ expr env,
      eval expr env (depth + 1) = Eval.fault (.depthExceeded interp.limit)) :
    Likeness.strict.Evaluators (interp.evalStep eval) (interp.evalStep eval') depth := by
  intro expr env
  have admitted : ∀ f ∈ interp.hosts, ∀ args e,
      f.run args = .error e → Likeness.strict.admits e := by
    intro f known args e failed exhausted
    exact hosts f known args (by rw [failed, exhausted])
  refine Likeness.evalStep_alike admitted ?_ one ?_ (fun _ => Error.noConfusion) env
  · intro form known operands env
    rw [builtin] at known
    exact Likeness.builtin_alike _ interp known _ _ depth operands env one
  · -- an operator that has a value was not refused
    intro operator scope v given
    apply two
    apply Nat.lt_of_not_le
    intro tooDeep
    obtain ⟨st, st', value⟩ := given
    rw [refused tooDeep] at value
    cases value

/-- Evaluation is evaluation under watch, from every depth from which there are enough levels. -/
theorem evalAt_strict {deepest : Nat} (room : interp.limit ≤ deepest) (stray : Evaluator) :
    ∀ (levels depth : Nat), interp.limit - depth < levels →
      Likeness.strict.Evaluators interp.evalAt (interp.evalWatched deepest stray levels) depth
  | 0, _, enough => absurd enough (Nat.not_lt_zero _)
  | levels + 1, depth, enough => by
    intro expr env
    rw [evalAt_eq]
    show Likeness.strict.Alike _ (interp.evalStep (watched depth deepest
      (interp.evalWatched deepest stray levels) stray) expr env depth)
    by_cases limit : interp.limit ≤ depth
    · rw [evalStep_of_limit_le _ _ _ _ limit, evalStep_of_limit_le _ _ _ _ limit]
      exact Likeness.Alike.fault _
    -- one and two levels down are within the range
    have nests : ∀ deeper, depth < deeper → deeper ≤ interp.limit → Likeness.strict.Evaluators
        (interp.nested depth) (watched depth deepest (interp.evalWatched deepest stray levels) stray)
        deeper := by
      intro deeper lower within inner scope
      rw [nested_of_lt _ lower, watched_of_le _ _ lower (Nat.le_trans within room)]
      exact evalAt_strict room stray levels deeper (by omega) inner scope
    apply strict_step builtin hosts (nests (depth + 1) (by omega) (by omega))
    · intro further
      exact nests (depth + 2) (by omega) (by omega)
    · intro tooDeep inner scope
      rw [nested_of_lt _ (Nat.lt_succ_self depth), evalAt_of_limit_le _ _ _ tooDeep]

/-- Every evaluation is like itself. -/
theorem evalAt_strict_self (depth : Nat) :
    Likeness.strict.Evaluators interp.evalAt interp.evalAt depth := by
  intro expr env
  have same := evalAt_strict builtin hosts (Nat.le_refl _) interp.evalAt (interp.limit - depth + 1)
    depth (Nat.lt_succ_self _) expr env
  rw [← same.eq] at same
  exact same

theorem evalItems_strict : ∀ (items : List (Except ParseError Value)) (result : Value),
    Likeness.strict.Alike (interp.evalItems result items) (interp.evalItems result items)
  | [], result => Likeness.Alike.pure' result
  | .error _ :: _, _ => Likeness.Alike.throw' Error.noConfusion
  | .ok expr :: rest, _ => by
    apply Likeness.Alike.bind (evalAt_strict_self builtin hosts 0 expr interp.global)
    intro v _
    exact evalItems_strict rest v

/-- With the builtin forms every evaluation finishes, whatever the limit, the expression, the
    environment, the state and the depth it starts from. Nested evaluations are strictly deeper
    than the one around them, no deeper than the limit or two levels below the start, and at most
    as many inside one another as there are levels left: nothing is lost if all others go astray.
    The same holds of what a procedure is applied to and of a sequence. A text has finitely many
    expressions, so evaluating it finishes, too. -/
theorem evaluation_ends :
    (∀ expr env start, (interp.evalAt expr env start).Finishes ∧
      ∀ stray, interp.evalAt expr env start =
        interp.evalWatched (max interp.limit (start + 2)) stray (interp.limit - start + 1)
          expr env start) ∧
    (∀ operator args, (interp.apply operator args).Finishes ∧
      ∀ stray, interp.apply operator args =
        interp.applyWith (watched 0 (max interp.limit 2)
          (interp.evalWatched (max interp.limit 2) stray (interp.limit + 1)) stray)
          operator args 0) ∧
    (∀ exprs env, (interp.sequence exprs env).Finishes ∧
      ∀ stray, interp.sequence exprs env =
        evalSequence (watched 0 (max interp.limit 2)
          (interp.evalWatched (max interp.limit 2) stray (interp.limit + 1)) stray)
          env 0 exprs) ∧
    (∀ exprs env, (interp.operands exprs env).Finishes) ∧
    (∀ expr env, (interp.evalIn expr env).Finishes) ∧
    (∀ expr, (interp.eval expr).Finishes) ∧
    (∀ text, (Reader.Stream.ofText text).Yields (Reader.Stream.ofText text).drain ∧
      (interp.evalText text).Finishes) := by
  have self := evalAt_strict_self builtin hosts
  have admitted : ∀ f ∈ interp.hosts, ∀ args e,
      f.run args = .error e → Likeness.strict.admits e := by
    intro f known args e failed exhausted
    exact hosts f known args (by rw [failed, exhausted])
  have first : ∀ stray, Likeness.strict.Evaluators interp.evalAt
      (watched 0 (max interp.limit 2)
        (interp.evalWatched (max interp.limit 2) stray (interp.limit + 1)) stray) 1 := by
    intro stray expr env
    rw [watched_of_le _ _ (by omega) (by omega)]
    exact evalAt_strict builtin hosts (by omega) stray _ 1 (by omega) expr env
  refine ⟨?_, ?_, ?_, ?_, ?_, ?_, ?_⟩
  · intro expr env start
    refine ⟨(self start expr env).finishes, fun stray => ?_⟩
    exact (evalAt_strict builtin hosts (by omega) stray _ start (by omega) expr env).eq
  · intro operator args
    refine ⟨(Likeness.applyWith_alike admitted (self 1) operator args).finishes, fun stray => ?_⟩
    exact (Likeness.applyWith_alike admitted (first stray) operator args).eq
  · intro exprs env
    refine ⟨(Likeness.sequence_alike (self 1) env exprs).finishes, fun stray => ?_⟩
    exact (Likeness.sequence_alike (first stray) env exprs).eq
  · intro exprs env
    exact (Likeness.operands_alike (self 0) env exprs).finishes
  · intro expr env
    exact (self 0 expr env).finishes
  · intro expr
    exact (self 0 expr interp.global).finishes
  · intro text
    refine ⟨Reader.Stream.yields_drain _, ?_⟩
    exact (evalItems_strict builtin hosts _ _).finishes

end

/-- An interpreter with a source that loads itself, and with a host function. -/
def selfLoading : Interp :=
  { Interp.fresh (.memory [("self", "(load self)")]) .kept 7 with
    hosts := #[⟨.exactly 0, fun _ => .ok .unspecified⟩] }

/-- A procedure that applies its argument to itself, applied to itself. -/
def selfApplication : Value :=
  let twice : Value := .list [.symbol "lambda", .list [.symbol "f"],
    .list [.symbol "f", .symbol "f"]]
  .list [twice, twice]

/-- A source that loads itself and a procedure that applies itself both end, at the limit. -/
theorem evaluation_ends_self :
    (selfLoading.evalText "(load self)").Finishes ∧
    (selfLoading.eval selfApplication).Finishes ∧
    (∀ stray, selfLoading.evalAt selfApplication selfLoading.global 0 =
      selfLoading.evalWatched 7 stray 8 selfApplication selfLoading.global 0) ∧
    (match selfLoading.evalText "(load self)" initialState with
      | .error (.fault (.depthExceeded 7)) _ => true
      | _ => false) = true ∧
    (match selfLoading.eval selfApplication initialState with
      | .error (.fault (.depthExceeded 7)) _ => true
      | _ => false) = true := by
  have hosts : ∀ f ∈ selfLoading.hosts, ∀ args, f.run args ≠ .error .exhausted := by
    intro f known args
    obtain rfl : f = ⟨.exactly 0, fun _ => .ok .unspecified⟩ := by simpa [selfLoading] using known
    exact nofun
  obtain ⟨everywhere, -, -, -, -, ends, texts⟩ := @evaluation_ends selfLoading rfl hosts
  exact ⟨(texts _).2, ends _, (everywhere _ _ 0).2, by decide +kernel, by decide +kernel⟩

end Interp

end MiniScheme
