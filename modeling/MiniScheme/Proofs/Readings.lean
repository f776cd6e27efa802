import MiniScheme.Proofs.Clients
import MiniScheme.Proofs.Code

/- Clients that have nothing but texts. They evaluate all expressions of a text in
   the global environment, or the one expression of a text in some environment,
   and load sources by evaluating a `load` (`Reading`). So all expressions they
   start from are readable, and the procedures they can get at have readable
   bodies (`Reads.within`). Main statement: for such a client data never becomes
   code. A reading comes out the same if every expression is checked before it is
   evaluated, and fails for want of a rule only at the empty list
   (`Reads.data_is_not_code`). -/
namespace MiniScheme

/-- A text to evaluate: all of its expressions in the global environment, or its one expression in
    a given one. -/
inductive Reading where
  | all (text : String)
  | single (comments : Bool) (text : String) (env : Env)

namespace Reading

/-- Reads, and has the interpreter evaluate what was read. -/
def perform (interp : Interp) : Reading → Eval Value
  | all text => interp.evalText text
  | single comments text env =>
    match Reader.parse comments text.toList with
    | .error e => throw (.parse e)
    | .ok expr => interp.evalIn expr env

/-- Evaluates items in order, up to the first that could not be read. -/
def evalItems (eval : Value → Eval Value) (result : Value) :
    List (Except ParseError Value) → Eval Value
  | [] => return result
  | .error e :: _ => throw (.parse e)
  | .ok expr :: rest => do
    let v ← eval expr
    evalItems eval v rest

/-- Reads, and evaluates what was read by the given evaluator. -/
def performWith (global : Env) (eval : Value → Env → Eval Value) : Reading → Eval Value
  | all text => evalItems (eval · global) .unspecified (Reader.readAll text)
  | single comments text env =>
    match Reader.parse comments text.toList with
    | .error e => throw (.parse e)
    | .ok expr => eval expr env

theorem evalItems_eq (interp : Interp) :
    ∀ (items : List (Except ParseError Value)) (result : Value),
      interp.evalItems result items = evalItems (interp.evalIn · interp.global) result items
  | [], _ => rfl
  | .error _ :: _, _ => rfl
  | .ok expr :: rest, _ => by
    simp only [Interp.evalItems, evalItems, evalItems_eq interp rest]
    rfl

theorem perform_eq (interp : Interp) (r : Reading) :
    r.perform interp = r.performWith interp.global interp.evalIn := by
  cases r with
  | all text => exact evalItems_eq interp _ _
  | single => rfl

section
variable {D : Discipline} {eval eval' : Value → Env → Eval Value}
  (each : ∀ {expr : Value}, expr.readable = true → ∀ s env,
    D.Agree s D.value (eval expr env) (eval' expr env))
include each

theorem evalItems_agrees (env : Env) :
    ∀ (items : List (Except ParseError Value)) (result : Value) (s : Store),
      (∀ v, .ok v ∈ items → v.readable = true) → D.value s result →
      D.Agree s D.value (evalItems (eval · env) result items) (evalItems (eval' · env) result items)
  | [], _, _, _, hr => Discipline.Agree.pure' hr
  | .error _ :: _, _, _, _, _ => Discipline.Agree.throw' _
  | .ok expr :: rest, _, s, readable, _ => by
    have first : expr.readable = true := readable expr List.mem_cons_self
    refine Discipline.Agree.bind (each first s env) fun s' v _ hv => ?_
    exact evalItems_agrees env rest v s' (fun w hw => readable w (List.mem_cons_of_mem _ hw)) hv

/-- Evaluators that agree on what is readable agree on what was read. -/
theorem performWith_agrees (global : Env) (r : Reading) {s : Store}
    (unspecified : D.value s .unspecified) :
    D.Agree s D.value (r.performWith global eval) (r.performWith global eval') := by
  cases r with
  | all text =>
    exact evalItems_agrees each global _ _ s (fun v hv => Reader.readable_of_readAll hv) unspecified
  | single comments text env =>
    simp only [performWith]
    cases read : Reader.parse comments text.toList with
    | error e => exact Discipline.Agree.throw' _
    | ok expr => exact each (Reader.readable_of_parse read).1 s env

end

section
variable {L : Likeness} {eval : Value → Env → Eval Value}
  (each : ∀ {expr : Value}, expr.readable = true → ∀ env, L.Alike (eval expr env) (eval expr env))
include each

theorem evalItems_alike (env : Env) :
    ∀ (items : List (Except ParseError Value)) (result : Value),
      (∀ v, .ok v ∈ items → v.readable = true) →
      L.Alike (evalItems (eval · env) result items) (evalItems (eval · env) result items)
  | [], _, _ => Likeness.Alike.pure' _
  | .error _ :: _, _, _ => Likeness.Alike.throw' (L.admits_of_check trivial)
  | .ok expr :: rest, _, readable => by
    apply Likeness.Alike.bind (each (readable expr List.mem_cons_self) env)
    intro v _
    exact evalItems_alike env rest v fun w hw => readable w (List.mem_cons_of_mem _ hw)

/-- An evaluator whose runs on what is readable end as they may keeps to that on what was read. -/
theorem performWith_alike (global : Env) (r : Reading) :
    L.Alike (r.performWith global eval) (r.performWith global eval) := by
  cases r with
  | all text =>
    exact evalItems_alike each global _ _ fun v hv => Reader.readable_of_readAll hv
  | single comments text env =>
    simp only [performWith]
    cases read : Reader.parse comments text.toList with
    | error e => exact Likeness.Alike.throw' (L.admits_of_check trivial)
    | ok expr => exact each (Reader.readable_of_parse read).1 env

end

/-- The reading under a check of every expression with those around it: what does not pass goes
    astray. -/
noncomputable def performChecked (interp : Interp) (check : List Value → Value → Prop)
    (stray : Evaluator) (r : Reading) : Eval Value :=
  r.performWith interp.global fun expr env =>
    interp.evalChecked check stray (interp.limit + 1) [] expr env 0

section
variable {interp : Interp} (builtin : interp.forms = .builtin)
include builtin

/-- A reading is the reading under a check that lets pass what may arise. -/
theorem perform_checked (hosts : ∀ f ∈ interp.hosts, f.MakesNoProcedures)
    {check : List Value → Value → Prop} (checks : ∀ {around v}, Arises around v → check around v)
    (stray : Evaluator) (r : Reading) (s : Store) :
    Policy.textual.discipline.Agree s Policy.textual.discipline.value (r.perform interp)
      (r.performChecked interp check stray) := by
  rw [perform_eq]
  refine performWith_agrees (fun readable s env => ?_) _ r (Policy.admits_of_isAtom rfl)
  exact Interp.evalAt_checked builtin hosts checks stray _ 0 (by omega) s [] _ env
    (.readable readable)

/-- Where nothing passes but what may arise, only the empty list is an unknown expression. -/
theorem performChecked_stuck
    (hosts : ∀ f ∈ interp.hosts, ∀ args e, f.run args = .error e → Likeness.knowing.admits e)
    (r : Reading) :
    Likeness.knowing.Alike (r.performChecked interp Arises Interp.refusing)
      (r.performChecked interp Arises Interp.refusing) :=
  performWith_alike (fun _ env => Interp.evalChecked_stuck builtin hosts _ 0 [] _ env) _ r

end

end Reading

namespace Client

/-- The client after a reading. -/
def read (c : Client) (r : Reading) : Client := c.take (r.perform c.interp c.state)

/-- The second client is the first after some readings, whatever their outcomes. Single expressions
    may be evaluated in any environment, so also in any that a procedure closes over. -/
inductive Reads (a : Client) : Client → Prop
  | done : Reads a a
  | next {b : Client} (r : Reading) (before : Reads a b) : Reads a (b.read r)

namespace Reads
variable {loader : Loader} {sink : Sink} {limit : Nat} {c : Client}

/-- After readings the procedures have readable bodies, and the interpreter is a fresh one. -/
theorem within (run : (start loader sink limit).Reads c) :
    c.Within Policy.textual ∧ c.interp = Interp.fresh loader sink limit := by
  induction run with
  | done =>
    refine ⟨⟨⟨Nat.zero_le _, fun _ _ _ => trivial, ?_⟩, fun _ none => ?_⟩, rfl⟩
    · intro p held
      exact absurd held (Interp.not_holds_initialState p)
    · cases none
  | @next b r _ ih =>
    obtain ⟨W, fresh⟩ := ih
    have builtin : b.interp.forms = .builtin := by rw [fresh]; rfl
    have hosts : ∀ f ∈ b.interp.hosts, f.MakesNoProcedures := by simp [fresh, Interp.fresh]
    have checked := Reading.perform_checked builtin hosts Arises.proper Interp.refusing r
      b.state.store
    obtain ⟨-, after, same⟩ := W.take (checked.self nofun)
    exact ⟨after, same.trans fresh⟩

/-- For a client that starts afresh and has nothing but texts, procedures have readable bodies, no
    reading evaluates a procedure, a primitive or the unspecified value, except this one at the end
    of a `cond` without an `else`, and the only unknown expression is the empty list. -/
theorem data_is_not_code (run : (start loader sink limit).Reads c) :
    (∀ p, c.Holds p → ∀ e ∈ p.body, e.readable = true) ∧
      ∀ r : Reading,
        (∀ stray, r.performChecked c.interp Proper stray c.state = r.perform c.interp c.state) ∧
          ∀ expr st, r.perform c.interp c.state = .error (.unknownExpression expr) st →
            expr = .list [] ∧ expr.display = "()" := by
  obtain ⟨W, fresh⟩ := run.within
  have builtin : c.interp.forms = .builtin := by rw [fresh]; rfl
  have none : c.interp.hosts = #[] := by rw [fresh]; rfl
  have hosts : ∀ f ∈ c.interp.hosts, f.MakesNoProcedures := by simp [none]
  have same : ∀ {check : List Value → Value → Prop},
      (∀ {around v}, Arises around v → check around v) → ∀ stray (r : Reading),
        r.performChecked c.interp check stray c.state = r.perform c.interp c.state := by
    intro check checks stray r
    have ends := Reading.perform_checked builtin hosts checks stray r _ c.state rfl W.store
    exact ends.eq fun _ _ _ => not_false
  refine ⟨fun p held => W.procedure held, fun r => ⟨fun stray => same Arises.proper stray r, ?_⟩⟩
  intro expr st failed
  rw [← same id Interp.refusing r] at failed
  have stuck := Reading.performChecked_stuck builtin (by simp [none]) r
  have alike := stuck c.state c.state ⟨rfl, rfl, rfl⟩
  rw [failed] at alike
  cases alike with
  | error admitted =>
    obtain rfl := admitted expr rfl
    exact ⟨rfl, rfl⟩

/-- A loaded procedure whose body is a `cond` without an `else`, which is held in a list with the
    unspecified value that a call of it ended at. A call with `()` for an operand fails. -/
theorem data_is_not_code_loaded :
    let a := start (.memory [("lib", "(define (f x) (cond ((< x 0) x)))")]) .kept 9
    let c := (a.read (.all "(load lib)")).read (.all "(list f (f 1))")
    let failing := Reading.all "(f ())"
    a.Reads c ∧ (∃ p, c.Holds p ∧ p.body ≠ [] ∧ ∀ e ∈ p.body, e.readable = true) ∧
      (∀ stray, failing.performChecked c.interp Proper stray c.state =
        failing.perform c.interp c.state) ∧
      ∃ expr st, failing.perform c.interp c.state = .error (.unknownExpression expr) st ∧
        expr.display = "()" := by
  intro a c failing
  have run : a.Reads c := .next _ (.next _ .done)
  obtain ⟨bodies, readings⟩ := data_is_not_code run
  refine ⟨run, ?_, (readings failing).1, ?_⟩
  · have held : (Value.closuresAll c.received).any (!·.body.isEmpty) = true := by decide +kernel
    obtain ⟨p, hp, body⟩ := List.any_eq_true.mp held
    exact ⟨p, .inr hp, by simpa using body, bodies p (.inr hp)⟩
  · have failed : (match failing.perform c.interp c.state with
        | .error (.unknownExpression _) _ => true
        | _ => false) = true := by decide +kernel
    split at failed
    next expr st ended => exact ⟨expr, st, ended, ((readings failing).2 expr st ended).2⟩
    · cases failed

end Reads

end Client

end MiniScheme
