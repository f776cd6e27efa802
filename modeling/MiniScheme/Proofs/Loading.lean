import MiniScheme.Proofs.Clauses
import MiniScheme.Proofs.Likeness
import MiniScheme.Proofs.Streams

/- Loading a source is evaluating its expressions in order. The two runs log
   different events, so they are compared as runs that may differ in their logs,
   which no evaluation looks at if no handler does (`evalAt_unlogged`). The loop
   over the items of a source keeps step with the recursion over the expressions
   of a sequence (`evalItems_run`): what a source cannot be read from on comes up
   when all before it is done. Main statement: `load` has the effects of `begin`
   over the expressions of the source, fails as it does or with the error that
   ends the source, and reports how many expressions were evaluated
   (`evalAt_load`). -/
namespace MiniScheme

/-- The likeness of runs that may differ in their logs. -/
def Likeness.unlogged : Likeness where
  logs _ _ := True
  admits _ := True
  logs_push _ _ := trivial
  admits_of_check _ := trivial

/-- The state with one more event in its log. -/
def State.noted (st : State) (event : LogEvent) : State := { st with log := st.log.push event }

namespace Interp

/-- The evaluator's runs do not depend on the log. -/
def EvaluatorUnlogged (eval : Evaluator) : Prop :=
  ∀ depth, Likeness.unlogged.Evaluators eval eval depth

/-- The handler does not look at the log, if the evaluator it is given does not: the log is only
    there to be written. -/
def HandlerUnlogged (interp : Interp) (handler : Handler) : Prop :=
  ∀ eval, EvaluatorUnlogged eval → ∀ operands env depth,
    Likeness.unlogged.Alike (handler (interp.context eval) operands env depth)
      (handler (interp.context eval) operands env depth)

section
variable {interp : Interp}
variable (handlers : ∀ form ∈ interp.forms.forms,
  form ∈ Form.builtins ∨ interp.HandlerUnlogged form.handler)
include handlers

theorem evalStep_unlogged {eval : Evaluator} (nested : EvaluatorUnlogged eval) :
    EvaluatorUnlogged (interp.evalStep eval) := by
  intro depth expr env
  refine Likeness.evalStep_alike (fun _ _ _ _ _ => trivial) ?_ (nested (depth + 1))
    (fun _ _ _ _ => nested (depth + 2)) (fun _ => trivial) env
  intro form registered operands env
  rcases handlers form registered with known | unlogged
  · exact Likeness.builtin_alike _ interp known eval eval depth operands env (nested (depth + 1))
  · exact unlogged eval nested operands env depth

/-- Evaluation does not depend on the log if no handler does. -/
theorem evalAt_unlogged : EvaluatorUnlogged interp.evalAt := by
  intro depth expr env
  refine evalAt_induct (P := fun _ _ _ x => Likeness.unlogged.Alike x x) ?_ ?_ ?_ expr env depth
  · exact fun _ _ _ => Likeness.Alike.fault _
  · intro eval nested expr env depth
    exact evalStep_unlogged handlers (fun depth expr env => nested expr env depth) depth expr env
  · exact fun _ _ _ => Likeness.Alike.throw' trivial

end

/-- Evaluates expressions in order, each one level down. -/
def evalAll (interp : Interp) (env : Env) (depth : Nat) : List Value → Eval Unit
  | [] => return ()
  | expr :: rest => do
    let _ ← interp.evalAt expr env (depth + 1)
    interp.evalAll env depth rest

/-- How many of the expressions, evaluated in order and one level down, have values before the
    first that fails. -/
def evaluated (interp : Interp) (env : Env) (depth : Nat) : List Value → State → Nat
  | [], _ => 0
  | expr :: rest, st =>
    match interp.evalAt expr env (depth + 1) st with
    | .ok _ st => interp.evaluated env depth rest st + 1
    | .error _ _ => 0

/-- What `(begin expr ...)` does, and nothing if there are no expressions. -/
def begun (interp : Interp) (exprs : List Value) (env : Env) (depth : Nat) : Eval Value :=
  if exprs.isEmpty then return .unspecified
  else interp.evalAt (.list (.symbol "begin" :: exprs)) env depth

/-- A sequence evaluates all its expressions. -/
theorem evalAll_sequence (interp : Interp) (env : Env) (depth : Nat) : ∀ expr rest,
    interp.evalAll env depth (expr :: rest) =
      (do let _ ← evalSequence interp.evalAt env depth (expr :: rest); return ())
  | expr, [] => rfl
  | expr, next :: rest => by
    rw [evalAll, evalAll_sequence interp env depth next rest]
    simp only [evalSequence, bind_assoc]

theorem evalAll_cons (interp : Interp) (env : Env) (depth : Nat) (expr : Value) (rest : List Value)
    (st : State) :
    interp.evalAll env depth (expr :: rest) st =
      match interp.evalAt expr env (depth + 1) st with
      | .ok _ st => interp.evalAll env depth rest st
      | .error e st => .error e st := by
  show EStateM.bind (interp.evalAt expr env (depth + 1)) _ st = _
  unfold EStateM.bind
  cases interp.evalAt expr env (depth + 1) st <;> rfl

/-- The loop over the items of a source only asks the evaluator one level down. -/
theorem evalItems_congr {eval eval' : Evaluator} {location : String} {env : Env} {depth : Nat}
    (h : ∀ expr, eval expr env (depth + 1) = eval' expr env (depth + 1)) :
    ∀ (items : List (Except Error Value)) (count : Nat),
      Form.evalItems eval location env depth count items =
        Form.evalItems eval' location env depth count items
  | [], _ => rfl
  | item :: rest, count => by
    simp only [Form.evalItems, h, evalItems_congr h rest]

/-- One item of a source: an expression is evaluated one level down, and a failure is noted. -/
theorem evalItems_cons (eval : Evaluator) (location : String) (env : Env) (depth count : Nat)
    (expr : Value) (rest : List (Except Error Value)) (st : State) :
    Form.evalItems eval location env depth count (.ok expr :: rest) st =
      match eval expr env (depth + 1) st with
      | .ok _ st => Form.evalItems eval location env depth (count + 1) rest st
      | .error e st => .error e (st.noted (.loadStopped location count e)) := by
  show EStateM.bind (Eval.noteFailure (.loadStopped location count) (eval expr env (depth + 1))) _ st
    = _
  unfold EStateM.bind Eval.noteFailure
  cases eval expr env (depth + 1) st <;> rfl

/-- A load that has found its source notes that, evaluates the items and gives its operand. -/
theorem load_run (ctx : Context) {operand : Value} {location : String}
    {items : List (Except Error Value)} (named : Form.locationOf operand = .ok location)
    (opened : ctx.loader.items location = .ok items) (env : Env) (depth : Nat) :
    Form.load ctx [operand] env depth = (do
      Eval.note (.loading location)
      Eval.note (.opening location ctx.loader.origin)
      let count ← Form.evalItems ctx.eval location env depth 0 items
      Eval.note (.loaded count location)
      return operand) := by
  simp only [Form.load, Form.singleOperand, Loader.fetch, named, opened, Eval.ofExcept, pure_bind,
    bind_assoc]

section
variable {interp : Interp}
variable (handlers : ∀ form ∈ interp.forms.forms,
  form ∈ Form.builtins ∨ interp.HandlerUnlogged form.handler)
include handlers

theorem evaluated_unlogged (env : Env) (depth : Nat) : ∀ (exprs : List Value) {st st' : State},
    Likeness.unlogged.States st st' →
      interp.evaluated env depth exprs st' = interp.evaluated env depth exprs st
  | [], _, _, _ => rfl
  | expr :: rest, st, st', states => by
    have first := evalAt_unlogged handlers (depth + 1) expr env st st' states
    unfold evaluated
    generalize interp.evalAt expr env (depth + 1) st = ended at first
    generalize interp.evalAt expr env (depth + 1) st' = ended' at first
    cases first with
    | ok between => simp only [evaluated_unlogged env depth rest between]
    | error => rfl

/-- The items of a source keep step with its expressions. Where an expression fails, the source
    stops with the same error and tells how many were evaluated; where none fails, what is left of
    the source remains to be evaluated. -/
theorem evalItems_run (location : String) (env : Env) (depth : Nat)
    (others : List (Except Error Value)) :
    ∀ (exprs : List Value) (count : Nat) {st st' : State}, Likeness.unlogged.States st st' →
      match interp.evalAll env depth exprs st with
      | .error e left => ∃ left', Likeness.unlogged.States left left' ∧
          Form.evalItems interp.evalAt location env depth count (exprs.map .ok ++ others) st' =
            .error e (left'.noted
              (.loadStopped location (count + interp.evaluated env depth exprs st) e))
      | .ok _ left => interp.evaluated env depth exprs st = exprs.length ∧
          ∃ left', Likeness.unlogged.States left left' ∧
            Form.evalItems interp.evalAt location env depth count (exprs.map .ok ++ others) st' =
              Form.evalItems interp.evalAt location env depth (count + exprs.length) others left'
  | [], _, _, st', states => ⟨rfl, st', states, rfl⟩
  | expr :: rest, count, st, st', states => by
    have first := evalAt_unlogged handlers (depth + 1) expr env st st' states
    rw [evalAll_cons, List.map_cons, List.cons_append, evalItems_cons, evaluated, List.length_cons]
    generalize interp.evalAt expr env (depth + 1) st = ended at first
    generalize interp.evalAt expr env (depth + 1) st' = ended' at first
    cases first with
    | error _ between => exact ⟨_, between, rfl⟩
    | @ok _ mid mid' between =>
      have others := evalItems_run location env depth others rest (count + 1) between
      simp only
      generalize interp.evalAll env depth rest mid = run at others
      cases run with
      | error e left =>
        obtain ⟨left', states, stopped⟩ := others
        refine ⟨left', states, stopped.trans ?_⟩
        rw [Nat.add_right_comm, Nat.add_assoc]
      | ok _ left =>
        obtain ⟨all, left', states, remains⟩ := others
        refine ⟨by rw [all], left', states, remains.trans ?_⟩
        rw [Nat.add_right_comm, Nat.add_assoc]

variable (grown : interp.forms.Grown)
include grown

omit handlers in
/-- What `begin` does to the store and the output is evaluating all expressions, also if there are
    none. -/
theorem begun_run {depth : Nat} (admitted : depth < interp.limit) (env : Env) (exprs : List Value)
    (st : State) :
    ∃ st', Likeness.unlogged.States st st' ∧ interp.evalAll env depth exprs st' =
      match interp.begun exprs env depth st with
      | .ok _ left => .ok () left
      | .error e left => .error e left := by
  cases exprs with
  | nil => exact ⟨st, ⟨rfl, rfl, trivial⟩, rfl⟩
  | cons expr rest =>
    refine ⟨st.noted (.dispatching "begin"), ⟨rfl, rfl, trivial⟩, ?_⟩
    have headed := evalAt_sequenceOf grown env depth (expr :: rest)
    rw [guarded, if_neg (Nat.not_le.mpr admitted)] at headed
    have dispatched : interp.begun (expr :: rest) env depth st =
        evalSequence interp.evalAt env depth (expr :: rest) (st.noted (.dispatching "begin")) :=
      congrFun headed st
    rw [dispatched, evalAll_sequence]
    show EStateM.bind (evalSequence interp.evalAt env depth (expr :: rest)) _ _ = _
    unfold EStateM.bind
    cases evalSequence interp.evalAt env depth (expr :: rest) (st.noted (.dispatching "begin")) <;>
      rfl

omit handlers in
/-- What `load` does to the store and the output is evaluating the items of its source. -/
theorem evalAt_load_run {operand : Value} {location : String} {items : List (Except Error Value)}
    (named : Form.locationOf operand = .ok location)
    (opened : interp.loader.items location = .ok items) {depth : Nat}
    (admitted : depth < interp.limit) (env : Env) (st : State) :
    ∃ st', Likeness.unlogged.States st st' ∧
      interp.evalAt (.list [.symbol "load", operand]) env depth st =
        match Form.evalItems interp.evalAt location env depth 0 items st' with
        | .ok count left => .ok operand (left.noted (.loaded count location))
        | .error e left => .error e left := by
  let start := ((st.noted (.dispatching "load")).noted (.loading location)).noted
    (.opening location interp.loader.origin)
  refine ⟨start, ⟨rfl, rfl, trivial⟩, ?_⟩
  have registered : interp.forms.find? "load" = some ⟨"load", Form.load⟩ := grown.find?_builtin rfl
  have deeper := fun expr => interp.nested_of_lt (Nat.lt_succ_self depth) expr env
  have loads : interp.evalAt (.list [.symbol "load", operand]) env depth = (do
      Eval.note (.dispatching "load")
      Form.load (interp.context (interp.nested depth)) [operand] env depth) :=
    interp.evalAt_form_of_lt registered [operand] env admitted
  rw [loads, load_run (interp.context (interp.nested depth)) named opened]
  simp only [context, evalItems_congr deeper]
  show EStateM.bind (Form.evalItems interp.evalAt location env depth 0 items) _ start = _
  unfold EStateM.bind
  cases Form.evalItems interp.evalAt location env depth 0 items start <;> rfl

/-- Loading a source and evaluating its expressions with `begin` leave the same store and the same
    output. If `begin` fails, `load` fails with the same error, and otherwise with the error that
    ends the source, if one does; without an error it gives its operand. When it fails, its last
    event is a warning with the number of expressions that were evaluated. -/
theorem evalAt_load {operand : Value} {location text : String} {exprs : List Value}
    {stop : Option ParseError} (named : Form.locationOf operand = .ok location)
    (opened : interp.loader.read location = .ok text)
    (read : Reader.readAll text = exprs.map Except.ok ++ stop.toList.map Except.error)
    {depth : Nat} (admitted : depth < interp.limit) (env : Env) (st : State) :
    match interp.begun exprs env depth st with
    | .error e left => ∃ left' : State, left'.store = left.store ∧ left'.output = left.output ∧
        interp.evalAt (.list [.symbol "load", operand]) env depth st =
          .error e (left'.noted
            (.loadStopped location (interp.evaluated env depth exprs st) e))
    | .ok _ left => ∃ left' : State, left'.store = left.store ∧ left'.output = left.output ∧
        interp.evalAt (.list [.symbol "load", operand]) env depth st =
          match stop with
          | none => .ok operand left'
          | some e => .error (.parse e) (left'.noted
              (.loadStopped location (interp.evaluated env depth exprs st) (.parse e))) := by
  have items : interp.loader.items location =
      .ok (exprs.map Except.ok ++ (stop.map Error.parse).toList.map Except.error) := by
    simp only [Loader.items, opened, read, List.map_append, List.map_map]
    cases stop <;> rfl
  obtain ⟨start, begins, all⟩ := begun_run grown admitted env exprs st
  obtain ⟨start', loads, run⟩ := evalAt_load_run grown named items admitted env st
  have states : Likeness.unlogged.States start start' :=
    ⟨loads.store.trans begins.store.symm, loads.output.trans begins.output.symm, trivial⟩
  have steps := evalItems_run handlers location env depth
    ((stop.map Error.parse).toList.map Except.error) exprs 0 states
  rw [evaluated_unlogged handlers env depth exprs begins, Nat.zero_add, Nat.zero_add, all] at steps
  rw [run]
  generalize interp.begun exprs env depth st = ended at steps
  cases ended with
  | error e left =>
    obtain ⟨left', kept, stopped⟩ := steps
    exact ⟨left', kept.store, kept.output, by rw [stopped]⟩
  | ok v left =>
    obtain ⟨count, left', kept, remains⟩ := steps
    rw [remains]
    cases stop with
    | none => exact ⟨left'.noted (.loaded exprs.length location), kept.store, kept.output, rfl⟩
    | some e =>
      refine ⟨left', kept.store, kept.output, ?_⟩
      rw [count]
      rfl

end

/-- An interpreter with one more form, and with a source whose third expression cannot be read. -/
def withSeven : Interp :=
  { Interp.fresh (.memory [("broken", "(define x (seven)) ; x\n(display x)\n)")]) .kept 12 with
    forms := ⟨Form.builtins ++ [⟨"seven", fun _ _ _ _ => return .number 7⟩]⟩ }

/-- The output of the second expression is there, and two expressions are counted. -/
theorem evalAt_load_broken :
    let exprs : List Value := [
      .list [.symbol "define", .symbol "x", .list [.symbol "seven"]],
      .list [.symbol "display", .symbol "x"]]
    withSeven.forms.Grown ∧
    (∀ form ∈ withSeven.forms.forms, form ∈ Form.builtins ∨
      withSeven.HandlerUnlogged form.handler) ∧
    ∃ (text : String) (e : ParseError) (left : State),
      withSeven.loader.read "broken" = .ok text ∧
      Reader.readAll text = exprs.map Except.ok ++ [.error e] ∧ left.output = "7" ∧
      withSeven.evalAt (.list [.symbol "load", .symbol "broken"]) withSeven.global 3 initialState =
        .error (.parse e) (left.noted (.loadStopped "broken" 2 (.parse e))) := by
  intro exprs
  have added : Registry.builtin.insert "seven" (fun _ _ _ _ => return .number 7) =
    .ok withSeven.forms := rfl
  have grown : withSeven.forms.Grown := .insert .builtin added
  have handlers : ∀ form ∈ withSeven.forms.forms,
      form ∈ Form.builtins ∨ withSeven.HandlerUnlogged form.handler := by
    intro form known
    rcases List.mem_append.mp known with builtin | new
    · exact .inl builtin
    · cases List.mem_singleton.mp new
      exact .inr fun _ _ _ _ _ => Likeness.Alike.pure' _
  have drained : (Reader.Stream.ofText "(define x (seven)) ; x\n(display x)\n)").drain =
    exprs.map Except.ok ++ [.error ⟨.malformed, [')']⟩] := rfl
  obtain ⟨e, read⟩ : ∃ e, Reader.readAll "(define x (seven)) ; x\n(display x)\n)" =
      exprs.map Except.ok ++ (some e).toList.map Except.error := by
    rw [Reader.readAll_eq, drained]
    exact ⟨_, rfl⟩
  obtain ⟨v, left, ran, shown⟩ : ∃ (v : Value) (left : State),
      withSeven.begun exprs withSeven.global 3 initialState = .ok v left ∧ left.output = "7" :=
    ⟨_, _, rfl, rfl⟩
  have counted : withSeven.evaluated withSeven.global 3 exprs initialState = 2 := rfl
  have named : Form.locationOf (.symbol "broken") = .ok "broken" := rfl
  have opened : withSeven.loader.read "broken" =
    .ok "(define x (seven)) ; x\n(display x)\n)" := rfl
  have admitted : 3 < withSeven.limit := by decide
  have loaded := evalAt_load handlers grown named opened read admitted withSeven.global initialState
  rw [ran, counted] at loaded
  obtain ⟨left', -, output, stopped⟩ := loaded
  exact ⟨grown, handlers, _, e, left', opened, read, output.trans shown, stopped⟩

end Interp

end MiniScheme
