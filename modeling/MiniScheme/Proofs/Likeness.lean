import MiniScheme.Proofs.Errors
import MiniScheme.Proofs.Levels

/- Two runs from two states. A likeness says which logs may stand side by side
   and which errors a run may end with; states that are alike have one store and
   one output. `L.Alike x y` says that `x` and `y`, started in states that are
   alike, end with the same value or the same admitted error, in states that are
   alike again. Unlike a discipline, which judges stores and compares runs from
   one state, this looks at logs and errors. Main statements: every builtin
   handler takes evaluators that are alike one level down to computations that
   are alike (`builtin_alike`), and so does an evaluation that is headed by no
   form, which goes a level further down once its operator has a value
   (`evalPlain_alike`). -/
namespace MiniScheme

/-- What two runs may differ in, and what they may end with. -/
structure Likeness where
  logs : Array LogEvent → Array LogEvent → Prop
  /-- A run may end with the error. -/
  admits : Error → Prop
  logs_push : ∀ {a b : Array LogEvent} (event : LogEvent), logs a b →
    logs (a.push event) (b.push event)
  admits_of_check : ∀ {e : Error}, e.ofCheck → admits e

/-- There is no rule that evaluates the value. -/
def Value.isStuck : Value → Bool
  | .list [] | .primitive _ | .procedure .. => true
  | _ => false

/-- Some run of the computation ends with the value. -/
def Eval.Gives {α : Type} (x : Eval α) (a : α) : Prop := ∃ st st', x st = .ok a st'

/-- What a loader fetches are the items of the source. -/
theorem Loader.items_of_fetch {loader : Loader} {location : String}
    {items : List (Except Error Value)} (h : (loader.fetch location).Gives items) :
    loader.items location = .ok items := by
  obtain ⟨st, st', given⟩ := h
  unfold Loader.fetch at given
  cases opened : loader.items location with
  | error e => rw [opened] at given; cases given
  | ok found => rw [opened] at given; cases given; rfl

namespace Likeness

/-- The likeness of runs that are the same and end with an admitted error if with any. -/
def same (admits : Error → Prop) (checks : ∀ {e : Error}, e.ofCheck → admits e) : Likeness where
  logs := Eq
  admits := admits
  logs_push event equal := by rw [equal]
  admits_of_check := checks

/-- The states have one store and one output, and their logs may stand side by side. -/
structure States (L : Likeness) (a b : State) : Prop where
  store : b.store = a.store
  output : b.output = a.output
  logs : L.logs a.log b.log

/-- How two runs may end. -/
inductive Ends (L : Likeness) {α : Type} :
    EStateM.Result Error State α → EStateM.Result Error State α → Prop
  | ok {a : α} {st st' : State} (states : L.States st st') : Ends L (.ok a st) (.ok a st')
  | error {e : Error} {st st' : State} (admitted : L.admits e) (states : L.States st st') :
      Ends L (.error e st) (.error e st')

/-- Started in states that are alike, the two computations end alike. -/
def Alike (L : Likeness) {α : Type} (x y : Eval α) : Prop :=
  ∀ st st', L.States st st' → L.Ends (x st) (y st')

namespace Alike
variable {L : Likeness} {α β : Type}

theorem pure' (a : α) : L.Alike (pure a : Eval α) (pure a) := fun _ _ states => .ok states

theorem throw' {e : Error} (admitted : L.admits e) : L.Alike (throw e : Eval α) (throw e) :=
  fun _ _ states => .error admitted states

theorem fault (f : Fault) : L.Alike (Eval.fault f : Eval α) (Eval.fault f) :=
  throw' (L.admits_of_check trivial)

/-- The continuations need to be alike only for values that the first part can have. -/
theorem bind {x y : Eval α} {f g : α → Eval β} (hx : L.Alike x y)
    (hf : ∀ a, x.Gives a → L.Alike (f a) (g a)) : L.Alike (x >>= f) (y >>= g) := by
  intro st st' states
  have first := hx st st' states
  show L.Ends (EStateM.bind x f st) (EStateM.bind y g st')
  unfold EStateM.bind
  cases ended : x st with
  | ok a mid =>
    cases ended' : y st' with
    | ok b mid' =>
      rw [ended, ended'] at first
      cases first with
      | ok between => exact hf a ⟨st, mid, ended⟩ mid mid' between
    | error e mid' =>
      rw [ended, ended'] at first
      cases first
  | error e mid =>
    cases ended' : y st' with
    | ok b mid' =>
      rw [ended, ended'] at first
      cases first
    | error e' mid' =>
      rw [ended, ended'] at first
      cases first with
      | error admitted between => exact .error admitted between

/-- An event is logged on both sides. -/
theorem note_then (event : LogEvent) {x y : Eval α} (h : L.Alike x y) :
    L.Alike (do Eval.note event; x) (do Eval.note event; y) := by
  intro st st' states
  apply h
  exact ⟨states.store, states.output, L.logs_push event states.logs⟩

/-- A question about the store has one answer on both sides. -/
theorem ask_then (question : Store → β) {f g : β → Eval α} (h : ∀ b, L.Alike (f b) (g b)) :
    L.Alike (Eval.ask question >>= f) (Eval.ask question >>= g) := by
  intro st st' states
  have same : question st'.store = question st.store := congrArg question states.store
  show L.Ends (f (question st.store) st) (g (question st'.store) st')
  rw [same]
  exact h _ st st' states

/-- A check made before anything is done. -/
theorem ofExcept_then {r : Except Error β} (genuine : ∀ e, r = .error e → e.ofCheck)
    {f g : β → Eval α} (h : ∀ b, r = .ok b → L.Alike (f b) (g b)) :
    L.Alike (Eval.ofExcept r >>= f) (Eval.ofExcept r >>= g) := by
  cases r with
  | error e => exact fun _ _ states => .error (L.admits_of_check (genuine e rfl)) states
  | ok b => exact h b rfl

theorem ofExcept {r : Except Error α} (admitted : ∀ e, r = .error e → L.admits e) :
    L.Alike (Eval.ofExcept r) (Eval.ofExcept r) := by
  cases r with
  | error e => exact throw' (admitted e rfl)
  | ok a => exact pure' a

/-- A change of the store that may be refused. -/
theorem attempt {f : Store → Except Error Store}
    (genuine : ∀ s e, f s = .error e → e.ofCheck) :
    L.Alike (Eval.attempt f) (Eval.attempt f) := by
  intro st st' states
  unfold Eval.attempt
  rw [states.store]
  cases changed : f st.store with
  | error e => exact .error (L.admits_of_check (genuine _ e changed)) states
  | ok s => exact .ok ⟨rfl, states.output, states.logs⟩

theorem change (f : Store → Store) : L.Alike (Eval.change f) (Eval.change f) := by
  intro st st' states
  refine .ok ⟨?_, states.output, states.logs⟩
  exact congrArg f states.store

theorem write (text : String) : L.Alike (Eval.write text) (Eval.write text) := by
  intro st st' states
  refine .ok ⟨states.store, ?_, states.logs⟩
  show st'.output ++ text = st.output ++ text
  rw [states.output]

theorem noteFailure (event : Error → LogEvent) {x y : Eval α} (h : L.Alike x y) :
    L.Alike (Eval.noteFailure event x) (Eval.noteFailure event y) := by
  intro st st' states
  have inner := h st st' states
  unfold Eval.noteFailure
  generalize x st = ended at inner
  generalize y st' = ended' at inner
  cases inner with
  | ok left => exact .ok left
  | error admitted left =>
    exact .error admitted ⟨left.store, left.output, L.logs_push _ left.logs⟩

theorem extend (env : Env) (names : List String) (values : List Value) :
    L.Alike (Eval.extend env names values) (Eval.extend env names values) := by
  intro st st' states
  unfold Eval.extend Store.extend
  rw [states.store]
  by_cases fits : names.length = values.length
  · simp only [if_pos fits]
    exact .ok ⟨rfl, states.output, states.logs⟩
  · simp only [if_neg fits]
    exact .error (L.admits_of_check trivial) states

end Alike

/-- Two evaluators are alike at a depth. -/
def Evaluators (L : Likeness) (eval eval' : Evaluator) (depth : Nat) : Prop :=
  ∀ expr env, L.Alike (eval expr env depth) (eval' expr env depth)

/-- A handler takes evaluators that are alike one level down to computations that are alike. -/
def HandlerAlike (L : Likeness) (interp : Interp) (handler : Handler) : Prop :=
  ∀ eval eval' depth operands env, L.Evaluators eval eval' (depth + 1) →
    L.Alike (handler (interp.context eval) operands env depth)
      (handler (interp.context eval') operands env depth)

section
variable {L : Likeness} {eval eval' : Evaluator} {depth : Nat}

theorem sequence_alike (h : L.Evaluators eval eval' (depth + 1)) (env : Env) :
    ∀ exprs, L.Alike (evalSequence eval env depth exprs) (evalSequence eval' env depth exprs)
  | [] => Alike.fault _
  | [expr] => h expr env
  | expr :: next :: rest => by
    simp only [evalSequence]
    apply Alike.bind (h expr env)
    intro _ _
    exact sequence_alike h env (next :: rest)

theorem operands_alike (h : L.Evaluators eval eval' depth) (env : Env) :
    ∀ exprs, L.Alike (evalOperands eval env depth exprs) (evalOperands eval' env depth exprs)
  | [] => Alike.pure' _
  | expr :: rest => by
    simp only [evalOperands]
    apply Alike.bind (h expr env)
    intro v _
    apply Alike.bind (operands_alike h env rest)
    intro vs _
    exact Alike.pure' _

theorem items_alike (h : L.Evaluators eval eval' (depth + 1)) (location : String) (env : Env) :
    ∀ (items : List (Except Error Value)) (count : Nat),
      (∀ e, .error e ∈ items → e.ofCheck) →
      L.Alike (Form.evalItems eval location env depth count items)
        (Form.evalItems eval' location env depth count items)
  | [], _, _ => Alike.pure' _
  | item :: rest, count, genuine => by
    simp only [Form.evalItems]
    refine Alike.bind (Alike.noteFailure _ ?_) ?_
    · apply Alike.ofExcept_then
      · intro e failed
        exact genuine e (by simp [failed])
      · intro expr _
        exact h expr env
    · intro _ _
      apply items_alike h location env rest
      intro e known
      exact genuine e (List.mem_cons_of_mem _ known)

end

section
variable (L : Likeness) (interp : Interp)

theorem closure_alike (eval eval' : Evaluator) (params : Value) (body : List Value) (env : Env) :
    L.Alike (Form.closure (interp.context eval) params body env)
      (Form.closure (interp.context eval') params body env) := by
  apply Alike.ofExcept_then fun _ => Form.signature_genuine
  intro names _
  apply Alike.ask_then
  intro identity
  apply Alike.bind (Alike.change _)
  intro _ _
  exact Alike.pure' _

/-- The part that `define` and `set!` share: the name is checked, the expression evaluated and
    the value bound. -/
theorem binding_alike {eval eval' : Evaluator} {depth : Nat} (form : String) (target expr : Value)
    (env : Env) (bind : Env → String → Value → Eval Unit)
    (bind_alike : ∀ name v, L.Alike (bind env name v) (bind env name v))
    (h : L.Evaluators eval eval' depth) :
    L.Alike
      (do
        let name ← Eval.ofExcept (Form.bindable interp.forms.contains form target)
        let v ← eval expr env depth
        bind env name v
        return Value.symbol name)
      (do
        let name ← Eval.ofExcept (Form.bindable interp.forms.contains form target)
        let v ← eval' expr env depth
        bind env name v
        return Value.symbol name) := by
  apply Alike.ofExcept_then fun _ => Form.bindable_genuine
  intro name _
  apply Alike.bind (h expr env)
  intro v _
  apply Alike.bind (bind_alike name v)
  intro _ _
  exact Alike.pure' _

theorem define_alike (env : Env) (name : String) (v : Value) :
    L.Alike (Eval.define env name v) (Eval.define env name v) :=
  Alike.attempt fun _ _ => Store.define_genuine

theorem assign_alike (env : Env) (name : String) (v : Value) :
    L.Alike (Eval.assign env name v) (Eval.assign env name v) :=
  Alike.attempt fun _ _ => Store.set_genuine

theorem definition_alike : L.HandlerAlike interp Form.define := by
  intro eval eval' depth operands env h
  -- the three shapes of operands: a signature, a name and an expression, anything else
  by_cases signature : ∃ target params body, operands = .list (target :: params) :: body
  · obtain ⟨target, params, body, rfl⟩ := signature
    apply Alike.ofExcept_then fun _ => Form.bindable_genuine
    intro name _
    apply Alike.bind (closure_alike L interp eval eval' _ _ env)
    intro procedure _
    apply Alike.bind (define_alike L env name procedure)
    intro _ _
    exact Alike.pure' _
  have noSignature : ∀ target params body, operands ≠ .list (target :: params) :: body :=
    fun target params body same => signature ⟨target, params, body, same⟩
  by_cases two : ∃ target expr, operands = [target, expr]
  · obtain ⟨target, expr, rfl⟩ := two
    have plain : ∀ name params, target ≠ .list (name :: params) :=
      fun name params same => noSignature name params [expr] (by rw [same])
    rw [Form.define_value _ _ _ _ plain, Form.define_value _ _ _ _ plain]
    exact binding_alike L interp "define" target expr env Eval.define (define_alike L env) h
  · have notTwo : ∀ target expr, operands ≠ [target, expr] :=
      fun target expr same => two ⟨target, expr, same⟩
    rw [Form.define_malformed _ _ _ noSignature notTwo, Form.define_malformed _ _ _ noSignature notTwo]
    exact Alike.fault _

theorem assignment_alike : L.HandlerAlike interp Form.assignment := by
  intro eval eval' depth operands env h
  match operands with
  | [target, expr] =>
    exact binding_alike L interp "set!" target expr env Eval.assign (assign_alike L env) h
  | [] => exact Alike.fault _
  | [_] => exact Alike.fault _
  | _ :: _ :: _ :: _ => exact Alike.fault _

theorem conditional_alike : L.HandlerAlike interp Form.conditionalForm := by
  intro eval eval' depth operands env h
  match operands with
  | [test, consequent] =>
    apply Alike.bind (h test env)
    intro v _
    cases v.isTrue
    · exact Alike.pure' _
    · exact h consequent env
  | [test, consequent, alternative] =>
    apply Alike.bind (h test env)
    intro v _
    cases v.isTrue
    · exact h alternative env
    · exact h consequent env
  | [] => exact Alike.fault _
  | [_] => exact Alike.fault _
  | _ :: _ :: _ :: _ :: _ => exact Alike.fault _

theorem lambda_alike : L.HandlerAlike interp Form.lambda := by
  intro eval eval' depth operands env _
  cases operands with
  | nil => exact Alike.fault _
  | cons params body => exact closure_alike L interp eval eval' params body env

theorem cond_alike : L.HandlerAlike interp Form.cond := by
  intro eval eval' depth operands env h
  apply Alike.ofExcept_then fun _ => Form.expandClauses_genuine
  intro expanded _
  exact h expanded env

theorem load_alike : L.HandlerAlike interp Form.load := by
  intro eval eval' depth operands env h
  apply Alike.ofExcept_then fun _ => Form.singleOperand_genuine
  intro operand _
  apply Alike.ofExcept_then fun _ => Form.locationOf_genuine
  intro location _
  apply Alike.note_then
  have fetched : L.Alike (interp.loader.fetch location) (interp.loader.fetch location) :=
    Alike.note_then _ (Alike.ofExcept fun _ failed => L.admits_of_check (Loader.items_genuine failed))
  apply Alike.bind fetched
  intro items given
  have opened := Loader.items_of_fetch given
  apply Alike.bind (items_alike h location env items 0 fun _ => Loader.item_genuine opened)
  intro count _
  exact Alike.note_then _ (Alike.pure' operand)

/-- The forms that ask about a name, or unbind it. -/
theorem named_alike (form : String) (operands : List Value) {answer : String → Eval Bool}
    (h : ∀ name, L.Alike (answer name) (answer name)) :
    L.Alike
      (do
        let name ← Eval.ofExcept (Form.nameOperand form operands)
        return Value.bool (← answer name))
      (do
        let name ← Eval.ofExcept (Form.nameOperand form operands)
        return Value.bool (← answer name)) := by
  apply Alike.ofExcept_then fun _ => Form.nameOperand_genuine
  intro name _
  apply Alike.bind (h name)
  intro _ _
  exact Alike.pure' _

theorem asked_alike (question : Store → Bool) :
    L.Alike (Eval.ask question) (Eval.ask question) :=
  Alike.ask_then question fun b => Alike.pure' b

/-- A question about the store before a change of it. -/
theorem changed_alike (question : Store → Bool) (f : Store → Store) :
    L.Alike (do let bound ← Eval.ask question; Eval.change f; return bound)
      (do let bound ← Eval.ask question; Eval.change f; return bound) := by
  apply Alike.ask_then
  intro bound
  apply Alike.bind (Alike.change f)
  intro _ _
  exact Alike.pure' bound

/-- Every builtin handler takes evaluators that are alike one level down to computations that are
    alike. -/
theorem builtin_alike {form : Form} (known : form ∈ Form.builtins) :
    L.HandlerAlike interp form.handler := by
  simp only [Form.builtins, List.mem_cons, List.not_mem_nil, or_false] at known
  rcases known with rfl | rfl | rfl | rfl | rfl | rfl | rfl | rfl | rfl | rfl | rfl | rfl
  · intro _ _ _ operands _ _
    exact Alike.ofExcept fun _ failed => L.admits_of_check (Form.singleOperand_genuine failed)
  · exact definition_alike L interp
  · exact conditional_alike L interp
  · exact assignment_alike L interp
  · exact lambda_alike L interp
  · intro _ _ _ operands env h
    exact sequence_alike h env operands
  · exact cond_alike L interp
  · exact load_alike L interp
  · intro _ _ _ operands env _
    exact named_alike L "defined?" operands fun name => asked_alike L (·.isDefined env name)
  · intro _ _ _ operands env _
    exact named_alike L "locally-defined?" operands
      fun name => asked_alike L (·.isLocallyDefined env name)
  · intro _ _ _ operands env _
    exact named_alike L "make-unbound!" operands
      fun name => changed_alike L (·.isDefined env name) (·.unbind env name)
  · intro _ _ _ operands env _
    exact named_alike L "locally-make-unbound!" operands
      fun name => changed_alike L (·.isLocallyDefined env name) (·.unbindLocally env name)

end

/-! Calls, expressions that are headed by no form, and evaluation. -/

section
variable {L : Likeness} {interp : Interp}
variable (hosts : ∀ f ∈ interp.hosts, ∀ args e, f.run args = .error e → L.admits e)

theorem sink_alike (sink : Sink) (text : String) :
    L.Alike (sink.write text) (sink.write text) := by
  unfold Sink.write
  split
  · exact Alike.write text
  · split
    · exact Alike.pure' _
    · exact Alike.fault _

include hosts

theorem callPrimitive_alike (p : Primitive) (args : List Value) :
    L.Alike (interp.callPrimitive p args) (interp.callPrimitive p args) := by
  cases p with
  | builtin op =>
    apply Alike.ofExcept_then fun _ => Arity.check_genuine
    intro _ _
    apply Alike.ofExcept_then fun _ => Builtin.value_genuine
    intro v _
    apply Alike.bind (sink_alike _ _)
    intro _ _
    exact Alike.pure' v
  | host name slot =>
    unfold Interp.callPrimitive
    cases found : interp.hosts[slot]? with
    | none =>
      simp only [found]
      exact Alike.throw' (L.admits_of_check trivial)
    | some function =>
      simp only [found]
      apply Alike.ofExcept_then fun _ => Arity.check_genuine
      intro _ _
      exact Alike.ofExcept fun e => hosts function (Array.mem_of_getElem? found) args e

theorem applyWith_alike {eval eval' : Evaluator} {depth : Nat}
    (h : L.Evaluators eval eval' (depth + 1)) (operator : Value) (args : List Value) :
    L.Alike (interp.applyWith eval operator args depth)
      (interp.applyWith eval' operator args depth) := by
  apply Alike.note_then
  cases operator with
  | primitive p => exact callPrimitive_alike hosts p args
  | procedure _ params body env =>
    apply Alike.bind (Alike.extend env params args)
    intro inner _
    exact sequence_alike h inner body
  | _ => exact Alike.throw' (L.admits_of_check trivial)

/-- An evaluation that is headed by no form goes one level down, and two levels once something one
    level down has a value. -/
theorem evalPlain_alike {eval eval' : Evaluator} {depth : Nat}
    (one : L.Evaluators eval eval' (depth + 1))
    (two : ∀ expr env v, (eval expr env (depth + 1)).Gives v → L.Evaluators eval eval' (depth + 2))
    {expr : Value} (stuck : expr.isStuck = true → L.admits (.unknownExpression expr)) (env : Env) :
    L.Alike (interp.evalPlain eval expr env depth) (interp.evalPlain eval' expr env depth) := by
  cases expr with
  | number | string | bool | unspecified => exact Alike.pure' _
  | primitive | procedure => exact Alike.throw' (stuck rfl)
  | symbol name =>
    simp only [Interp.evalPlain]
    split
    · exact Alike.note_then _ (Alike.pure' _)
    · apply Alike.ask_then
      intro found
      cases found with
      | none => exact Alike.throw' (L.admits_of_check trivial)
      | some v => exact Alike.pure' v
  | list items =>
    cases items with
    | nil => exact Alike.throw' (stuck rfl)
    | cons operator operands =>
      apply Alike.bind (one operator env)
      intro f given
      apply Alike.bind (operands_alike one env operands)
      intro args _
      exact applyWith_alike hosts (two operator env f given) f args

/-- One level of evaluation, if the forms take the evaluators to computations that are alike. -/
theorem evalStep_alike {eval eval' : Evaluator} {depth : Nat}
    (forms : ∀ form ∈ interp.forms.forms, ∀ operands env,
      L.Alike (form.handler (interp.context eval) operands env depth)
        (form.handler (interp.context eval') operands env depth))
    (one : L.Evaluators eval eval' (depth + 1))
    (two : ∀ expr env v, (eval expr env (depth + 1)).Gives v → L.Evaluators eval eval' (depth + 2))
    {expr : Value} (stuck : expr.isStuck = true → L.admits (.unknownExpression expr)) (env : Env) :
    L.Alike (interp.evalStep eval expr env depth) (interp.evalStep eval' expr env depth) := by
  by_cases limit : interp.limit ≤ depth
  · rw [Interp.evalStep_of_limit_le _ _ _ _ limit, Interp.evalStep_of_limit_le _ _ _ _ limit]
    exact Alike.fault _
  have below : depth < interp.limit := Nat.lt_of_not_le limit
  rw [Interp.evalStep_of_lt _ _ _ _ below, Interp.evalStep_of_lt _ _ _ _ below]
  cases headed : interp.formOf? expr with
  | some found =>
    obtain ⟨form, operands⟩ := found
    obtain ⟨head, -, registered⟩ := Interp.of_formOf? headed
    exact Alike.note_then _ (forms form (List.mem_of_find?_eq_some registered) operands env)
  | none => exact evalPlain_alike hosts one two stuck env

end

end Likeness

end MiniScheme
