import MiniScheme.Proofs.Discipline

/- The builtin forms keep every discipline that the operations of the store
   keep. `D.Respects interp` lists what is owed: how expressions and values are
   built from parts, and what looking up, binding, unbinding, making a closure
   and calling one do to a store. `D.Mates interp interp'` says what two
   interpreters share; their depth limits and the forms that no expression names
   may differ. Main statement: every builtin handler takes agreeing evaluators
   to agreeing computations (`builtin_agrees`). -/
namespace MiniScheme

/-- The value has no parts. -/
def Value.isAtom : Value → Bool
  | .number _ | .symbol _ | .string _ | .bool _ | .unspecified => true
  | .list _ | .primitive _ | .procedure .. => false

namespace Discipline

/-- What an interpreter's operations owe to a discipline, clauses without an `else` apart. -/
structure Observes (D : Discipline) (interp : Interp) : Prop where
  expr_items : ∀ {s items}, D.expr s (.list items) → ∀ v ∈ items, D.expr s v
  expr_list : ∀ {s items}, (∀ v ∈ items, D.expr s v) → D.expr s (.list items)
  expr_if : ∀ s, D.expr s (.symbol "if")
  expr_begin : ∀ s, D.expr s (.symbol "begin")
  value_of_expr : ∀ {s v}, D.expr s v → D.value s v
  value_atom : ∀ s {v : Value}, v.isAtom = true → D.value s v
  value_items : ∀ {s items}, D.value s (.list items) → ∀ v ∈ items, D.value s v
  value_list : ∀ {s items}, (∀ v ∈ items, D.value s v) → D.value s (.list items)
  read : ∀ {s location items v}, interp.loader.items location = .ok items → .ok v ∈ items →
    D.expr s v
  host : ∀ {s} {f : HostFunction} {args v}, f ∈ interp.hosts → f.run args = .ok v →
    (∀ a ∈ args, D.value s a) → D.value s v
  lookup : ∀ {s env name v}, D.store s → D.env s env → s.lookup? env name = some v → D.value s v
  define : ∀ {s s' env name v}, D.store s → D.env s env → D.value s v →
    interp.forms.contains name = false → s.define env name v = .ok s' → D.later s s' ∧ D.store s'
  set : ∀ {s s' env name v}, D.store s → D.env s env → D.value s v →
    interp.forms.contains name = false → s.set env name v = .ok s' → D.later s s' ∧ D.store s'
  unbindLocally : ∀ {s env} name, D.store s → D.env s env →
    D.later s (s.unbindLocally env name) ∧ D.store (s.unbindLocally env name)
  unbind : ∀ {s env} name, D.store s → D.env s env →
    D.later s (s.unbind env name) ∧ D.store (s.unbind env name)
  /-- Making a closure. -/
  closure : ∀ {s env params body names}, D.store s → D.env s env → D.expr s params →
    (∀ e ∈ body, D.expr s e) → Form.signature interp.forms.contains params body = .ok names →
    let s' : Store := { s with procedures := s.procedures + 1 }
    D.later s s' ∧ D.store s' ∧ D.value s' (.procedure s.procedures names body env)
  /-- The frame of a call. -/
  call : ∀ {s identity params body env args}, D.store s →
    D.value s (.procedure identity params body env) → (∀ a ∈ args, D.value s a) →
    params.length = args.length →
    let (inner, s') := s.push ⟨params.zip args, env⟩
    D.later s s' ∧ D.store s' ∧ D.env s' inner ∧ ∀ e ∈ body, D.expr s' e

/-- What an interpreter's operations owe to a discipline: the value that clauses without an `else`
    end in may be evaluated, too. -/
structure Respects (D : Discipline) (interp : Interp) : Prop extends D.Observes interp where
  expr_unspecified : ∀ s, D.expr s .unspecified

/-- What two interpreters share. -/
structure Mates (D : Discipline) (interp interp' : Interp) : Prop where
  hosts : interp'.hosts = interp.hosts
  sink : interp'.sink = interp.sink
  loader : interp'.loader = interp.loader
  forms : ∀ {s name}, D.expr s (.symbol name) →
    interp'.forms.find? name = interp.forms.find? name

/-- Two evaluators agree on all expressions, each at its own depth. -/
def Evaluators (D : Discipline) (eval eval' : Evaluator) (depth depth' : Nat) : Prop :=
  ∀ s expr env, D.env s env → D.expr s expr →
    D.Agree s D.value (eval expr env depth) (eval' expr env depth')

/-- A handler takes agreeing evaluators to agreeing computations. -/
def HandlerAgrees (D : Discipline) (interp interp' : Interp) (handler : Handler) : Prop :=
  ∀ eval eval' depth depth' s operands env, D.Evaluators eval eval' (depth + 1) (depth' + 1) →
    D.env s env → (∀ v ∈ operands, D.expr s v) →
    D.Agree s D.value (handler (interp.context eval) operands env depth)
      (handler (interp'.context eval') operands env depth')

section
variable {D : Discipline} {eval eval' : Evaluator} {s : Store} {env : Env} {depth depth' : Nat}

theorem sequence_agrees (h : D.Evaluators eval eval' (depth + 1) (depth' + 1)) :
    ∀ (exprs : List Value) (s : Store), D.env s env → (∀ e ∈ exprs, D.expr s e) →
      D.Agree s D.value (evalSequence eval env depth exprs) (evalSequence eval' env depth' exprs)
  | [], _, _, _ => Agree.fault _
  | [expr], s, he, hx => h s expr env he (hx expr (by simp))
  | expr :: next :: rest, s, he, hx => by
    simp only [evalSequence]
    refine Agree.bind (h s expr env he (hx expr (by simp))) fun s' _ later _ => ?_
    refine sequence_agrees h (next :: rest) s' (D.env_later later he) fun e hm => ?_
    exact D.expr_later later (hx e (List.mem_cons_of_mem _ hm))

theorem operands_agree (h : D.Evaluators eval eval' depth depth') :
    ∀ (exprs : List Value) (s : Store), D.env s env → (∀ e ∈ exprs, D.expr s e) →
      D.Agree s (fun s vs => ∀ v ∈ vs, D.value s v) (evalOperands eval env depth exprs)
        (evalOperands eval' env depth' exprs)
  | [], _, _, _ => Agree.pure' (by simp)
  | expr :: rest, s, he, hx => by
    simp only [evalOperands]
    refine Agree.bind (h s expr env he (hx expr (by simp))) fun s₁ v later hv => ?_
    have he₁ : D.env s₁ env := D.env_later later he
    refine Agree.bind (operands_agree h rest s₁ he₁ fun e hm => ?_) fun s₂ vs later₂ hvs => ?_
    · exact D.expr_later later (hx e (List.mem_cons_of_mem _ hm))
    · apply Agree.pure'
      intro w hw
      rcases List.mem_cons.mp hw with rfl | hw
      · exact D.value_later later₂ hv
      · exact hvs w hw

/-- Reading a source is one step, evaluating its expressions the others; an item that could not
    be read ends both runs. -/
theorem items_agree (h : D.Evaluators eval eval' (depth + 1) (depth' + 1)) (location : String) :
    ∀ (items : List (Except Error Value)) (count : Nat) (s : Store), D.env s env →
      (∀ s v, .ok v ∈ items → D.expr s v) →
      D.Agree s (fun _ _ => True) (Form.evalItems eval location env depth count items)
        (Form.evalItems eval' location env depth' count items)
  | [], _, _, _, _ => Agree.pure' trivial
  | item :: rest, count, s, he, hx => by
    simp only [Form.evalItems]
    refine Agree.bind (P := D.value) (Agree.noteFailure _ ?_) fun s' _ later _ => ?_
    · refine Agree.ofExcept_then fun expr hitem => ?_
      exact h s expr env he (hx s expr (by simp [hitem]))
    · refine items_agree h location rest (count + 1) s' (D.env_later later he) fun s v hm => ?_
      exact hx s v (List.mem_cons_of_mem _ hm)

end

section
variable {D : Discipline} {interp interp' : Interp} (R : D.Observes interp)
variable (M : D.Mates interp interp')

/-! Names that may be bound are the same for both interpreters. -/

include M in
theorem isForm_eq {s : Store} {name : String} (h : D.expr s (.symbol name)) :
    interp'.forms.contains name = interp.forms.contains name := by
  unfold Registry.contains
  rw [M.forms h]

include M in
theorem bindable_eq {s : Store} (form : String) {target : Value} (h : D.expr s target) :
    Form.bindable interp'.forms.contains form target
      = Form.bindable interp.forms.contains form target := by
  cases target with
  | symbol name => simp only [Form.bindable, isForm_eq M h]
  | _ => rfl

include M in
theorem parameterNames_eq {s : Store} :
    ∀ (params : List Value) (seen : List String), (∀ p ∈ params, D.expr s p) →
      Form.parameterNames interp'.forms.contains seen params
        = Form.parameterNames interp.forms.contains seen params
  | [], _, _ => rfl
  | param :: rest, seen, h => by
    have ih := fun seen => parameterNames_eq rest seen fun p hp => h p (List.mem_cons_of_mem _ hp)
    simp only [Form.parameterNames, bindable_eq M "lambda" (h param (by simp)), ih]

include R M in
theorem signature_eq {s : Store} {params : Value} (body : List Value) (h : D.expr s params) :
    Form.signature interp'.forms.contains params body
      = Form.signature interp.forms.contains params body := by
  cases params with
  | list names => simp only [Form.signature, parameterNames_eq M names [] (R.expr_items h)]
  | _ => rfl

/-! The operations that a form makes on the store. -/

include R

theorem assign_agrees {s : Store} {env : Env} {name : String} {v : Value} (he : D.env s env)
    (hv : D.value s v) (free : interp.forms.contains name = false) :
    D.Agree s (fun _ _ => True) (Eval.assign env name v) (Eval.assign env name v) :=
  Agree.attempt fun _ kept done => R.set kept he hv free done

theorem define_agrees {s : Store} {env : Env} {name : String} {v : Value} (he : D.env s env)
    (hv : D.value s v) (free : interp.forms.contains name = false) :
    D.Agree s (fun _ _ => True) (Eval.define env name v) (Eval.define env name v) :=
  Agree.attempt fun _ kept done => R.define kept he hv free done

theorem unbind_agrees {s : Store} {env : Env} (name : String) (he : D.env s env) :
    D.Agree s (fun _ _ => True) (Eval.unbind env name) (Eval.unbind env name) := by
  unfold Eval.unbind
  refine Agree.ask_then _ (Agree.bind (Agree.change fun kept => R.unbind name kept he) ?_)
  exact fun _ _ _ _ => Agree.pure' trivial

theorem unbindLocally_agrees {s : Store} {env : Env} (name : String) (he : D.env s env) :
    D.Agree s (fun _ _ => True) (Eval.unbindLocally env name) (Eval.unbindLocally env name) := by
  unfold Eval.unbindLocally
  refine Agree.ask_then _ (Agree.bind (Agree.change fun kept => R.unbindLocally name kept he) ?_)
  exact fun _ _ _ _ => Agree.pure' trivial

theorem lookup_agrees {s : Store} {env : Env} (name : String) (he : D.env s env) :
    D.Agree s D.value (Eval.lookup env name) (Eval.lookup env name) := by
  unfold Eval.lookup
  -- what the variable holds is good only because the store is
  intro st hs kept
  subst hs
  refine Agree.ask_then _ ?_ st rfl kept
  cases found : st.store.lookup? env name with
  | none => exact Agree.throw' _
  | some v => exact Agree.pure' (R.lookup kept he found)

include M in
theorem closure_agrees {s : Store} {env : Env} {params : Value} {body : List Value}
    (eval eval' : Evaluator) (he : D.env s env) (hp : D.expr s params)
    (hb : ∀ e ∈ body, D.expr s e) :
    D.Agree s D.value (Form.closure (interp.context eval) params body env)
      (Form.closure (interp'.context eval') params body env) := by
  show D.Agree s D.value (Eval.ofExcept (Form.signature interp.forms.contains params body) >>= _)
    (Eval.ofExcept (Form.signature interp'.forms.contains params body) >>= _)
  rw [signature_eq R M body hp]
  refine Agree.ofExcept_then fun names hn => ?_
  intro st hs kept
  subst hs
  obtain ⟨later, kept', good⟩ := R.closure kept he hp hb hn
  exact .ok later kept' good

/-! The handlers one by one. -/

theorem quote_agrees : D.HandlerAgrees interp interp' Form.quote := by
  intro eval eval' depth depth' s operands env _ _ hx
  exact Agree.ofExcept fun v hv => R.value_of_expr (hx v (Form.of_singleOperand hv))

theorem conditional_agrees : D.HandlerAgrees interp interp' Form.conditionalForm := by
  intro eval eval' depth depth' s operands env h he hx
  match operands, hx with
  | [test, consequent], hx =>
    refine Agree.bind (h s test env he (hx test (by simp))) fun s' v later _ => ?_
    cases v.isTrue
    · exact Agree.pure' (R.value_atom s' rfl)
    · exact h s' consequent env (D.env_later later he) (D.expr_later later (hx consequent (by simp)))
  | [test, consequent, alternative], hx =>
    refine Agree.bind (h s test env he (hx test (by simp))) fun s' v later _ => ?_
    have he' := D.env_later later he
    cases v.isTrue
    · exact h s' alternative env he' (D.expr_later later (hx alternative (by simp)))
    · exact h s' consequent env he' (D.expr_later later (hx consequent (by simp)))
  | [], _ => exact Agree.fault _
  | [_], _ => exact Agree.fault _
  | _ :: _ :: _ :: _ :: _, _ => exact Agree.fault _

/-- The part that `define` and `set!` share: the name is checked, the expression evaluated and
    the value bound. -/
theorem binding_agrees {eval eval' : Evaluator} {depth depth' : Nat} {s : Store} {env : Env}
    {target expr : Value} (M : D.Mates interp interp') (form : String)
    (bind : Env → String → Value → Eval Unit)
    (bind_agrees : ∀ {s name v}, D.env s env → D.value s v → interp.forms.contains name = false →
      D.Agree s (fun _ _ => True) (bind env name v) (bind env name v))
    (h : D.Evaluators eval eval' depth depth') (he : D.env s env) (ht : D.expr s target)
    (hx : D.expr s expr) :
    D.Agree s D.value
      (do
        let name ← Eval.ofExcept (Form.bindable interp.forms.contains form target)
        let v ← eval expr env depth
        bind env name v
        return .symbol name)
      (do
        let name ← Eval.ofExcept (Form.bindable interp'.forms.contains form target)
        let v ← eval' expr env depth'
        bind env name v
        return .symbol name) := by
  rw [bindable_eq M form ht]
  refine Agree.ofExcept_then fun name hn => ?_
  refine Agree.bind (h s expr env he hx) fun s₁ v later hv => ?_
  refine Agree.bind (bind_agrees (D.env_later later he) hv (Form.of_bindable hn).2) fun s₂ _ _ _ => ?_
  exact Agree.pure' (R.value_atom s₂ rfl)

include M in
theorem assignment_agrees : D.HandlerAgrees interp interp' Form.assignment := by
  intro eval eval' depth depth' s operands env h he hx
  match operands, hx with
  | [target, expr], hx =>
    exact binding_agrees R M "set!" Eval.assign (assign_agrees R) h he (hx target (by simp))
      (hx expr (by simp))
  | [], _ => exact Agree.fault _
  | [_], _ => exact Agree.fault _
  | _ :: _ :: _ :: _, _ => exact Agree.fault _

include M in
theorem procedureDefinition_agrees {eval eval' : Evaluator} {s : Store} {env : Env}
    {target : Value} {params body : List Value} (he : D.env s env) (ht : D.expr s target)
    (hp : ∀ p ∈ params, D.expr s p) (hb : ∀ e ∈ body, D.expr s e) (depth depth' : Nat) :
    D.Agree s D.value
      (Form.define (interp.context eval) (.list (target :: params) :: body) env depth)
      (Form.define (interp'.context eval') (.list (target :: params) :: body) env depth') := by
  show D.Agree s D.value
    (Eval.ofExcept (Form.bindable interp.forms.contains "define" target) >>= _)
    (Eval.ofExcept (Form.bindable interp'.forms.contains "define" target) >>= _)
  rw [bindable_eq M "define" ht]
  refine Agree.ofExcept_then fun name hn => ?_
  refine Agree.bind (closure_agrees R M eval eval' he (R.expr_list hp) hb) fun s₁ v later hv => ?_
  have bound := define_agrees R (D.env_later later he) hv (Form.of_bindable hn).2
  exact Agree.bind bound fun s₂ _ _ _ => Agree.pure' (R.value_atom s₂ rfl)

include M in
theorem definition_agrees : D.HandlerAgrees interp interp' Form.define := by
  intro eval eval' depth depth' s operands env h he hx
  -- the three shapes of operands: a signature, a name and an expression, anything else
  by_cases signature : ∃ target params body, operands = .list (target :: params) :: body
  · obtain ⟨target, params, body, rfl⟩ := signature
    have parts := R.expr_items (hx (.list (target :: params)) (by simp))
    exact procedureDefinition_agrees R M he (parts target (by simp))
      (fun p hp => parts p (by simp [hp])) (fun e hm => hx e (by simp [hm])) depth depth'
  have noSignature : ∀ target params body, operands ≠ .list (target :: params) :: body :=
    fun target params body same => signature ⟨target, params, body, same⟩
  by_cases two : ∃ target expr, operands = [target, expr]
  · obtain ⟨target, expr, rfl⟩ := two
    have plain : ∀ name params, target ≠ .list (name :: params) :=
      fun name params same => noSignature name params [expr] (by rw [same])
    rw [Form.define_value _ _ _ _ plain, Form.define_value _ _ _ _ plain]
    exact binding_agrees R M "define" Eval.define (define_agrees R) h he (hx target (by simp))
      (hx expr (by simp))
  · have notTwo : ∀ target expr, operands ≠ [target, expr] :=
      fun target expr same => two ⟨target, expr, same⟩
    rw [Form.define_malformed _ _ _ noSignature notTwo, Form.define_malformed _ _ _ noSignature notTwo]
    exact Agree.fault _

include M in
theorem lambda_agrees : D.HandlerAgrees interp interp' Form.lambda := by
  intro eval eval' depth depth' s operands env _ he hx
  match operands, hx with
  | [], _ => exact Agree.fault _
  | params :: body, hx =>
    exact closure_agrees R M eval eval' he (hx params (by simp)) fun e hm => hx e (by simp [hm])

omit R in
theorem begin_agrees : D.HandlerAgrees interp interp' Form.sequence := by
  intro eval eval' depth depth' s operands env h he hx
  exact sequence_agrees h operands s he hx

theorem expr_sequenceOf {s : Store} {body : List Value} (h : ∀ e ∈ body, D.expr s e) :
    D.expr s (Form.sequenceOf body) := by
  refine R.expr_list fun v hv => ?_
  rcases List.mem_cons.mp hv with rfl | hv
  · exact R.expr_begin s
  · exact h v hv

include M in
theorem load_agrees : D.HandlerAgrees interp interp' Form.load := by
  intro eval eval' depth depth' s operands env h he hx
  refine Agree.ofExcept_then fun operand ho => ?_
  refine Agree.ofExcept_then fun location _ => Agree.note_then _ ?_
  show D.Agree s D.value (interp.loader.fetch location >>= _) (interp'.loader.fetch location >>= _)
  rw [M.loader]
  refine Agree.bind (P := fun s' items => s' = s ∧ interp.loader.items location = .ok items)
    (Agree.note_then _ (Agree.ofExcept fun items hi => ⟨rfl, hi⟩)) ?_
  intro s' items _ opened
  obtain ⟨rfl, hi⟩ := opened
  have run := items_agree h location items 0 s' he fun s v hm => R.read hi hm
  refine Agree.bind run fun s₂ _ later _ => Agree.note_then _ (Agree.pure' ?_)
  exact D.value_later later (R.value_of_expr (hx operand (Form.of_singleOperand ho)))

theorem isDefined_agrees : D.HandlerAgrees interp interp' Form.isDefined := by
  intro eval eval' depth depth' s operands env _ _ _
  refine Agree.ofExcept_then fun name _ => Agree.ask_then _ (Agree.pure' (R.value_atom s rfl))

theorem isLocallyDefined_agrees : D.HandlerAgrees interp interp' Form.isLocallyDefined := by
  intro eval eval' depth depth' s operands env _ _ _
  refine Agree.ofExcept_then fun name _ => Agree.ask_then _ (Agree.pure' (R.value_atom s rfl))

theorem makeUnbound_agrees : D.HandlerAgrees interp interp' Form.makeUnbound := by
  intro eval eval' depth depth' s operands env _ he _
  refine Agree.ofExcept_then fun name _ => Agree.bind (unbind_agrees R name he) ?_
  exact fun s' _ _ _ => Agree.pure' (R.value_atom s' rfl)

theorem makeLocallyUnbound_agrees : D.HandlerAgrees interp interp' Form.makeLocallyUnbound := by
  intro eval eval' depth depth' s operands env _ he _
  refine Agree.ofExcept_then fun name _ => Agree.bind (unbindLocally_agrees R name he) ?_
  exact fun s' _ _ _ => Agree.pure' (R.value_atom s' rfl)

include M in
/-- Every builtin handler but that of `cond` takes agreeing evaluators to agreeing computations. -/
theorem builtin_agrees_unless_cond {form : Form} (h : form ∈ Form.builtins)
    (other : form.tag ≠ "cond") : D.HandlerAgrees interp interp' form.handler := by
  simp only [Form.builtins, List.mem_cons, List.not_mem_nil, or_false] at h
  rcases h with rfl | rfl | rfl | rfl | rfl | rfl | rfl | rfl | rfl | rfl | rfl | rfl
  · exact quote_agrees R
  · exact definition_agrees R M
  · exact conditional_agrees R
  · exact assignment_agrees R M
  · exact lambda_agrees R M
  · exact begin_agrees
  · exact absurd rfl other
  · exact load_agrees R M
  · exact isDefined_agrees R
  · exact isLocallyDefined_agrees R
  · exact makeUnbound_agrees R
  · exact makeLocallyUnbound_agrees R

end

section
variable {D : Discipline} {interp interp' : Interp} (R : D.Respects interp)
variable (M : D.Mates interp interp')
include R

/-- What the clauses of `cond` stand for is built from their parts. -/
theorem expr_of_expandClauses {s : Store} :
    ∀ {clauses : List Value} {expanded : Value}, Form.expandClauses clauses = .ok expanded →
      (∀ c ∈ clauses, D.expr s c) → D.expr s expanded
  | [], _, rfl, _ => R.expr_unspecified s
  | clause :: rest, expanded, h, hc => by
    obtain ⟨head, body, parts, shape⟩ := Form.of_expandClauses_cons h
    obtain ⟨rfl, -⟩ := Form.of_clauseParts parts
    have items := R.expr_items (hc (.list (head :: body)) (by simp))
    have sequence : D.expr s (Form.sequenceOf body) :=
      expr_sequenceOf R.toObserves fun e he => items e (by simp [he])
    rcases shape with ⟨-, -, rfl⟩ | ⟨-, alternative, expandedRest, rfl⟩
    · exact sequence
    · have others := expr_of_expandClauses expandedRest fun c hm => hc c (by simp [hm])
      refine R.expr_list fun v hv => ?_
      simp only [List.mem_cons, List.not_mem_nil, or_false] at hv
      rcases hv with rfl | rfl | rfl | rfl
      · exact R.expr_if s
      · exact items v (by simp)
      · exact sequence
      · exact others

theorem cond_agrees : D.HandlerAgrees interp interp' Form.cond := by
  intro eval eval' depth depth' s operands env h he hx
  refine Agree.ofExcept_then fun expanded hexp => ?_
  exact h s expanded env he (expr_of_expandClauses R hexp hx)

include M in
/-- Every builtin handler takes agreeing evaluators to agreeing computations. -/
theorem builtin_agrees {form : Form} (h : form ∈ Form.builtins) :
    D.HandlerAgrees interp interp' form.handler := by
  by_cases cond : form.tag = "cond"
  · have tagged : ∀ f ∈ Form.builtins, f.tag = "cond" → f = ⟨"cond", Form.cond⟩ := by
      simp [Form.builtins]
    rw [tagged form h cond]
    exact cond_agrees R
  · exact builtin_agrees_unless_cond R.toObserves M h cond

end

end Discipline

end MiniScheme
