import MiniScheme.Proofs.Clauses
import MiniScheme.Proofs.Sharing

/- What expressions come to, rule by rule. `Yields x s a s'` says that a run of `x`
   on the store `s` ends with `a` and leaves the store `s'`, whatever the output
   and the log hold. Each operation of an evaluation has a rule, and so has each
   kind of expression that programs are made of: numbers, variables, calls of
   builtins and of closures, definitions, assignments, conditionals and `lambda`
   (`Interp.yields_number` to `Interp.yields_lambda`). A rule asks for the outcomes
   of the nested expressions one level down, so the outcome of a program is put
   together as the program is nested. What is evaluated last in a call, a form or
   a sequence decides how it ends: `Leads x s y s'` says that a run of `x` on `s`
   goes on as the run of `y` on `s'`, so both end alike, also if they fail
   (`Interp.leads_form` to `Interp.leads_closure`). Variables are looked up along
   the path of an environment (`Store.Path.lookup?_eq`), which is read off the
   frames. -/
namespace MiniScheme

namespace Store

theorem Path.chainWithin_eq {s : Store} {env : Env} {is : List Nat} (path : s.Path env is)
    (descending : is.Pairwise (· > ·)) :
    ∀ {bound : Nat}, (∀ j ∈ is, j < bound) → s.chainWithin bound env = is := by
  induction path with
  | empty => intro bound _; cases bound <;> rfl
  | @frame i f above here rest ih =>
    intro bound low
    obtain ⟨lower, descending⟩ := List.pairwise_cons.mp descending
    cases bound with
    | zero => exact absurd (low i List.mem_cons_self) (Nat.not_lt_zero i)
    | succ bound =>
      have room : ∀ j ∈ above, j < bound := by
        intro j hj
        have := lower j hj
        have := low i List.mem_cons_self
        omega
      simp only [chainWithin, here, ih descending room]

/-- A path to ever older frames is the chain of its environment. -/
theorem Path.chain_eq {s : Store} {env : Env} {is : List Nat} (path : s.Path env is)
    (descending : is.Pairwise (· > ·)) : s.chain env = is := by
  cases path with
  | empty => rfl
  | @frame i f above here rest =>
    refine (Path.frame here rest).chainWithin_eq descending fun j hj => ?_
    rcases List.mem_cons.mp hj with rfl | hj
    · exact Nat.lt_succ_self j
    · exact Nat.lt_succ_of_lt ((List.pairwise_cons.mp descending).1 j hj)

/-- A variable has the value that the first frame of the path with one holds. -/
theorem Path.lookup?_eq {s : Store} {env : Env} {is : List Nat} (path : s.Path env is)
    (descending : is.Pairwise (· > ·)) (name : String) :
    s.lookup? env name = is.findSome? (s.valueAt · name) := by
  rw [Store.lookup?_eq, path.chain_eq descending]

theorem valueAt_of_frame {s : Store} {i : Nat} {f : Frame} (here : s.frames[i]? = some f)
    (name : String) : s.valueAt i name = f.get? name := by
  rw [valueAt, here, Option.bind_some]

/-- In an outermost frame a variable has the value that this frame holds. -/
theorem lookup?_outermost {s : Store} {i : Nat} {f : Frame} (here : s.frames[i]? = some f)
    (outermost : f.parent = .empty) (name : String) : s.lookup? ⟨some i⟩ name = f.get? name := by
  have path : s.Path ⟨some i⟩ [i] := by
    refine .frame here ?_
    rw [outermost]
    exact .empty
  rw [path.lookup?_eq (List.pairwise_singleton ..), List.findSome?_cons, valueAt_of_frame here]
  cases f.get? name <;> rfl

end Store

namespace Builtin

/-- A sum of two numbers that fits is given. -/
theorem value_add {a b n : Int64} (exact : n.toInt = a.toInt + b.toInt) :
    value .add [.number a, .number b] = .ok (.number n) := by
  have first : checked .addition ((0 : Int64).toInt + a.toInt) = .ok a :=
    checked_of_toInt _ (by simp)
  have second : checked .addition (a.toInt + b.toInt) = .ok n := checked_of_toInt _ exact
  have total : sum [a, b] = .ok n := by simp only [sum, accumulate, first, second]
  show (sum [a, b]).map Value.number = _
  rw [total]
  rfl

/-- A difference of two numbers that fits is given. -/
theorem value_subtract {a b n : Int64} (exact : n.toInt = a.toInt - b.toInt) :
    value .subtract [.number a, .number b] = .ok (.number n) := by
  have only : checked .subtraction (a.toInt - b.toInt) = .ok n := checked_of_toInt _ exact
  have total : difference [a, b] = .ok n := by simp only [difference, accumulate, only]
  show (difference [a, b]).map Value.number = _
  rw [total]
  rfl

theorem value_numEq (a b : Int64) :
    value .numEq [.number a, .number b] = .ok (.bool (a == b)) := by
  have compared : chained (· == ·) [a, b] = (a == b) := Bool.and_true _
  show Except.ok (Value.bool (chained (· == ·) [a, b])) = _
  rw [compared]

end Builtin

namespace Eval

/-- Run on a store, a computation ends with a value and leaves a store, whatever the output and the
    log hold. -/
def Yields {α : Type} (x : Eval α) (s : Store) (a : α) (s' : Store) : Prop :=
  ∀ st, st.store = s → ∃ st', x st = .ok a st' ∧ st'.store = s'

/-- Run on a store, a computation goes on as another one does on another store, whatever the output
    and the log hold. -/
def Leads {α : Type} (x : Eval α) (s : Store) (y : Eval α) (s' : Store) : Prop :=
  ∀ st, st.store = s → ∃ st', st'.store = s' ∧ x st = y st'

namespace Leads

variable {α : Type} {x y z : Eval α} {a : α} {s s' s'' : Store}

theorem refl (x : Eval α) (s : Store) : Leads x s x s :=
  fun st hs => ⟨st, hs, rfl⟩

theorem trans (first : Leads x s y s') (rest : Leads y s' z s'') : Leads x s z s'' := by
  intro st hs
  obtain ⟨mid, hm, same⟩ := first st hs
  obtain ⟨st', hs', same'⟩ := rest mid hm
  exact ⟨st', hs', same.trans same'⟩

theorem note_then (event : LogEvent) (h : Leads x s y s') :
    Leads (do Eval.note event; x) s y s' :=
  fun st hs => h { st with log := st.log.push event } hs

theorem yields (h : Leads x s y s') (ended : Yields y s' a s'') : Yields x s a s'' := by
  intro st hs
  obtain ⟨mid, hm, same⟩ := h st hs
  rw [same]
  exact ended mid hm

end Leads

namespace Yields

variable {α β : Type} {x : Eval α} {f : α → Eval β} {a : α} {b : β} {s s' s'' : Store}

theorem pure' (a : α) (s : Store) : Yields (pure a) s a s :=
  fun st hs => ⟨st, rfl, hs⟩

/-- A computation whose first part has a value goes on with the rest. -/
theorem leads (first : Yields x s a s') (f : α → Eval β) : Leads (x >>= f) s (f a) s' := by
  intro st hs
  obtain ⟨mid, done, hm⟩ := first st hs
  refine ⟨mid, hm, ?_⟩
  show EStateM.bind x f st = _
  unfold EStateM.bind
  rw [done]

theorem bind (first : Yields x s a s') (rest : Yields (f a) s' b s'') : Yields (x >>= f) s b s'' :=
  (first.leads f).yields rest

theorem note_then (event : LogEvent) (h : Yields x s a s') :
    Yields (do Eval.note event; x) s a s' :=
  ((Leads.refl x s).note_then event).yields h

theorem ask (question : Store → α) (s : Store) : Yields (Eval.ask question) s (question s) s :=
  fun st hs => ⟨st, by rw [← hs]; rfl, hs⟩

theorem change (g : Store → Store) (s : Store) : Yields (Eval.change g) s () (g s) :=
  fun st hs => ⟨{ st with store := g st.store }, rfl, congrArg g hs⟩

theorem attempt {g : Store → Except Error Store} (done : g s = .ok s') :
    Yields (Eval.attempt g) s () s' := by
  intro st hs
  subst hs
  exact ⟨{ st with store := s' }, attempt_of_ok done, rfl⟩

theorem ofExcept {r : Except Error α} (known : r = .ok a) (s : Store) :
    Yields (Eval.ofExcept r) s a s := by
  rw [known]
  exact pure' a s

end Yields

variable {s : Store} {env : Env} {name : String} {v : Value}

theorem yields_lookup (found : s.lookup? env name = some v) : Yields (lookup env name) s v s := by
  intro st hs
  subst hs
  exact ⟨st, lookup_eq_ok_iff.mpr found, rfl⟩

theorem yields_assign (v : Value) {i : Nat} (slot : s.Slot env name i) :
    Yields (assign env name v) s () (s.modifyFrame i (·.bind name v)) := by
  apply Yields.attempt
  rw [Store.set, Store.slot?_eq_some_iff.mpr slot]

theorem yields_define (s : Store) (i : Nat) (name : String) (v : Value) :
    Yields (define ⟨some i⟩ name v) s () (s.modifyFrame i (·.bind name v)) :=
  Yields.attempt rfl

theorem yields_extend (s : Store) (env : Env) {names : List String} {values : List Value}
    (fits : names.length = values.length) :
    Yields (extend env names values) s ⟨some s.frames.size⟩
      (s.push ⟨names.zip values, env⟩).2 := by
  intro st hs
  subst hs
  refine ⟨{ st with store := (st.store.push ⟨names.zip values, env⟩).2 }, ?_, rfl⟩
  simp only [extend, Store.extend, if_pos fits, Store.push]

theorem yields_newProcedure (s : Store) (params : List String) (body : List Value) (env : Env) :
    Yields (newProcedure params body env) s (.procedure s.procedures params body env)
      { s with procedures := s.procedures + 1 } :=
  (Yields.ask _ s).bind ((Yields.change _ s).bind (Yields.pure' _ _))

end Eval

namespace Interp

open Eval

section Congruence
variable {eval eval' : Evaluator}

/-- Operands only ask the evaluator at their depth. -/
theorem evalOperands_congr {env : Env} {depth : Nat}
    (h : ∀ expr, eval expr env depth = eval' expr env depth) (exprs : List Value) :
    evalOperands eval env depth exprs = evalOperands eval' env depth exprs := by
  induction exprs with
  | nil => rfl
  | cons expr rest ih => simp only [evalOperands, h expr, ih]

/-- An application only asks the evaluator one level down. -/
theorem applyWith_congr (interp : Interp) {depth : Nat}
    (h : ∀ expr env, eval expr env (depth + 1) = eval' expr env (depth + 1)) (operator : Value)
    (args : List Value) :
    interp.applyWith eval operator args depth = interp.applyWith eval' operator args depth := by
  unfold applyWith
  congr 1
  funext _
  split
  · rfl
  · congr 1
    funext inner
    exact evalSequence_congr (fun expr => h expr inner) _
  · rfl

end Congruence

/-- An expression that no form heads is evaluated as it stands. -/
theorem evalAt_plain (interp : Interp) {expr : Value} (plain : interp.formOf? expr = none)
    (env : Env) {depth : Nat} (admitted : depth < interp.limit) :
    interp.evalAt expr env depth = interp.evalPlain (interp.nested depth) expr env depth := by
  rw [evalAt_eq, evalStep_of_lt _ _ _ _ admitted, plain]

/-! Names that are not tags. -/

theorem contains_eq_false {interp : Interp} (builtin : interp.forms = .builtin) {name : String}
    (free : Registry.builtin.contains name = false) : interp.forms.contains name = false := by
  rw [builtin, free]

section
variable {interp : Interp} {name : String} (free : interp.forms.contains name = false)
include free

theorem formOf?_of_free (operands : List Value) :
    interp.formOf? (.list (.symbol name :: operands)) = none := by
  have absent : interp.forms.find? name = none := by simpa [Registry.contains] using free
  rw [formOf?, absent, Option.map_none]

theorem bindable_of_free (form : String) :
    Form.bindable interp.forms.contains form (.symbol name) = .ok name := by
  rw [Form.bindable, free]
  rfl

end

variable {interp : Interp} {env : Env} {depth : Nat} {s s₁ s₂ s₃ : Store} {v : Value}

theorem yields_number (n : Int64) (env : Env) (admitted : depth < interp.limit) (s : Store) :
    Yields (interp.evalAt (.number n) env depth) s (.number n) s := by
  rw [interp.evalAt_plain rfl env admitted]
  exact .pure' _ s

theorem yields_variable {name : String} (free : interp.forms.contains name = false)
    (admitted : depth < interp.limit) (found : s.lookup? env name = some v) :
    Yields (interp.evalAt (.symbol name) env depth) s v s := by
  rw [interp.evalAt_plain rfl env admitted]
  show Yields (if interp.forms.contains name = true then _ else Eval.lookup env name) s v s
  rw [free]
  exact yields_lookup found

/-! Calls. -/

theorem yields_no_operands (eval : Evaluator) (env : Env) (depth : Nat) (s : Store) :
    Yields (evalOperands eval env depth []) s [] s :=
  .pure' _ s

theorem yields_operands {eval : Evaluator} {expr : Value} {rest vs : List Value}
    (first : Yields (eval expr env depth) s v s₁)
    (others : Yields (evalOperands eval env depth rest) s₁ vs s₂) :
    Yields (evalOperands eval env depth (expr :: rest)) s (v :: vs) s₂ :=
  first.bind (others.bind (.pure' _ _))

/-- A call evaluates the operator and the operands one level down, and goes on by applying the one
    to the others. -/
theorem leads_call {operator f : Value} {operands args : List Value}
    (plain : interp.formOf? (.list (operator :: operands)) = none)
    (admitted : depth < interp.limit)
    (operation : Yields (interp.evalAt operator env (depth + 1)) s f s₁)
    (arguments : Yields (evalOperands interp.evalAt env (depth + 1) operands) s₁ args s₂) :
    Leads (interp.evalAt (.list (operator :: operands)) env depth) s
      (interp.applyWith interp.evalAt f args (depth + 1)) s₂ := by
  have one := interp.nested_of_lt (Nat.lt_succ_self depth)
  have two := interp.nested_of_lt (Nat.lt_succ_of_lt (Nat.lt_succ_self depth))
  rw [← one] at operation
  rw [← evalOperands_congr (one · env)] at arguments
  rw [← interp.applyWith_congr two, interp.evalAt_plain plain env admitted]
  exact (operation.leads _).trans (arguments.leads _)

theorem yields_call {operator f : Value} {operands args : List Value}
    (plain : interp.formOf? (.list (operator :: operands)) = none)
    (admitted : depth < interp.limit)
    (operation : Yields (interp.evalAt operator env (depth + 1)) s f s₁)
    (arguments : Yields (evalOperands interp.evalAt env (depth + 1) operands) s₁ args s₂)
    (applied : Yields (interp.applyWith interp.evalAt f args (depth + 1)) s₂ v s₃) :
    Yields (interp.evalAt (.list (operator :: operands)) env depth) s v s₃ :=
  (leads_call plain admitted operation arguments).yields applied

/-- A builtin that writes nothing gives its value. -/
theorem yields_builtin (eval : Evaluator) (depth : Nat) {op : Builtin} {args : List Value}
    (admits : op.arity.admits args.length = true) (value : op.value args = .ok v)
    (silent : op.written args = "") (s : Store) :
    Yields (interp.applyWith eval (.primitive (.builtin op)) args depth) s v s := by
  have checked : op.arity.check op.name args.length = .ok () := if_pos admits
  refine .note_then _ ((Yields.ofExcept checked s).bind ((Yields.ofExcept value s).bind ?_))
  rw [silent, Sink.write_empty]
  exact (Yields.pure' () s).bind (.pure' _ s)

/-- A builtin that is called on a variable and a number takes a level for the three. -/
theorem yields_operation {name x : String} {op : Builtin} {a : Value} {k : Int64}
    (free : interp.forms.contains name = false) (free_x : interp.forms.contains x = false)
    (operator : s.lookup? env name = some (.primitive (.builtin op)))
    (operand : s.lookup? env x = some a) (admits : op.arity.admits 2 = true)
    (value : op.value [a, .number k] = .ok v) (silent : op.written [a, .number k] = "")
    (room : depth + 1 < interp.limit) :
    Yields (interp.evalAt (.list [.symbol name, .symbol x, .number k]) env depth) s v s := by
  have admitted : depth < interp.limit := Nat.lt_of_succ_lt room
  have second : Yields (evalOperands interp.evalAt env (depth + 1) [.number k]) s [.number k] s :=
    yields_operands (yields_number k env room s) (yields_no_operands _ _ _ s)
  exact yields_call (formOf?_of_free free _) admitted (yields_variable free room operator)
    (yields_operands (yields_variable free_x room operand) second)
    (yields_builtin _ _ admits value silent s)

/-- A closure goes on with its body in a new frame, which binds its parameters. -/
theorem leads_closure (eval : Evaluator) (identity : Nat) {params : List String}
    (body : List Value) {args : List Value} (env : Env) (fits : params.length = args.length)
    (depth : Nat) (s : Store) :
    Leads (interp.applyWith eval (.procedure identity params body env) args depth) s
      (evalSequence eval ⟨some s.frames.size⟩ depth body) (s.push ⟨params.zip args, env⟩).2 :=
  .note_then _ ((yields_extend s env fits).leads _)

theorem yields_closure {eval : Evaluator} {identity : Nat} {params : List String}
    {body args : List Value} (fits : params.length = args.length)
    (run : Yields (evalSequence eval ⟨some s.frames.size⟩ depth body)
      (s.push ⟨params.zip args, env⟩).2 v s₁) :
    Yields (interp.applyWith eval (.procedure identity params body env) args depth) s v s₁ :=
  (leads_closure eval identity body env fits depth s).yields run

theorem yields_last {eval : Evaluator} {expr : Value}
    (last : Yields (eval expr env (depth + 1)) s v s₁) :
    Yields (evalSequence eval env depth [expr]) s v s₁ :=
  last

theorem yields_sequence {eval : Evaluator} {expr next dropped : Value} {rest : List Value}
    (first : Yields (eval expr env (depth + 1)) s dropped s₁)
    (others : Yields (evalSequence eval env depth (next :: rest)) s₁ v s₂) :
    Yields (evalSequence eval env depth (expr :: next :: rest)) s v s₂ :=
  first.bind others

/-! Forms, under every registry that has grown from the builtin ones. -/

section
variable (grown : interp.forms.Grown)
include grown

/-- A builtin form goes on with its handler. -/
theorem leads_form {tag : String} {form : Form} (operands : List Value)
    (known : Registry.builtin.find? tag = some form) (env : Env) (admitted : depth < interp.limit)
    (s : Store) :
    Leads (interp.evalAt (.list (.symbol tag :: operands)) env depth) s
      (form.handler (interp.context (interp.nested depth)) operands env depth) s := by
  rw [interp.evalAt_form_of_lt (grown.find?_builtin known) operands env admitted]
  exact (Leads.refl _ s).note_then _

theorem yields_form {tag : String} {form : Form} {operands : List Value}
    (known : Registry.builtin.find? tag = some form) (admitted : depth < interp.limit)
    (handled : Yields
      (form.handler (interp.context (interp.nested depth)) operands env depth) s v s₁) :
    Yields (interp.evalAt (.list (.symbol tag :: operands)) env depth) s v s₁ :=
  (leads_form grown operands known env admitted s).yields handled

theorem yields_quote (quoted : Value) (env : Env) (admitted : depth < interp.limit) (s : Store) :
    Yields (interp.evalAt (.list [.symbol "quote", quoted]) env depth) s quoted s := by
  have known : Registry.builtin.find? "quote" = some ⟨"quote", Form.quote⟩ := rfl
  exact yields_form grown known admitted (.pure' quoted s)

/-- A conditional goes on with the branch that its test chooses. -/
theorem leads_conditional {test : Value} (consequent alternative : Value)
    (admitted : depth < interp.limit)
    (tested : Yields (interp.evalAt test env (depth + 1)) s v s₁) :
    Leads (interp.evalAt (Form.conditional test consequent alternative) env depth) s
      (interp.evalAt (if v.isTrue then consequent else alternative) env (depth + 1)) s₁ := by
  rw [evalAt_conditional grown, guarded, if_neg (Nat.not_le.mpr admitted),
    apply_ite (interp.evalAt · env (depth + 1))]
  exact (tested.leads _).note_then _

/-- A value definition binds what its expression comes to. -/
theorem yields_define_value {name : String} {expr : Value} {i : Nat}
    (free : interp.forms.contains name = false) (admitted : depth < interp.limit)
    (value : Yields (interp.evalAt expr ⟨some i⟩ (depth + 1)) s v s₁) :
    Yields (interp.evalAt (.list [.symbol "define", .symbol name, expr]) ⟨some i⟩ depth) s
      (.symbol name) (s₁.modifyFrame i (·.bind name v)) := by
  rw [← interp.nested_of_lt (Nat.lt_succ_self depth)] at value
  have bound := bindable_of_free free "define"
  have known : Registry.builtin.find? "define" = some ⟨"define", Form.define⟩ := rfl
  have noSignature : ∀ target params, Value.symbol name ≠ .list (target :: params) := by
    intro target params same
    cases same
  apply yields_form grown known admitted
  show Yields (Form.define (interp.context (interp.nested depth)) [.symbol name, expr] ⟨some i⟩
    depth) s _ _
  rw [Form.define_value _ _ _ _ noSignature]
  exact (Yields.ofExcept bound s).bind
    (value.bind ((yields_define s₁ i name v).bind (.pure' _ _)))

/-- A procedure definition binds a closure over the environment. -/
theorem yields_define_procedure {name : String} {params : List Value} {names : List String}
    {body : List Value} (i : Nat) (free : interp.forms.contains name = false)
    (signed : Form.signature interp.forms.contains (.list params) body = .ok names)
    (admitted : depth < interp.limit) (s : Store) :
    Yields (interp.evalAt (.list (.symbol "define" :: .list (.symbol name :: params) :: body))
      ⟨some i⟩ depth) s (.symbol name)
      ({ s with procedures := s.procedures + 1 }.modifyFrame i
        (·.bind name (.procedure s.procedures names body ⟨some i⟩))) := by
  have bound := bindable_of_free free "define"
  have known : Registry.builtin.find? "define" = some ⟨"define", Form.define⟩ := rfl
  have closed : Yields
      (Form.closure (interp.context (interp.nested depth)) (.list params) body ⟨some i⟩) s
      (.procedure s.procedures names body ⟨some i⟩) { s with procedures := s.procedures + 1 } :=
    (Yields.ofExcept signed s).bind (yields_newProcedure s names body ⟨some i⟩)
  apply yields_form grown known admitted
  exact (Yields.ofExcept bound s).bind
    (closed.bind ((yields_define _ i name _).bind (.pure' _ _)))

/-- An assignment changes the slot of the name, as it is once the expression is evaluated. -/
theorem yields_assignment {name : String} {expr : Value} {i : Nat}
    (free : interp.forms.contains name = false) (admitted : depth < interp.limit)
    (value : Yields (interp.evalAt expr env (depth + 1)) s v s₁) (slot : s₁.Slot env name i) :
    Yields (interp.evalAt (.list [.symbol "set!", .symbol name, expr]) env depth) s
      (.symbol name) (s₁.modifyFrame i (·.bind name v)) := by
  rw [← interp.nested_of_lt (Nat.lt_succ_self depth)] at value
  have bound := bindable_of_free free "set!"
  have known : Registry.builtin.find? "set!" = some ⟨"set!", Form.assignment⟩ := rfl
  apply yields_form grown known admitted
  exact (Yields.ofExcept bound s).bind
    (value.bind ((yields_assign v slot).bind (.pure' _ _)))

/-- A `lambda` gives a closure over the environment. -/
theorem yields_lambda {params : Value} {names : List String} {body : List Value}
    (signed : Form.signature interp.forms.contains params body = .ok names) (env : Env)
    (admitted : depth < interp.limit) (s : Store) :
    Yields (interp.evalAt (.list (.symbol "lambda" :: params :: body)) env depth) s
      (.procedure s.procedures names body env) { s with procedures := s.procedures + 1 } := by
  have known : Registry.builtin.find? "lambda" = some ⟨"lambda", Form.lambda⟩ := rfl
  apply yields_form grown known admitted
  exact (Yields.ofExcept signed s).bind (yields_newProcedure s names body env)

end

end Interp

end MiniScheme
