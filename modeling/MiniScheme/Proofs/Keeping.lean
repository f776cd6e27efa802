import MiniScheme.Proofs.Agreement

/- Runs that keep a discipline. `evalAt_agree` compares interpreters with the
   builtin forms alone; here one interpreter has any forms, as long as each
   handler keeps the discipline with every evaluator that does
   (`HandlerKeeps`). Then evaluation keeps it at every depth (`evalAt_keeps`),
   and so does all that a caller can ask of the interpreter: applying a
   procedure, running a text, installing a function and registering a form. -/
namespace MiniScheme

/-- Registering a form reads the store and changes only the log. -/
theorem Interp.registerForm_run (interp : Interp) (tag : String) (handler : Handler) (st : State) :
    interp.registerForm tag handler st =
      if st.store.isDefined interp.global tag then .error (.fault (.tagIsVariable tag)) st
      else
        match interp.forms.insert tag handler with
        | .error e => .error e st
        | .ok forms =>
          .ok { interp with forms := forms } { st with log := st.log.push (.registering tag) } := by
  show (if st.store.isDefined interp.global tag = true then Eval.fault (.tagIsVariable tag)
    else do
      let forms ← interp.forms.register tag handler
      return { interp with forms := forms }) st = _
  unfold Registry.register
  split
  · rfl
  · cases interp.forms.insert tag handler <;> rfl

namespace Discipline

/-- An evaluator keeps the discipline, whatever the depth. -/
def EvaluatorKeeps (D : Discipline) (eval : Evaluator) : Prop :=
  ∀ depth, D.Evaluators eval eval depth depth

/-- A handler keeps the discipline with every evaluator that does. -/
def HandlerKeeps (D : Discipline) (interp : Interp) (handler : Handler) : Prop :=
  ∀ eval depth s operands env, D.EvaluatorKeeps eval → D.env s env → (∀ v ∈ operands, D.expr s v) →
    D.Agree s D.value (handler (interp.context eval) operands env depth)
      (handler (interp.context eval) operands env depth)

section
variable {D : Discipline} {interp : Interp}

/-- An interpreter is its own mate. -/
theorem Mates.refl (D : Discipline) (interp : Interp) : D.Mates interp interp :=
  ⟨rfl, rfl, rfl, fun _ => rfl⟩

/-- A discipline that the operations respect is kept by the builtin handlers. -/
theorem builtin_keeps (R : D.Respects interp) {form : Form} (h : form ∈ Form.builtins) :
    D.HandlerKeeps interp form.handler := by
  intro eval depth s operands env keeps he hx
  exact builtin_agrees R (Mates.refl D interp) h eval eval depth depth s operands env
    (keeps (depth + 1)) he hx

variable (R : D.Respects interp)
variable (handlers : ∀ form ∈ interp.forms.forms, D.HandlerKeeps interp form.handler)
include R handlers

/-- One step keeps the discipline if the evaluations that it nests do. -/
theorem evalStep_keeps {eval : Evaluator} (nested : D.EvaluatorKeeps eval) :
    D.EvaluatorKeeps (interp.evalStep eval) := by
  intro depth s expr env he hx
  by_cases refused : interp.limit ≤ depth
  · rw [Interp.evalStep_of_limit_le _ _ _ _ refused]
    exact Agree.fault _
  · rw [Interp.evalStep_of_lt _ _ _ _ (Nat.not_le.mp refused)]
    split
    · next form operands found =>
      obtain ⟨head, rfl, registered⟩ := Interp.of_formOf? found
      have known : form ∈ interp.forms.forms := List.mem_of_find?_eq_some registered
      have parts : ∀ v ∈ operands, D.expr s v :=
        fun v hv => R.expr_items hx v (List.mem_cons_of_mem _ hv)
      exact Agree.note_then _ (handlers form known eval depth s operands env nested he parts)
    · exact evalPlain_agrees R.toObserves (Mates.refl D interp) (nested (depth + 1))
        (nested (depth + 2)) he hx

/-- Evaluation keeps a discipline that all handlers keep. -/
theorem evalAt_keeps : D.EvaluatorKeeps interp.evalAt := by
  intro depth s expr env he hx
  refine Interp.evalAt_induct
    (P := fun expr env _ x => ∀ s, D.env s env → D.expr s expr → D.Agree s D.value x x)
    ?_ ?_ ?_ expr env depth s he hx
  · exact fun _ _ _ _ _ _ => Agree.fault _
  · intro eval nested expr env depth s he hx
    exact evalStep_keeps R handlers (fun depth s expr env => nested expr env depth s) depth s expr
      env he hx
  · exact fun _ _ _ _ _ _ => Agree.throw' _

theorem apply_keeps {s : Store} {operator : Value} {args : List Value} (hf : D.value s operator)
    (ha : ∀ a ∈ args, D.value s a) :
    D.Agree s D.value (interp.apply operator args) (interp.apply operator args) :=
  applyWith_agrees R.toObserves (Mates.refl D interp) (evalAt_keeps R handlers 1) hf ha

/-- Evaluating items one after the other, up to the first that could not be read. -/
theorem evalItems_keeps :
    ∀ (items : List (Except ParseError Value)) (result : Value) (s : Store),
      D.env s interp.global → D.value s result → (∀ s v, .ok v ∈ items → D.expr s v) →
      D.Agree s D.value (interp.evalItems result items) (interp.evalItems result items)
  | [], _, _, _, hr, _ => Agree.pure' hr
  | .error _ :: _, _, _, _, _, _ => Agree.throw' _
  | .ok expr :: rest, _, s, he, _, hx => by
    have head : D.expr s expr := hx s expr List.mem_cons_self
    refine Agree.bind (evalAt_keeps R handlers 0 s expr _ he head) fun s' v later hv => ?_
    refine evalItems_keeps rest v s' (D.env_later later he) hv fun s v hm => ?_
    exact hx s v (List.mem_cons_of_mem _ hm)

theorem evalText_keeps (text : String) {s : Store} (he : D.env s interp.global)
    (hx : ∀ s v, .ok v ∈ Reader.readAll text → D.expr s v) :
    D.Agree s D.value (interp.evalText text) (interp.evalText text) :=
  evalItems_keeps R handlers _ _ s he (R.value_atom s rfl) hx

omit handlers in
/-- Installing a function binds a global variable. -/
theorem install_keeps (name : String) (function : HostFunction) {s : Store}
    (he : D.env s interp.global)
    (hv : D.value s (.primitive (.host name interp.hosts.size))) :
    D.Agree s (fun _ installed => installed = { interp with hosts := interp.hosts.push function })
      (interp.install name function) (interp.install name function) := by
  unfold Interp.install
  cases free : interp.forms.contains name with
  | true => exact Agree.throw' _
  | false =>
    refine Agree.note_then _ (Agree.bind (define_agrees R.toObserves he hv free) fun _ _ _ _ => ?_)
    exact Agree.pure' rfl

end

/-- Registering a form leaves the store alone. The tag was no global variable, and the registry
    has the form in addition. -/
theorem registerForm_keeps (D : Discipline) (interp : Interp) (tag : String) (handler : Handler)
    (s : Store) :
    D.Agree s (fun s' extended => s' = s ∧ s.isDefined interp.global tag = false ∧
      ∃ forms, interp.forms.insert tag handler = .ok forms ∧
        extended = { interp with forms := forms })
      (interp.registerForm tag handler) (interp.registerForm tag handler) := by
  intro st hs kept
  subst hs
  rw [Interp.registerForm_run]
  split
  · exact .error (D.later_refl _) kept
  · next free =>
    split
    · exact .error (D.later_refl _) kept
    · next forms added =>
      exact .ok (D.later_refl _) kept ⟨rfl, Bool.eq_false_iff.mpr free, forms, added, rfl⟩

end Discipline

end MiniScheme
