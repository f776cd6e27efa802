import MiniScheme.Interp.Basic

/- The equation of the evaluator. `evalAt` is defined by recursion on the levels
   left up to the depth limit, and a count of levels beyond those left changes
   nothing (`evalLevels_stable`). So an evaluation at a depth is one step whose
   nested evaluations, where they are deeper, are evaluations of the same kind
   (`evalAt_eq`, `nested_of_lt`), and induction on the levels left proves what
   holds of all evaluations. What is to hold with forms of any kind goes through
   the restarts, too (`evalAt_induct`). -/
namespace MiniScheme.Interp

/-- The evaluator that a step at `depth` hands on. -/
def nested (interp : Interp) (depth : Nat) : Evaluator := fun expr env deeper =>
  if depth < deeper then interp.evalAt expr env deeper
  else interp.evalRestarts restartAllowance expr env deeper

/-- At the limit a step is refused, whatever the nested evaluations are. -/
theorem evalStep_of_limit_le (interp : Interp) (eval : Evaluator) (expr : Value) (env : Env)
    {depth : Nat} (h : interp.limit ≤ depth) :
    interp.evalStep eval expr env depth = Eval.fault (.depthExceeded interp.limit) := by
  rw [evalStep, if_pos h]

/-- Below the limit a step goes to the form that heads the expression, if one does. -/
theorem evalStep_of_lt (interp : Interp) (eval : Evaluator) (expr : Value) (env : Env)
    {depth : Nat} (h : depth < interp.limit) :
    interp.evalStep eval expr env depth =
      match interp.formOf? expr with
      | some (form, operands) => do
        Eval.note (.dispatching form.tag)
        form.handler (interp.context eval) operands env depth
      | none => interp.evalPlain eval expr env depth :=
  if_neg (Nat.not_le.mpr h)

/-- An expression goes to a form if it is a list headed by the form's tag. -/
theorem of_formOf? {interp : Interp} {expr : Value} {form : Form} {operands : List Value}
    (h : interp.formOf? expr = some (form, operands)) :
    ∃ head, expr = .list (.symbol head :: operands) ∧ interp.forms.find? head = some form := by
  unfold formOf? at h
  split at h
  · next head rest =>
    obtain ⟨found, hf, same⟩ := Option.map_eq_some_iff.mp h
    cases same
    exact ⟨head, rfl, hf⟩
  · cases h

/-- Levels beyond those left up to the limit change nothing. -/
theorem evalLevels_stable (interp : Interp) (restart : Evaluator) :
    ∀ (levels more : Nat) (expr : Value) (env : Env) (depth : Nat),
      interp.limit - depth ≤ levels → interp.limit - depth ≤ more →
      interp.evalLevels restart levels expr env depth
        = interp.evalLevels restart more expr env depth := by
  intro levels
  -- without levels the limit is reached, and there a step never gets to what it nests
  induction levels with
  | zero =>
    intro more expr env depth hl _
    cases more with
    | zero => rfl
    | succ more =>
      have refused : interp.limit ≤ depth := by omega
      simp only [evalLevels]
      rw [evalStep_of_limit_le _ _ _ _ refused]
  | succ levels ih =>
    intro more expr env depth hl hm
    cases more with
    | zero =>
      have refused : interp.limit ≤ depth := by omega
      simp only [evalLevels]
      rw [evalStep_of_limit_le _ _ _ _ refused]
    | succ more =>
      simp only [evalLevels]
      congr 1
      funext inner scope deeper
      by_cases h : depth < deeper
      · rw [if_pos h, if_pos h]
        exact ih more inner scope deeper (by omega) (by omega)
      · rw [if_neg h, if_neg h]

/-- An evaluation is one step, and what it nests is evaluated one level down or restarts. -/
theorem evalAt_eq (interp : Interp) (expr : Value) (env : Env) (depth : Nat) :
    interp.evalAt expr env depth = interp.evalStep (interp.nested depth) expr env depth := by
  show interp.evalLevels (interp.evalRestarts restartAllowance) (interp.limit - depth) expr env depth
    = _
  cases left : interp.limit - depth with
  | zero => rw [evalStep_of_limit_le _ _ _ _ (by omega : interp.limit ≤ depth)]; rfl
  | succ levels =>
    simp only [evalLevels]
    congr 1
    funext inner scope deeper
    unfold nested
    by_cases h : depth < deeper
    · rw [if_pos h, if_pos h]
      exact evalLevels_stable interp _ _ _ inner scope deeper (by omega) (Nat.le_refl _)
    · rw [if_neg h, if_neg h]

/-- What a step nests at a greater depth is evaluated as it would be on its own. -/
theorem nested_of_lt (interp : Interp) {depth deeper : Nat} (h : depth < deeper) (expr : Value)
    (env : Env) : interp.nested depth expr env deeper = interp.evalAt expr env deeper :=
  if_pos h

/-- At the limit nothing is evaluated. -/
theorem evalAt_of_limit_le (interp : Interp) (expr : Value) (env : Env) {depth : Nat}
    (h : interp.limit ≤ depth) :
    interp.evalAt expr env depth = Eval.fault (.depthExceeded interp.limit) := by
  rw [evalAt_eq, evalStep_of_limit_le _ _ _ _ h]

section
variable {interp : Interp} {P : Value → Env → Nat → Eval Value → Prop}
  (refused : ∀ expr env depth, P expr env depth (Eval.fault (.depthExceeded interp.limit)))
  (step : ∀ eval : Evaluator, (∀ expr env depth, P expr env depth (eval expr env depth)) →
    ∀ expr env depth, P expr env depth (interp.evalStep eval expr env depth))
include refused step

theorem evalLevels_induct {restart : Evaluator}
    (restarts : ∀ expr env depth, P expr env depth (restart expr env depth)) :
    ∀ levels expr env depth, P expr env depth (interp.evalLevels restart levels expr env depth)
  | 0, _, _, _ => refused _ _ _
  | levels + 1, expr, env, depth => by
    refine step _ ?_ expr env depth
    -- what is nested has a level less, or is a restart
    intro inner scope deeper
    by_cases below : depth < deeper
    · simp only [if_pos below]
      exact evalLevels_induct restarts levels inner scope deeper
    · simp only [if_neg below]
      exact restarts inner scope deeper

theorem evalRestarts_induct
    (exhausted : ∀ expr env depth, P expr env depth (throw .exhausted)) :
    ∀ restarts expr env depth, P expr env depth (interp.evalRestarts restarts expr env depth)
  | 0, _, _, _ => exhausted _ _ _
  | restarts + 1, expr, env, depth =>
    evalLevels_induct refused step (evalRestarts_induct exhausted restarts) _ expr env depth

/-- What holds of an evaluation that is refused or has restarted too often, and of a step if it
    holds of all evaluations that the step may nest, holds of every evaluation. -/
theorem evalAt_induct (exhausted : ∀ expr env depth, P expr env depth (throw .exhausted))
    (expr : Value) (env : Env) (depth : Nat) : P expr env depth (interp.evalAt expr env depth) :=
  evalRestarts_induct refused step exhausted _ expr env depth

end

end MiniScheme.Interp
