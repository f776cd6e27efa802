import MiniScheme.Proofs.Handlers
import MiniScheme.Proofs.Levels

/- Evaluation keeps disciplines. Two interpreters with the builtin forms that
   are mates under a discipline agree on every expression, at depths that are
   paired (`evalAt_agree`): by induction on the levels left up to the limit of
   the first, since all that a step nests is one or two levels deeper. -/
namespace MiniScheme.Discipline

/-- The pairs of depths at which two interpreters are compared. The pairs go on level by level,
    and the second interpreter does not refuse an evaluation unless the first does; the refusals
    are the same unless they are excused. -/
structure Depths (D : Discipline) (interp interp' : Interp) (paired : Nat → Nat → Prop) : Prop where
  deeper : ∀ {d d'}, paired d d' → paired (d + 1) (d' + 1)
  below : ∀ {d d'}, paired d d' → d < interp.limit → d' < interp'.limit
  atLimit : ∀ {d d'}, paired d d' → interp.limit ≤ d →
    D.excused (.fault (.depthExceeded interp.limit)) ∨
      (interp'.limit ≤ d' ∧ interp'.limit = interp.limit)

/-- Interpreters with one limit are compared at one depth. -/
theorem Depths.same (D : Discipline) {interp interp' : Interp}
    (limit : interp'.limit = interp.limit) : D.Depths interp interp' Eq where
  deeper equal := by rw [equal]
  below equal admitted := by
    rw [limit, ← equal]
    exact admitted
  atLimit equal refused := by
    rw [limit, ← equal]
    exact .inr ⟨refused, rfl⟩

section
variable {D : Discipline} {interp interp' : Interp} (R : D.Observes interp)
variable (M : D.Mates interp interp')

/-! Primitives. -/

theorem arithmetic_isAtom {op : Builtin} {compute : List Int64 → Except Error Int64}
    {args : List Value} {v : Value} (h : Builtin.arithmetic op compute args = .ok v) :
    v.isAtom = true := by
  unfold Builtin.arithmetic at h
  split at h
  · next ns _ =>
    cases hc : compute ns with
    | error e => rw [hc] at h; cases h
    | ok n => rw [hc] at h; cases h; rfl
  · cases h

theorem comparison_isAtom {op : Builtin} {related : Int64 → Int64 → Bool} {args : List Value}
    {v : Value} (h : Builtin.comparison op related args = .ok v) : v.isAtom = true := by
  unfold Builtin.comparison at h
  cases hn : Builtin.numbersOf op.name args with
  | error e => rw [hn] at h; cases h
  | ok ns => rw [hn] at h; cases h; rfl

include R

/-- The value of a builtin is an atom, a part of its arguments, or a list of such parts. -/
theorem value_of_builtin {op : Builtin} {s : Store} {args : List Value} {v : Value}
    (h : op.value args = .ok v) (ha : ∀ a ∈ args, D.value s a) : D.value s v := by
  have atom : v.isAtom = true → D.value s v := fun ho => R.value_atom s ho
  cases op with
  | add | subtract | multiply | divide => exact atom (arithmetic_isAtom h)
  | numEq | less | greater | lessEq | greaterEq => exact atom (comparison_isAtom h)
  | list => cases h; exact R.value_list ha
  | newline => cases h; exact atom rfl
  | error => cases h
  | equal =>
    match args, h with
    | _ :: _ :: _, h => cases h; exact atom rfl
  | not | null | display =>
    match args, h with
    | _ :: _, h => cases h; exact atom rfl
  | car =>
    match args, h with
    | .list (first :: rest) :: _, h =>
      have head := R.value_items (ha (.list (first :: rest)) (by simp)) first (by simp)
      cases h
      exact head
  | cdr =>
    match args, h with
    | .list (first :: rest) :: _, h =>
      cases h
      have parts := R.value_items (ha (.list (first :: rest)) (by simp))
      exact R.value_list fun w hw => parts w (by simp [hw])
  | cons =>
    match args, h with
    | first :: .list rest :: _, h =>
      cases h
      have parts := R.value_items (ha (.list rest) (by simp))
      refine R.value_list fun w hw => ?_
      rcases List.mem_cons.mp hw with rfl | hw
      · exact ha w (by simp)
      · exact parts w hw

include M in
theorem callPrimitive_agrees (p : Primitive) {s : Store} {args : List Value}
    (ha : ∀ a ∈ args, D.value s a) :
    D.Agree s D.value (interp.callPrimitive p args) (interp'.callPrimitive p args) := by
  cases p with
  | builtin op =>
    show D.Agree s D.value (op.call interp.sink args) (op.call interp'.sink args)
    rw [M.sink]
    refine Agree.ofExcept_then fun _ _ => Agree.ofExcept_then fun v hv => ?_
    have good := value_of_builtin R hv ha
    refine Agree.bind (P := fun _ _ => True) ?_ fun s' _ later _ => Agree.pure' (D.value_later later good)
    unfold Sink.write
    split
    · intro st hs kept
      subst hs
      exact .ok (D.later_refl _) kept trivial
    · split
      · exact Agree.pure' trivial
      · exact Agree.fault _
  | host name slot =>
    unfold Interp.callPrimitive
    simp only [M.hosts]
    cases found : interp.hosts[slot]? with
    | none => exact Agree.throw' _
    | some function =>
      have known : function ∈ interp.hosts := Array.mem_of_getElem? found
      refine Agree.ofExcept_then fun _ _ => Agree.ofExcept fun v hv => ?_
      exact R.host known hv ha

include M in
theorem applyWith_agrees {eval eval' : Evaluator} {depth depth' : Nat} {s : Store}
    {operator : Value} {args : List Value}
    (h : D.Evaluators eval eval' (depth + 1) (depth' + 1)) (hf : D.value s operator)
    (ha : ∀ a ∈ args, D.value s a) :
    D.Agree s D.value (interp.applyWith eval operator args depth)
      (interp'.applyWith eval' operator args depth') := by
  refine Agree.note_then _ ?_
  cases operator with
  | primitive p => exact callPrimitive_agrees R M p ha
  | procedure identity params body env =>
    refine Agree.bind (P := fun s' inner => D.env s' inner ∧ ∀ e ∈ body, D.expr s' e) ?_ ?_
    · intro st hs kept
      subst hs
      unfold Eval.extend Store.extend
      by_cases fits : params.length = args.length
      · obtain ⟨later, kept', good⟩ := R.call kept hf ha fits
        simp only [if_pos fits]
        exact .ok later kept' good
      · simp only [if_neg fits]
        exact .error (D.later_refl _) kept
    · exact fun s' inner _ good => sequence_agrees h body s' good.1 good.2
  | _ => exact Agree.throw' _

/-! One step. -/

include M in
theorem formOf?_eq {s : Store} {expr : Value} (hx : D.expr s expr) :
    interp'.formOf? expr = interp.formOf? expr := by
  unfold Interp.formOf?
  split
  · next head operands =>
    have named := R.expr_items hx (.symbol head) (by simp)
    rw [M.forms named]
  · rfl

include M in
theorem evalPlain_agrees {eval eval' : Evaluator} {depth depth' : Nat} {s : Store} {expr : Value}
    {env : Env} (one : D.Evaluators eval eval' (depth + 1) (depth' + 1))
    (two : D.Evaluators eval eval' (depth + 2) (depth' + 2)) (he : D.env s env)
    (hx : D.expr s expr) :
    D.Agree s D.value (interp.evalPlain eval expr env depth)
      (interp'.evalPlain eval' expr env depth') := by
  cases expr with
  | number | string | bool | unspecified => exact Agree.pure' (R.value_of_expr hx)
  | primitive | procedure => exact Agree.throw' _
  | symbol name =>
    simp only [Interp.evalPlain, isForm_eq M hx]
    split
    · exact Agree.note_then _ (Agree.pure' (R.value_of_expr hx))
    · exact lookup_agrees R name he
  | list items =>
    cases items with
    | nil => exact Agree.throw' _
    | cons operator operands =>
      have parts := R.expr_items hx
      refine Agree.bind (one s operator env he (parts operator (by simp))) fun s₁ f later hf => ?_
      have given : ∀ e ∈ operands, D.expr s₁ e :=
        fun e hm => D.expr_later later (parts e (by simp [hm]))
      refine Agree.bind (operands_agree one operands s₁ (D.env_later later he) given) ?_
      exact fun s₂ args later₂ ha => applyWith_agrees R M two (D.value_later later₂ hf) ha

end

section
variable {D : Discipline} {interp interp' : Interp} (R : D.Respects interp)
variable (M : D.Mates interp interp')
include R M

/-- Two interpreters with the builtin forms agree on every expression, wherever the depths are
    paired. -/
theorem evalAt_agree {paired : Nat → Nat → Prop} (T : D.Depths interp interp' paired)
    (builtin : interp.forms = .builtin) {depth depth' : Nat} (h : paired depth depth') :
    D.Evaluators interp.evalAt interp'.evalAt depth depth' := by
  -- the levels left up to the limit go down with every nested evaluation
  induction left : interp.limit - depth using Nat.strongRecOn generalizing depth depth' with
  | ind left ih =>
    intro s expr env he hx
    by_cases refused : interp.limit ≤ depth
    · rw [Interp.evalAt_of_limit_le interp expr env refused]
      rcases T.atLimit h refused with excused | ⟨refused', same⟩
      · intro st _ _
        exact .excused excused
      · rw [Interp.evalAt_of_limit_le interp' expr env refused', same]
        exact Agree.fault _
    · have admitted : depth < interp.limit := Nat.not_le.mp refused
      have admitted' := T.below h admitted
      have one : D.Evaluators (interp.nested depth) (interp'.nested depth') (depth + 1)
          (depth' + 1) := by
        intro s inner scope hs hi
        rw [Interp.nested_of_lt _ (by omega), Interp.nested_of_lt _ (by omega)]
        exact ih (interp.limit - (depth + 1)) (by omega) (T.deeper h) rfl s inner scope hs hi
      have two : D.Evaluators (interp.nested depth) (interp'.nested depth') (depth + 2)
          (depth' + 2) := by
        intro s inner scope hs hi
        rw [Interp.nested_of_lt _ (by omega), Interp.nested_of_lt _ (by omega)]
        exact ih (interp.limit - (depth + 2)) (by omega) (T.deeper (T.deeper h)) rfl s inner scope
          hs hi
      rw [Interp.evalAt_eq, Interp.evalAt_eq, Interp.evalStep_of_lt _ _ _ _ admitted,
        Interp.evalStep_of_lt _ _ _ _ admitted', formOf?_eq R.toObserves M hx]
      split
      · next form operands found =>
        obtain ⟨head, rfl, registered⟩ := Interp.of_formOf? found
        rw [builtin] at registered
        have known : form ∈ Form.builtins := List.mem_of_find?_eq_some registered
        have parts := R.expr_items hx
        refine Agree.note_then _ ?_
        exact builtin_agrees R M known _ _ _ _ s operands env one he fun e hm => parts e (by simp [hm])
      · exact evalPlain_agrees R.toObserves M one two he hx

end

end MiniScheme.Discipline
