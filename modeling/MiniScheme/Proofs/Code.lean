import MiniScheme.Proofs.Keeping
import MiniScheme.Proofs.Likeness
import MiniScheme.Proofs.Policy

/- Code and data. Where procedures have readable bodies (`Policy.textual`), all
   that the evaluation of a readable expression comes to evaluate is readable or
   what clauses of a `cond` stand for, which is built from readable parts and the
   unspecified value (`Expansion.cases`). `Arises` says which expression may be
   evaluated inside the evaluations of which others, and `Proper` what that
   excludes. `evalChecked` evaluates under a check of every expression with those
   around it; what does not pass goes astray, wherever that leads. Main statements:
   what arises is proper (`Arises.proper`); if the check lets pass what arises,
   nothing goes astray, and procedure bodies stay readable (`evalAt_checked`); and
   among what arises there is no rule for one value only, the empty list
   (`evalChecked_stuck`). -/
namespace MiniScheme

/-- Procedures have readable bodies, and what is readable may be evaluated. -/
def Policy.textual : Policy where
  known := 0
  frame _ _ := True
  env _ _ := True
  procedure _ p := ∀ e ∈ p.body, e.readable = true
  code _ v := v.readable = true
  env_mono _ _ := trivial
  procedure_mono _ h := h
  code_mono _ h := h

/-- Forms evaluate and close over what is readable if they are given what is readable. -/
theorem Policy.allows_textual {interp : Interp}
    (hosts : ∀ f ∈ interp.hosts, f.MakesNoProcedures) : Policy.textual.Allows interp where
  bind _ _ _ := trivial
  unbind _ _ := trivial
  call _ _ _ := trivial
  inner _ := trivial
  close _ _ hb _ := hb
  items := by
    intro n vs
    show Value.allReadable vs = true ↔ _
    exact Value.allReadable_iff
  codeIf _ := rfl
  codeBegin _ := rfl
  data h := Policy.admits_of_readable h
  body h _ := h
  read opened hv := Loader.readable_of_items opened hv
  host {n f args v} known run ha p hp := by
    obtain ⟨a, hm, hp⟩ := Value.mem_closuresAll.mp (hosts f known args v run p hp)
    exact ha a hm p hp

/-! What may be evaluated. -/

namespace Form

/-- From conditional to alternative, one comes from the first value to the last one past the listed
    conditionals, latest first. -/
inductive Descent (tree : Value) : List Value → Value → Prop
  | start : Descent tree [] tree
  | next {passed : List Value} {test consequent v : Value}
      (before : Descent tree passed (conditional test consequent v)) :
      Descent tree (conditional test consequent v :: passed) v

/-- A descent is over at once, or it goes on from the alternative of a conditional. -/
theorem Descent.first {tree v : Value} {passed : List Value} (h : Descent tree passed v) :
    v = tree ∨ ∃ test consequent alternative later,
      tree = conditional test consequent alternative ∧ Descent alternative later v := by
  induction h with
  | start => exact .inl rfl
  | next _ ih =>
    rcases ih with same | ⟨test, consequent, alternative, later, same, onward⟩
    · exact .inr ⟨_, _, _, [], same.symm, .start⟩
    · exact .inr ⟨test, consequent, alternative, _, same, .next onward⟩

/-- If a descent from what clauses stand for ends at the unspecified value, no clause is an
    `else`. -/
theorem no_else_of_descent :
    ∀ {clauses : List Value} {tree : Value} {passed : List Value},
      expandClauses clauses = .ok tree → Descent tree passed .unspecified →
      ∀ body, .list (.symbol "else" :: body) ∉ clauses
  | [], _, _, _, _, _ => List.not_mem_nil
  | clause :: rest, _, _, expanded, descent, body => by
    obtain ⟨head, items, parts, shape⟩ := of_expandClauses_cons expanded
    obtain ⟨rfl, -⟩ := of_clauseParts parts
    rcases shape with ⟨-, -, rfl⟩ | ⟨other, alternative, others, rfl⟩
    · rcases descent.first with none | ⟨_, _, _, _, none, -⟩
      · cases none
      · simp [sequenceOf, conditional] at none
    · rcases descent.first with none | ⟨_, _, rest', later, same, onward⟩
      · cases none
      obtain ⟨-, -, rfl⟩ : _ ∧ _ ∧ alternative = rest' := by simpa [conditional] using same
      intro hm
      rcases List.mem_cons.mp hm with headed | hm
      · cases headed
        cases other
      · exact no_else_of_descent others onward body hm

end Form

/-- The value is what readable clauses of a `cond` stand for. -/
def Expansion (v : Value) : Prop :=
  ∃ clauses, (∀ c ∈ clauses, c.readable = true) ∧ Form.expandClauses clauses = .ok v

/-- Clauses stand for something readable, for the unspecified value, or for a conditional with a
    readable test and consequent, whose alternative is what further clauses stand for. -/
theorem Expansion.cases {v : Value} (h : Expansion v) :
    v.readable = true ∨ v = .unspecified ∨
      ∃ test consequent alternative, v = Form.conditional test consequent alternative ∧
        test.readable = true ∧ consequent.readable = true ∧ Expansion alternative := by
  obtain ⟨clauses, readable, expanded⟩ := h
  cases clauses with
  | nil =>
    cases expanded
    exact .inr (.inl rfl)
  | cons clause rest =>
    obtain ⟨head, body, parts, shape⟩ := Form.of_expandClauses_cons expanded
    obtain ⟨rfl, -⟩ := Form.of_clauseParts parts
    have items : ∀ v ∈ head :: body, v.readable = true :=
      Value.allReadable_iff.mp (readable (.list (head :: body)) List.mem_cons_self)
    have sequence : (Form.sequenceOf body).readable = true := by
      refine Value.allReadable_iff.mpr fun v hv => ?_
      rcases List.mem_cons.mp hv with rfl | hv
      · decide
      · exact items v (List.mem_cons_of_mem _ hv)
    rcases shape with ⟨-, -, rfl⟩ | ⟨-, alternative, others, rfl⟩
    · exact .inl sequence
    · exact .inr (.inr ⟨head, _, alternative, rfl, items head List.mem_cons_self, sequence,
        rest, fun c hc => readable c (List.mem_cons_of_mem _ hc), others⟩)

/-- The expression may come to be evaluated inside the evaluations of those around it, latest
    first. What is readable may be evaluated anywhere, since procedures may be called anywhere. -/
inductive Arises : List Value → Value → Prop
  | readable {around : List Value} {v : Value} (h : v.readable = true) : Arises around v
  | expansion {around clauses : List Value} {tree : Value} (h : ∀ c ∈ clauses, c.readable = true)
      (expanded : Form.expandClauses clauses = .ok tree) :
      Arises (.list (.symbol "cond" :: clauses) :: around) tree
  | alternative {around : List Value} {test consequent v : Value}
      (h : Arises around (Form.conditional test consequent v)) :
      Arises (Form.conditional test consequent v :: around) v

/-- The evaluation is at the end of a `cond` without an `else`: the innermost expressions around
    are the conditionals that its clauses stand for, and the unspecified value is what is left. -/
def AtEnd (around : List Value) : Prop :=
  ∃ passed clauses outer tree, around = passed ++ .list (.symbol "cond" :: clauses) :: outer ∧
    (∀ body, .list (.symbol "else" :: body) ∉ clauses) ∧
    Form.expandClauses clauses = .ok tree ∧ Form.Descent tree passed .unspecified

/-- The expression is no procedure and no primitive, and if it is the unspecified value, then at the
    end of a `cond` without an `else`. -/
def Proper (around : List Value) : Value → Prop
  | .primitive _ | .procedure .. => False
  | .unspecified => AtEnd around
  | _ => True

namespace Arises
variable {around : List Value} {v : Value}

/-- An alternative of something readable is readable. -/
theorem readable_alternative {test consequent : Value}
    (h : (Form.conditional test consequent v).readable = true) : v.readable = true :=
  Value.allReadable_iff.mp h v (by simp)

/-- What may be evaluated is readable, or clauses stand for it. -/
theorem code (h : Arises around v) : v.readable = true ∨ Expansion v := by
  induction h with
  | readable h => exact .inl h
  | expansion readable expanded => exact .inr ⟨_, readable, expanded⟩
  | @alternative _ test consequent v _ ih =>
    rcases ih with plain | expanded
    · exact .inl (readable_alternative plain)
    rcases expanded.cases with plain | none? | ⟨test', consequent', rest, same, -, -, others⟩
    · exact .inl (readable_alternative plain)
    · cases none?
    · obtain ⟨-, -, rfl⟩ : test = test' ∧ consequent = consequent' ∧ v = rest := by
        simpa [Form.conditional] using same
      exact .inr others

/-- What may be evaluated is readable, or comes from a `cond` around it. -/
theorem origin (h : Arises around v) :
    v.readable = true ∨ ∃ passed clauses outer tree,
      around = passed ++ .list (.symbol "cond" :: clauses) :: outer ∧
        Form.expandClauses clauses = .ok tree ∧ Form.Descent tree passed v := by
  induction h with
  | readable h => exact .inl h
  | expansion _ expanded => exact .inr ⟨[], _, _, _, rfl, expanded, .start⟩
  | alternative _ ih =>
    rcases ih with plain | ⟨passed, clauses, outer, tree, rfl, expanded, descent⟩
    · exact .inl (readable_alternative plain)
    · exact .inr ⟨_ :: passed, clauses, outer, tree, rfl, expanded, .next descent⟩

/-- What may be evaluated is readable, the unspecified value or a conditional. -/
theorem shape (h : Arises around v) :
    v.readable = true ∨ v = .unspecified ∨ ∃ test consequent alternative,
      v = Form.conditional test consequent alternative := by
  rcases h.code with readable | expanded
  · exact .inl readable
  · rcases expanded.cases with readable | same | ⟨_, _, _, same, -⟩
    · exact .inl readable
    · exact .inr (.inl same)
    · exact .inr (.inr ⟨_, _, _, same⟩)

theorem proper (h : Arises around v) : Proper around v := by
  match v with
  | .primitive _ => rcases h.shape with none | none | ⟨_, _, _, none⟩ <;> cases none
  | .procedure _ _ _ _ => rcases h.shape with none | none | ⟨_, _, _, none⟩ <;> cases none
  | .unspecified =>
    rcases h.origin with none | ⟨passed, clauses, outer, tree, split, expanded, descent⟩
    · cases none
    · have last := Form.no_else_of_descent expanded descent
      exact ⟨passed, clauses, outer, tree, split, last, expanded, descent⟩
  | .number _ | .string _ | .bool _ | .symbol _ | .list _ => trivial

/-- Of the values without a rule, only the empty list may be evaluated. -/
theorem eq_nil_of_isStuck (h : Arises around v) (stuck : v.isStuck = true) : v = .list [] := by
  have proper := h.proper
  match v, stuck, proper with
  | .list [], _, _ => rfl

end Arises

namespace Interp

open Classical in
/-- Evaluation under a check of every expression with those around it, with at most `levels`
    evaluations inside one another. What does not pass is evaluated by `stray`. -/
noncomputable def evalChecked (interp : Interp) (check : List Value → Value → Prop)
    (stray : Evaluator) : (levels : Nat) → (around : List Value) → Evaluator
  | 0, _ => stray
  | levels + 1, around => fun expr env depth =>
    if check around expr then
      interp.evalStep (interp.evalChecked check stray levels (expr :: around)) expr env depth
    else stray expr env depth

section
variable {interp : Interp} (builtin : interp.forms = .builtin)
  (hosts : ∀ f ∈ interp.hosts, f.MakesNoProcedures)

section
variable {eval eval' : Evaluator} {around : List Value} {expr : Value} {depth : Nat}
  (below : depth < interp.limit)
  (nested : ∀ {inner : Value}, Arises (expr :: around) inner → ∀ {deeper : Nat}, depth < deeper →
    ∀ s scope, Policy.textual.discipline.Agree s Policy.textual.discipline.value
      (eval inner scope deeper) (eval' inner scope deeper))
include builtin hosts below nested

/-- A readable expression goes to a form, which evaluates its parts or what its clauses stand for,
    or is a call. -/
theorem evalStep_of_readable (readable : expr.readable = true) (s : Store) (env : Env) :
    Policy.textual.discipline.Agree s Policy.textual.discipline.value
      (interp.evalStep eval expr env depth) (interp.evalStep eval' expr env depth) := by
  have observes := (Policy.allows_textual hosts).observes
  have mates := Discipline.Mates.refl Policy.textual.discipline interp
  have nests : ∀ {deeper}, depth < deeper →
      Policy.textual.discipline.Evaluators eval eval' deeper deeper :=
    fun lower s inner scope _ plain => nested (.readable plain) lower s scope
  rw [evalStep_of_lt _ _ _ _ below, evalStep_of_lt _ _ _ _ below]
  cases headed : interp.formOf? expr with
  | none =>
    exact Discipline.evalPlain_agrees observes mates (nests (by omega)) (nests (by omega)) trivial
      readable
  | some found =>
    obtain ⟨form, operands⟩ := found
    obtain ⟨head, rfl, registered⟩ := of_formOf? headed
    rw [builtin] at registered
    have known : form ∈ Form.builtins := List.mem_of_find?_eq_some registered
    have parts : ∀ v ∈ operands, v.readable = true := fun v hv =>
      Value.allReadable_iff.mp readable v (List.mem_cons_of_mem _ hv)
    refine Discipline.Agree.note_then _ ?_
    by_cases other : form.tag = "cond"
    · -- the clauses are readable, but what they stand for need not be
      have tagged : form.tag = head := by simpa using List.find?_some registered
      obtain rfl : head = "cond" := tagged.symm.trans other
      obtain rfl : form = ⟨"cond", Form.cond⟩ := Option.some.inj (registered.symm.trans rfl)
      exact Discipline.Agree.ofExcept_then fun inner expanded =>
        nested (.expansion parts expanded) (by omega) s env
    · exact Discipline.builtin_agrees_unless_cond observes mates known other _ _ _ _ s operands env
        (nests (by omega)) trivial parts

/-- What clauses stand for is evaluated like readable code, but for the end. -/
theorem evalStep_of_arises (arises : Arises around expr) (s : Store) (env : Env) :
    Policy.textual.discipline.Agree s Policy.textual.discipline.value
      (interp.evalStep eval expr env depth) (interp.evalStep eval' expr env depth) := by
  rcases arises.code with readable | expanded
  · exact evalStep_of_readable builtin hosts below nested readable s env
  rcases expanded.cases with readable | rfl | ⟨test, consequent, alternative, rfl, ht, hc, -⟩
  · exact evalStep_of_readable builtin hosts below nested readable s env
  · rw [evalStep_of_lt _ _ _ _ below, evalStep_of_lt _ _ _ _ below]
    exact Discipline.Agree.pure' (Policy.admits_of_isAtom rfl)
  · have headed : interp.formOf? (Form.conditional test consequent alternative) =
        some (⟨"if", Form.conditionalForm⟩, [test, consequent, alternative]) := by
      unfold formOf? Form.conditional
      rw [builtin]
      rfl
    have deeper : depth < depth + 1 := Nat.lt_succ_self depth
    rw [evalStep_of_lt _ _ _ _ below, evalStep_of_lt _ _ _ _ below, headed]
    refine Discipline.Agree.note_then _ ?_
    refine Discipline.Agree.bind (nested (.readable ht) deeper s env) fun s' v _ _ => ?_
    cases v.isTrue
    · exact nested (.alternative arises) deeper s' env
    · exact nested (.readable hc) deeper s' env

end

include builtin hosts

/-- Evaluation is evaluation under a check that lets pass what may arise, and keeps procedure bodies
    readable. -/
theorem evalAt_checked {check : List Value → Value → Prop}
    (checks : ∀ {around v}, Arises around v → check around v) (stray : Evaluator) :
    ∀ (levels depth : Nat), interp.limit - depth < levels →
      ∀ (s : Store) (around : List Value) (expr : Value) (env : Env), Arises around expr →
        Policy.textual.discipline.Agree s Policy.textual.discipline.value
          (interp.evalAt expr env depth)
          (interp.evalChecked check stray levels around expr env depth)
  | 0, _, enough, _, _, _, _, _ => absurd enough (Nat.not_lt_zero _)
  | levels + 1, depth, enough, s, around, expr, env, arises => by
    rw [evalAt_eq]
    simp only [evalChecked, if_pos (checks arises)]
    by_cases limit : interp.limit ≤ depth
    · rw [evalStep_of_limit_le _ _ _ _ limit, evalStep_of_limit_le _ _ _ _ limit]
      exact Discipline.Agree.fault _
    have below : depth < interp.limit := Nat.lt_of_not_le limit
    refine evalStep_of_arises builtin hosts below ?_ arises s env
    intro inner arises deeper lower s scope
    rw [nested_of_lt _ lower]
    exact evalAt_checked checks stray levels deeper (by omega) s _ inner scope arises

end

end Interp

/-! Among what may arise, an expression without a rule is the empty list. -/

/-- The likeness of runs that are the same, and in which only the empty list is an unknown
    expression. -/
def Likeness.knowing : Likeness :=
  .same (fun e => ∀ v, e = .unknownExpression v → v = .list []) fun checked v unknown => by
    rw [unknown] at checked
    exact checked.elim

/-- What goes astray is refused. -/
def Interp.refusing : Evaluator := fun _ _ _ => Eval.fault .emptySequence

/-- Where only what may arise is evaluated, only the empty list is an unknown expression. -/
theorem Interp.evalChecked_stuck {interp : Interp} (builtin : interp.forms = .builtin)
    (hosts : ∀ f ∈ interp.hosts, ∀ args e, f.run args = .error e → Likeness.knowing.admits e) :
    ∀ (levels depth : Nat) (around : List Value) (expr : Value) (env : Env),
      Likeness.knowing.Alike (interp.evalChecked Arises refusing levels around expr env depth)
        (interp.evalChecked Arises refusing levels around expr env depth)
  | 0, _, _, _, _ => Likeness.Alike.fault _
  | levels + 1, depth, around, expr, env => by
    simp only [evalChecked]
    split
    case isFalse => exact Likeness.Alike.fault _
    case isTrue arises =>
    have nests : ∀ deeper, Likeness.knowing.Evaluators
        (interp.evalChecked Arises refusing levels (expr :: around))
        (interp.evalChecked Arises refusing levels (expr :: around)) deeper :=
      fun deeper => evalChecked_stuck builtin hosts levels deeper _
    refine Likeness.evalStep_alike hosts ?_ (nests (depth + 1)) (fun _ _ _ _ => nests (depth + 2))
      ?_ env
    · intro form known operands env
      rw [builtin] at known
      exact Likeness.builtin_alike _ interp known _ _ depth operands env (nests (depth + 1))
    · intro stuck v unknown
      cases unknown
      exact arises.eq_nil_of_isStuck stuck

end MiniScheme
