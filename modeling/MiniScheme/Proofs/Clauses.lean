import MiniScheme.Proofs.Levels

/- What `cond` means, clause by clause. `evalClauses` tries clauses in order
   without expanding them: the clause at position `k` is tried `k` levels below
   the first, its test one level further down, and its body, once it is chosen,
   as a sequence. Main statement: under every registry that has grown from the
   builtin forms, evaluating a `cond` is trying its clauses (`evalAt_cond`),
   whatever the environment binds. The forms that the expansion names are found
   by their tags, which no registration can take over (`Grown.find?_builtin`). -/
namespace MiniScheme

/-- The registries that registrations make of the builtin one. -/
inductive Registry.Grown : Registry → Prop
  | builtin : Grown .builtin
  | insert {r grown : Registry} {tag : String} {handler : Handler} (h : Grown r)
      (added : r.insert tag handler = .ok grown) : Grown grown

/-- A builtin form keeps its tag. -/
theorem Registry.Grown.find?_builtin {r : Registry} (h : r.Grown) {tag : String} {form : Form}
    (hf : Registry.builtin.find? tag = some form) : r.find? tag = some form := by
  induction h with
  | builtin => exact hf
  -- a registration fails for a tag that is taken, so it was for another one
  | @insert r grown other handler _ added ih =>
    have free : other ≠ tag := by
      intro same
      subst same
      have taken : r.contains other = true := by rw [Registry.contains, ih]; rfl
      rw [Registry.insert, if_pos taken] at added
      cases added
    rw [Registry.find?_insert_of_ne added (Ne.symm free)]
    exact ih

theorem Registry.Grown.contains_builtin {r : Registry} (h : r.Grown) {tag : String}
    (known : Registry.builtin.contains tag = true) : r.contains tag = true := by
  obtain ⟨form, hf⟩ := Option.isSome_iff_exists.mp known
  rw [Registry.contains, h.find?_builtin hf]
  rfl

namespace Interp

/-- Refuses a computation at the depth limit. -/
def guarded {α : Type} (interp : Interp) (depth : Nat) (x : Eval α) : Eval α :=
  if interp.limit ≤ depth then Eval.fault (.depthExceeded interp.limit) else x

/-- Tries clauses from position `k` on, for a `cond` at `depth`. The log tells of a trial as a
    conditional and of a body as a sequence. -/
def evalClauses (interp : Interp) (env : Env) (depth : Nat) : (k : Nat) → List Value → Eval Value
  | k, [] => interp.guarded (depth + 1 + k) do
    return .unspecified
  | k, clause :: rest => interp.guarded (depth + 1 + k) do
    let (head, body) ← Eval.ofExcept (Form.clauseParts clause)
    if Form.isElse head then
      Eval.note (.dispatching "begin")
      evalSequence interp.evalAt env (depth + 1 + k) body
    else
      Eval.note (.dispatching "if")
      let v ← interp.evalAt head env (depth + 2 + k)
      if v.isTrue then
        interp.guarded (depth + 2 + k) do
          Eval.note (.dispatching "begin")
          evalSequence interp.evalAt env (depth + 2 + k) body
      else interp.evalClauses env depth (k + 1) rest

/-- A sequence only asks the evaluator one level down. -/
theorem evalSequence_congr {eval eval' : Evaluator} {env : Env} {depth : Nat}
    (h : ∀ expr, eval expr env (depth + 1) = eval' expr env (depth + 1)) :
    ∀ exprs, evalSequence eval env depth exprs = evalSequence eval' env depth exprs
  | [] => rfl
  | [expr] => h expr
  | expr :: next :: rest => by
    simp only [evalSequence, h expr, evalSequence_congr h (next :: rest)]

/-- A list headed by a tag goes to the form's handler. -/
theorem evalAt_form (interp : Interp) {tag : String} {form : Form}
    (registered : interp.forms.find? tag = some form) (operands : List Value) (env : Env)
    (depth : Nat) :
    interp.evalAt (.list (.symbol tag :: operands)) env depth = interp.guarded depth (do
      Eval.note (.dispatching form.tag)
      form.handler (interp.context (interp.nested depth)) operands env depth) := by
  have headed : interp.formOf? (.list (.symbol tag :: operands)) = some (form, operands) := by
    simp only [formOf?, registered, Option.map_some]
  rw [evalAt_eq, evalStep, headed]
  rfl

/-- Below the limit, the list does what the handler does. -/
theorem evalAt_form_of_lt (interp : Interp) {tag : String} {form : Form}
    (registered : interp.forms.find? tag = some form) (operands : List Value) (env : Env)
    {depth : Nat} (admitted : depth < interp.limit) :
    interp.evalAt (.list (.symbol tag :: operands)) env depth = (do
      Eval.note (.dispatching form.tag)
      form.handler (interp.context (interp.nested depth)) operands env depth) := by
  rw [interp.evalAt_form registered, guarded, if_neg (Nat.not_le.mpr admitted)]

/-- The unspecified value stands for itself. -/
theorem evalAt_unspecified (interp : Interp) (env : Env) (depth : Nat) :
    interp.evalAt .unspecified env depth = interp.guarded depth (return .unspecified) := by
  rw [evalAt_eq]
  rfl

section
variable {interp : Interp} (grown : interp.forms.Grown) (env : Env) (depth : Nat)
include grown

theorem evalAt_sequenceOf (body : List Value) :
    interp.evalAt (Form.sequenceOf body) env depth = interp.guarded depth (do
      Eval.note (.dispatching "begin")
      evalSequence interp.evalAt env depth body) := by
  rw [Form.sequenceOf, interp.evalAt_form (grown.find?_builtin rfl)]
  have deeper := fun expr => interp.nested_of_lt (Nat.lt_succ_self depth) expr env
  show interp.guarded depth (do
    Eval.note (.dispatching "begin")
    evalSequence (interp.nested depth) env depth body) = _
  rw [evalSequence_congr deeper]

theorem evalAt_conditional (test consequent alternative : Value) :
    interp.evalAt (Form.conditional test consequent alternative) env depth =
      interp.guarded depth (do
        Eval.note (.dispatching "if")
        let v ← interp.evalAt test env (depth + 1)
        if v.isTrue then interp.evalAt consequent env (depth + 1)
        else interp.evalAt alternative env (depth + 1)) := by
  rw [Form.conditional, interp.evalAt_form (grown.find?_builtin rfl)]
  show interp.guarded depth (do
    Eval.note (.dispatching "if")
    let v ← interp.nested depth test env (depth + 1)
    if v.isTrue then interp.nested depth consequent env (depth + 1)
    else interp.nested depth alternative env (depth + 1)) = _
  simp only [interp.nested_of_lt (Nat.lt_succ_self depth)]

/-- Evaluating what clauses stand for is trying them. -/
theorem evalAt_expandClauses (k : Nat) {clauses : List Value} {expanded : Value}
    (h : Form.expandClauses clauses = .ok expanded) :
    interp.evalAt expanded env (depth + 1 + k) = interp.evalClauses env depth k clauses := by
  induction clauses generalizing k expanded with
  | nil =>
    cases h
    rw [evalAt_unspecified]
    rfl
  | cons clause rest ih =>
    obtain ⟨head, body, parts, ⟨last, -, rfl⟩ | ⟨other, alternative, others, rfl⟩⟩ :=
      Form.of_expandClauses_cons h
    · unfold evalClauses
      rw [evalAt_sequenceOf grown]
      simp only [parts, Eval.ofExcept, pure_bind, last, if_true]
    · -- the clauses after this one are the alternative, one level further down
      unfold evalClauses
      rw [evalAt_conditional grown, ← ih (k + 1) others]
      simp only [parts, Eval.ofExcept, pure_bind, other]
      have one : depth + 1 + k + 1 = depth + 2 + k := by omega
      have next : depth + 1 + (k + 1) = depth + 2 + k := by omega
      rw [one, next]
      simp only [evalAt_sequenceOf grown]
      rfl

/-- Evaluating a `cond` is trying its clauses, the first of them one level down. -/
theorem evalAt_cond {clauses : List Value} {expanded : Value}
    (wellFormed : Form.expandClauses clauses = .ok expanded) (admitted : depth < interp.limit) :
    interp.evalAt (.list (.symbol "cond" :: clauses)) env depth = (do
      Eval.note (.dispatching "cond")
      interp.evalClauses env depth 0 clauses) := by
  rw [interp.evalAt_form (grown.find?_builtin rfl), guarded, if_neg (Nat.not_le.mpr admitted)]
  show (do
    Eval.note (.dispatching "cond")
    let tree ← Eval.ofExcept (Form.expandClauses clauses)
    interp.nested depth tree env (depth + 1)) = _
  rw [wellFormed]
  show (do
    Eval.note (.dispatching "cond")
    interp.nested depth expanded env (depth + 1)) = _
  rw [interp.nested_of_lt (Nat.lt_succ_self depth), ← evalAt_expandClauses grown env depth 0 wellFormed]

end

/-- Three clauses under a registry with one more form, in an environment that binds the names
    `if`, `begin` and `else`: the second test fails after it has changed `else`, and the third
    clause still counts as the last one. -/
theorem evalAt_cond_rebound :
    let forms : Registry := ⟨Form.builtins ++ [⟨"seven", fun _ _ _ _ => return .number 7⟩]⟩
    let interp : Interp := { Interp.fresh (.memory []) .kept 12 with forms := forms }
    let clauses : List Value := [
      .list [.bool false, .number 1],
      .list [.list [.symbol "not", .list [.symbol "set!", .symbol "else", .number 2]], .number 3],
      .list [.symbol "else", .list [.symbol "seven"], .symbol "else"]]
    let rebound : Frame := ⟨[("if", .number 0), ("begin", .number 0), ("else", .bool false),
      ("not", .primitive (.builtin .not))], .empty⟩
    let st : State := ⟨⟨#[rebound], 0⟩, "", #[]⟩
    interp.forms.Grown ∧ (∃ tree, Form.expandClauses clauses = .ok tree) ∧ 3 < interp.limit ∧
    interp.evalAt (.list (.symbol "cond" :: clauses)) ⟨some 0⟩ 3 st = (do
      Eval.note (.dispatching "cond")
      interp.evalClauses ⟨some 0⟩ 3 0 clauses) st ∧
    ∃ st', interp.evalAt (.list (.symbol "cond" :: clauses)) ⟨some 0⟩ 3 st = .ok (.number 2) st' := by
  intro forms interp clauses rebound st
  have added : Registry.builtin.insert "seven" (fun _ _ _ _ => return .number 7) = .ok forms := rfl
  have grown : interp.forms.Grown := .insert .builtin added
  have wellFormed : Form.expandClauses clauses = .ok _ := rfl
  have same := evalAt_cond grown ⟨some 0⟩ 3 wellFormed (by decide)
  exact ⟨grown, ⟨_, rfl⟩, by decide, congrFun same st, _, rfl⟩

end Interp

end MiniScheme
