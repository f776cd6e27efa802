import MiniScheme.Proofs.Loading
import MiniScheme.Proofs.Malformed

/- The definition of a procedure is the definition of a `lambda`. The form that
   binds `(name param ...)` makes the closure itself and does not go through a
   `lambda` expression, which is evaluated one level down and logged. Its checks
   are those of the longer definition in the same order: the name, the body and
   the parameters, and last the environment. Main statement: a definition with a
   signature and the definition of the `lambda` with these parameters and this
   body end alike from every state, whatever is malformed
   (`evalAt_define_signature`). The two runs differ in what they log, so they
   are compared as in `Likeness.unlogged`, and an event of one of them alone is
   left out (`Alike.note_right`). -/
namespace MiniScheme

theorem Likeness.Alike.note_right (event : LogEvent) {α : Type} {x y : Eval α}
    (h : Likeness.unlogged.Alike x y) : Likeness.unlogged.Alike x (do Eval.note event; y) := by
  intro st st' states
  exact h st (st'.noted event) ⟨states.store, states.output, trivial⟩

namespace Interp

section
variable {interp : Interp} (builtins : interp.forms.HasBuiltins) {depth : Nat}
include builtins

/-- A definition with a signature checks the name, makes the closure and binds it. -/
theorem evalAt_define_closure (admitted : depth < interp.limit) (name : Value)
    (params body : List Value) (env : Env) :
    interp.evalAt (.list (.symbol "define" :: .list (name :: params) :: body)) env depth = (do
      Eval.note (.dispatching "define")
      let name ← Eval.ofExcept (Form.bindable interp.forms.contains "define" name)
      let procedure ← Form.closure (interp.context (interp.nested depth)) (.list params) body env
      Eval.define env name procedure
      return .symbol name) :=
  have registered : interp.forms.find? "define" = some ⟨"define", Form.define⟩ := builtins rfl
  interp.evalAt_form_of_lt registered _ env admitted

/-- Any other definition checks the name, evaluates the expression one level down and binds its
    value. -/
theorem evalAt_define_value (admitted : depth < interp.limit) {name : Value}
    (plain : ∀ first rest, name ≠ .list (first :: rest)) (expr : Value) (env : Env) :
    interp.evalAt (.list [.symbol "define", name, expr]) env depth = (do
      Eval.note (.dispatching "define")
      let name ← Eval.ofExcept (Form.bindable interp.forms.contains "define" name)
      let v ← interp.evalAt expr env (depth + 1)
      Eval.define env name v
      return .symbol name) := by
  have registered : interp.forms.find? "define" = some ⟨"define", Form.define⟩ := builtins rfl
  have one := interp.nested_of_lt (Nat.lt_succ_self depth) expr env
  rw [interp.evalAt_form_of_lt registered _ env admitted]
  simp only [Form.define_value _ _ _ _ plain, context, one]

/-- A `lambda` makes a closure. -/
theorem evalAt_lambda (admitted : depth < interp.limit) (params : Value) (body : List Value)
    (env : Env) :
    interp.evalAt (.list (.symbol "lambda" :: params :: body)) env depth = (do
      Eval.note (.dispatching "lambda")
      Form.closure (interp.context (interp.nested depth)) params body env) :=
  have registered : interp.forms.find? "lambda" = some ⟨"lambda", Form.lambda⟩ := builtins rfl
  interp.evalAt_form_of_lt registered _ env admitted

/-- A definition with a signature and the definition of the `lambda` with these parameters and this
    body end with the same value or the same error, the same output and the same store. -/
theorem evalAt_define_signature (room : depth + 1 < interp.limit) {name : Value}
    (plain : ∀ first rest, name ≠ .list (first :: rest)) (params body : List Value) (env : Env)
    (st : State) :
    Likeness.unlogged.Ends
      (interp.evalAt (.list (.symbol "define" :: .list (name :: params) :: body)) env depth st)
      (interp.evalAt (.list [.symbol "define", name,
        .list (.symbol "lambda" :: .list params :: body)]) env depth st) := by
  have admitted : depth < interp.limit := Nat.lt_of_succ_lt room
  rw [evalAt_define_closure builtins admitted, evalAt_define_value builtins admitted plain,
    evalAt_lambda builtins room]
  refine Likeness.Alike.note_then _ ?_ st st ⟨rfl, rfl, trivial⟩
  apply Likeness.Alike.ofExcept_then fun _ => Form.bindable_genuine
  intro target _
  -- the closures do not depend on the evaluators, which stand at different depths
  have made := Likeness.closure_alike .unlogged interp (interp.nested depth)
    (interp.nested (depth + 1)) (.list params) body env
  apply Likeness.Alike.bind (made.note_right _)
  intro procedure _
  apply Likeness.Alike.bind (Likeness.define_alike _ env target procedure)
  intro _ _
  exact Likeness.Alike.pure' _

end

/-- Under a registry with one more form, both definitions bind the same closure over the global
    frame, and both refuse a parameter that is listed twice. -/
theorem evalAt_define_signature_f :
    let body : List Value := [.list [.symbol "seven"], .symbol "x"]
    let signed (params : List Value) : Value :=
      .list (.symbol "define" :: .list (.symbol "f" :: params) :: body)
    let valued (params : List Value) : Value :=
      .list [.symbol "define", .symbol "f", .list (.symbol "lambda" :: .list params :: body)]
    withSeven.forms.HasBuiltins ∧ 3 + 1 < withSeven.limit ∧
    (∀ first rest, Value.symbol "f" ≠ .list (first :: rest)) ∧
    (∃ left left', withSeven.evalAt (signed [.symbol "x"]) withSeven.global 3 initialState =
        .ok (.symbol "f") left ∧
      withSeven.evalAt (valued [.symbol "x"]) withSeven.global 3 initialState =
        .ok (.symbol "f") left' ∧
      left'.store = left.store ∧
      left.store.lookup? withSeven.global "f" = some (.procedure 0 ["x"] body withSeven.global)) ∧
    ∃ left left', withSeven.evalAt (signed [.symbol "x", .symbol "x"]) withSeven.global 3
        initialState = .error (.fault (.duplicateParameter "x")) left ∧
      withSeven.evalAt (valued [.symbol "x", .symbol "x"]) withSeven.global 3 initialState =
        .error (.fault (.duplicateParameter "x")) left' ∧
      left'.store = left.store := by
  intro body signed valued
  have added : Registry.builtin.insert "seven" (fun _ _ _ _ => return .number 7) =
    .ok withSeven.forms := rfl
  have builtins : withSeven.forms.HasBuiltins := (Registry.Grown.builtin.insert added).hasBuiltins
  have room : 3 + 1 < withSeven.limit := by decide
  have plain : ∀ first rest, Value.symbol "f" ≠ .list (first :: rest) := by
    intro first rest same
    cases same
  have once := evalAt_define_signature builtins room plain [.symbol "x"] body withSeven.global
    initialState
  have twice := evalAt_define_signature builtins room plain [.symbol "x", .symbol "x"] body
    withSeven.global initialState
  obtain ⟨left, ran, bound⟩ : ∃ left : State,
      withSeven.evalAt (signed [.symbol "x"]) withSeven.global 3 initialState =
        .ok (.symbol "f") left ∧
      left.store.lookup? withSeven.global "f" = some (.procedure 0 ["x"] body withSeven.global) :=
    ⟨_, rfl, rfl⟩
  obtain ⟨kept, refused⟩ : ∃ kept : State,
      withSeven.evalAt (signed [.symbol "x", .symbol "x"]) withSeven.global 3 initialState =
        .error (.fault (.duplicateParameter "x")) kept := ⟨_, rfl⟩
  rw [ran] at once
  rw [refused] at twice
  refine ⟨builtins, room, plain, ?_, ?_⟩
  · generalize withSeven.evalAt (valued [.symbol "x"]) withSeven.global 3 initialState = ended
      at once ⊢
    cases once with
    | @ok _ _ left' states => exact ⟨left, left', ran, rfl, states.store, bound⟩
  · generalize withSeven.evalAt (valued [.symbol "x", .symbol "x"]) withSeven.global 3 initialState
      = ended at twice ⊢
    cases twice with
    | @error _ _ kept' _ states => exact ⟨kept, kept', refused, rfl, states.store⟩

end Interp

end MiniScheme
