import MiniScheme.Proofs.Clauses
import MiniScheme.Proofs.Expansion

/- Malformed special forms. `Malformed` lists the operands that the builtin forms
   are not meant to take, form by form. Every handler checks the shape of its
   operands before it does anything else, and fails with the error of the check;
   so it refuses malformed operands whatever it could evaluate them with and
   wherever it stands (`Refuses`). Main statement: a malformed form fails with an
   error that its operands and the tags there are decide, and neither the store
   nor the output changes, because none of the operands is evaluated
   (`evalAt_malformed`). -/
namespace MiniScheme

/-- The registry has the builtin forms under their tags. -/
def Registry.HasBuiltins (r : Registry) : Prop :=
  ∀ {tag : String} {form : Form}, Registry.builtin.find? tag = some form → r.find? tag = some form

theorem Registry.Grown.hasBuiltins {r : Registry} (h : r.Grown) : r.HasBuiltins :=
  fun found => h.find?_builtin found

namespace Form

/-- The tags of the forms whose operand is the name of a variable. -/
def namingTags : List String :=
  ["defined?", "locally-defined?", "make-unbound!", "locally-make-unbound!"]

/-- The tags of the forms that take one operand. -/
def unaryTags : List String := "quote" :: "load" :: namingTags

/-- A symbol that is not the tag of a form. -/
def Bindable (isForm : String → Bool) (v : Value) : Prop :=
  ∃ name, v = .symbol name ∧ isForm name = false

/-- Parameters are bindable names, each of which stands once. -/
def Parameters (isForm : String → Bool) (params : List Value) : Prop :=
  (∀ p ∈ params, Bindable isForm p) ∧ params.Nodup

/-- Operands that the builtin form with the tag does not take. -/
inductive Malformed (isForm : String → Bool) : String → List Value → Prop
  | operandCount {tag : String} {operands : List Value} (takesOne : tag ∈ unaryTags)
      (notOne : operands.length ≠ 1) : Malformed isForm tag operands
  | location {operand : Value} (noString : ∀ text, operand ≠ .string text)
      (noSymbol : ∀ name, operand ≠ .symbol name) : Malformed isForm "load" [operand]
  | name {tag : String} {operand : Value} (takesName : tag ∈ namingTags)
      (noSymbol : ∀ name, operand ≠ .symbol name) : Malformed isForm tag [operand]
  | conditional {operands : List Value} (notTwo : operands.length ≠ 2)
      (notThree : operands.length ≠ 3) : Malformed isForm "if" operands
  | assignmentCount {operands : List Value} (notTwo : operands.length ≠ 2) :
      Malformed isForm "set!" operands
  | assignmentTarget {target expr : Value} (unbindable : ¬ Bindable isForm target) :
      Malformed isForm "set!" [target, expr]
  | definitionCount {operands : List Value}
      (noSignature : ∀ name params body, operands ≠ .list (name :: params) :: body)
      (notTwo : operands.length ≠ 2) : Malformed isForm "define" operands
  | definitionTarget {target expr : Value}
      (noSignature : ∀ name params, target ≠ .list (name :: params))
      (unbindable : ¬ Bindable isForm target) : Malformed isForm "define" [target, expr]
  | procedureName {name : Value} {params body : List Value}
      (unbindable : ¬ Bindable isForm name) :
      Malformed isForm "define" (.list (name :: params) :: body)
  | procedureParameters {name : Value} {params body : List Value}
      (wrong : ¬ Parameters isForm params) :
      Malformed isForm "define" (.list (name :: params) :: body)
  | procedureBody {name : Value} {params : List Value} :
      Malformed isForm "define" [.list (name :: params)]
  | lambdaCount : Malformed isForm "lambda" []
  | lambdaList {params : Value} {body : List Value} (noList : ∀ names, params ≠ .list names) :
      Malformed isForm "lambda" (params :: body)
  | lambdaParameters {params body : List Value} (wrong : ¬ Parameters isForm params) :
      Malformed isForm "lambda" (.list params :: body)
  | lambdaBody {params : Value} : Malformed isForm "lambda" [params]
  | emptySequence : Malformed isForm "begin" []
  | clause {before after : List Value} {clause : Value} {e : Error}
      (offends : offence? after.isEmpty clause = some e) :
      Malformed isForm "cond" (before ++ clause :: after)

/-- The handler fails with one error on the operands, and does nothing else, whatever the evaluator,
    the sources and the environment are. -/
def Refuses (isForm : String → Bool) (handler : Handler) (operands : List Value) : Prop :=
  ∃ e, ∀ ctx : Context, ctx.isForm = isForm → ∀ env depth,
    handler ctx operands env depth = throw e

/-! What the checks refuse. -/

theorem exists_error {α : Type} {x : Except Error α} (fails : ∀ a, x ≠ .ok a) :
    ∃ e, x = .error e := by
  cases x with
  | ok a => exact absurd rfl (fails a)
  | error e => exact ⟨e, rfl⟩

/-- A computation that begins with a check that fails does nothing. -/
theorem check_refuses {α β : Type} {x : Except Error α} {e : Error} (failed : x = .error e)
    (next : α → Eval β) : (Eval.ofExcept x >>= next) = throw e := by
  rw [failed]
  rfl

theorem singleOperand_refuses {form : String} {operands : List Value}
    (notOne : operands.length ≠ 1) :
    singleOperand form operands = .error (.fault (.operandCount form operands.length)) := by
  unfold singleOperand
  split
  · simp at notOne
  · rfl

theorem nameOperand_refuses_count (form : String) {operands : List Value}
    (notOne : operands.length ≠ 1) :
    nameOperand form operands = .error (.fault (.operandCount form operands.length)) := by
  rw [nameOperand, singleOperand_refuses notOne]

theorem nameOperand_refuses (form : String) {operand : Value}
    (noSymbol : ∀ name, operand ≠ .symbol name) :
    nameOperand form [operand] = .error (.fault (.notSymbol form operand)) := by
  cases operand with
  | symbol name => exact absurd rfl (noSymbol name)
  | _ => rfl

theorem locationOf_refuses {operand : Value} (noString : ∀ text, operand ≠ .string text)
    (noSymbol : ∀ name, operand ≠ .symbol name) :
    locationOf operand = .error (.fault (.locationNotNamed operand)) := by
  cases operand with
  | symbol name => exact absurd rfl (noSymbol name)
  | string text => exact absurd rfl (noString text)
  | _ => rfl

section
variable {isForm : String → Bool}

theorem bindable_refuses (form : String) {target : Value}
    (unbindable : ¬ Bindable isForm target) :
    ∃ e, bindable isForm form target = .error e := by
  apply exists_error
  intro name bound
  exact unbindable ⟨name, of_bindable bound⟩

/-- The signature of a closure is refused without a list of parameters, for wrong parameters and
    without a body. -/
theorem signature_refuses {params : Value} {body : List Value}
    (wrong : (∀ names, params = .list names → ¬ Parameters isForm names) ∨ body = []) :
    ∃ e, signature isForm params body = .error e := by
  apply exists_error
  intro names signed
  obtain ⟨rfl, some?, distinct, free⟩ := of_signature signed
  rcases wrong with wrong | rfl
  · refine wrong _ rfl ⟨?_, ?_⟩
    · intro p hp
      obtain ⟨name, known, rfl⟩ := List.mem_map.mp hp
      exact ⟨name, rfl, free name known⟩
    · exact List.pairwise_map.mpr (distinct.imp fun differ same => differ (Value.symbol.inj same))
  · exact some? rfl

/-! What the handlers refuse. -/

theorem named_refuses {tag : String} {act : Env → String → Eval Value} {operands : List Value}
    {e : Error} (failed : nameOperand tag operands = .error e) :
    Refuses isForm (fun _ operands env _ => Eval.ofExcept (nameOperand tag operands) >>= act env)
      operands :=
  ⟨e, fun _ _ env _ => check_refuses failed (act env)⟩

theorem unary_refuses {tag : String} {operands : List Value} (takesOne : tag ∈ unaryTags)
    (notOne : operands.length ≠ 1) :
    ∃ handler, Registry.builtin.find? tag = some ⟨tag, handler⟩ ∧
      Refuses isForm handler operands := by
  have counted := fun tag => nameOperand_refuses_count tag notOne
  simp only [unaryTags, namingTags, List.mem_cons, List.not_mem_nil, or_false] at takesOne
  rcases takesOne with rfl | rfl | rfl | rfl | rfl | rfl
  · refine ⟨quote, rfl, .fault (.operandCount "quote" operands.length), fun _ _ _ _ => ?_⟩
    show Eval.ofExcept (singleOperand "quote" operands) = _
    rw [singleOperand_refuses notOne]
    rfl
  · exact ⟨load, rfl, _, fun _ _ _ _ => check_refuses (singleOperand_refuses notOne) _⟩
  · exact ⟨isDefined, rfl, named_refuses (counted _)⟩
  · exact ⟨isLocallyDefined, rfl, named_refuses (counted _)⟩
  · exact ⟨makeUnbound, rfl, named_refuses (counted _)⟩
  · exact ⟨makeLocallyUnbound, rfl, named_refuses (counted _)⟩

/-- The parameters or the body of a closure are wrong. -/
theorem closure_refuses {ctx : Context} {params : Value} {body : List Value} {e : Error}
    (failed : signature ctx.isForm params body = .error e) (env : Env) :
    closure ctx params body env = throw e :=
  check_refuses failed _

theorem assignment_refuses {target expr : Value} (unbindable : ¬ Bindable isForm target) :
    Refuses isForm assignment [target, expr] := by
  obtain ⟨e, failed⟩ := bindable_refuses "set!" unbindable
  refine ⟨e, fun ctx tags _ _ => ?_⟩
  rw [← tags] at failed
  exact check_refuses failed _

theorem definition_refuses {target expr : Value}
    (noSignature : ∀ name params, target ≠ .list (name :: params))
    (unbindable : ¬ Bindable isForm target) : Refuses isForm define [target, expr] := by
  obtain ⟨e, failed⟩ := bindable_refuses "define" unbindable
  refine ⟨e, fun ctx tags env depth => ?_⟩
  rw [← tags] at failed
  rw [define_value ctx expr env depth noSignature]
  exact check_refuses failed _

/-- A procedure is not defined if its name is wrong, or its signature. -/
theorem procedure_refuses {name : Value} {params body : List Value}
    (wrong : ¬ Bindable isForm name ∨ ¬ Parameters isForm params ∨ body = []) :
    Refuses isForm define (.list (name :: params) :: body) := by
  cases named : bindable isForm "define" name with
  | error e =>
    refine ⟨e, fun ctx tags _ _ => ?_⟩
    rw [← tags] at named
    exact check_refuses named _
  | ok bound =>
    have bindable : Bindable isForm name := ⟨bound, of_bindable named⟩
    have unsigned : ∃ e, signature isForm (.list params) body = .error e := by
      apply signature_refuses
      rcases wrong with wrong | wrong | none
      · exact absurd bindable wrong
      · exact .inl fun names same => by cases same; exact wrong
      · exact .inr none
    obtain ⟨e, failed⟩ := unsigned
    refine ⟨e, fun ctx tags env _ => ?_⟩
    rw [← tags] at named failed
    show (Eval.ofExcept (Form.bindable ctx.isForm "define" name) >>= _) = _
    rw [named]
    show (closure ctx (.list params) body env >>= _) = _
    rw [closure_refuses failed]
    rfl

theorem lambda_refuses {params : Value} {body : List Value}
    (wrong : (∀ names, params = .list names → ¬ Parameters isForm names) ∨ body = []) :
    Refuses isForm lambda (params :: body) := by
  obtain ⟨e, failed⟩ := signature_refuses wrong
  refine ⟨e, fun ctx tags env _ => ?_⟩
  rw [← tags] at failed
  exact closure_refuses failed env

theorem cond_refuses {before after : List Value} {clause : Value} {e : Error}
    (offends : offence? after.isEmpty clause = some e) :
    Refuses isForm cond (before ++ clause :: after) := by
  obtain ⟨e', failed⟩ := expandClauses_of_offence offends before
  exact ⟨e', fun _ _ _ _ => check_refuses failed _⟩

/-- Each form refuses the operands that it does not take. -/
theorem Malformed.refuses {tag : String} {operands : List Value}
    (malformed : Malformed isForm tag operands) :
    ∃ handler, Registry.builtin.find? tag = some ⟨tag, handler⟩ ∧
      Refuses isForm handler operands := by
  cases malformed with
  | operandCount takesOne notOne => exact unary_refuses takesOne notOne
  | location noString noSymbol =>
    exact ⟨load, rfl, _, fun _ _ _ _ => check_refuses (locationOf_refuses noString noSymbol) _⟩
  | @name tag operand takesName noSymbol =>
    have refused := fun tag => nameOperand_refuses tag noSymbol
    simp only [namingTags, List.mem_cons, List.not_mem_nil, or_false] at takesName
    rcases takesName with rfl | rfl | rfl | rfl
    · exact ⟨isDefined, rfl, named_refuses (refused _)⟩
    · exact ⟨isLocallyDefined, rfl, named_refuses (refused _)⟩
    · exact ⟨makeUnbound, rfl, named_refuses (refused _)⟩
    · exact ⟨makeLocallyUnbound, rfl, named_refuses (refused _)⟩
  | conditional notTwo notThree =>
    refine ⟨conditionalForm, rfl, .fault (.conditionalOperands operands.length), fun _ _ _ _ => ?_⟩
    match operands with
    | [] | [_] => rfl
    | [_, _] => exact absurd rfl notTwo
    | [_, _, _] => exact absurd rfl notThree
    | _ :: _ :: _ :: _ :: _ => rfl
  | assignmentCount notTwo =>
    refine ⟨assignment, rfl, .fault (.assignmentOperands operands.length), fun _ _ _ _ => ?_⟩
    match operands with
    | [] | [_] => rfl
    | [_, _] => exact absurd rfl notTwo
    | _ :: _ :: _ :: _ => rfl
  | assignmentTarget unbindable => exact ⟨assignment, rfl, assignment_refuses unbindable⟩
  | definitionCount noSignature notTwo =>
    refine ⟨define, rfl, .fault (.defineOperands operands.length), fun ctx _ env depth => ?_⟩
    exact define_malformed ctx env depth noSignature fun _ _ same => notTwo (by rw [same]; rfl)
  | definitionTarget noSignature unbindable =>
    exact ⟨define, rfl, definition_refuses noSignature unbindable⟩
  | procedureName unbindable => exact ⟨define, rfl, procedure_refuses (.inl unbindable)⟩
  | procedureParameters wrong => exact ⟨define, rfl, procedure_refuses (.inr (.inl wrong))⟩
  | procedureBody => exact ⟨define, rfl, procedure_refuses (.inr (.inr rfl))⟩
  | lambdaCount => exact ⟨lambda, rfl, .fault .noParameters, fun _ _ _ _ => rfl⟩
  | lambdaList noList =>
    exact ⟨lambda, rfl, lambda_refuses (.inl fun names same => absurd same (noList names))⟩
  | lambdaParameters wrong =>
    exact ⟨lambda, rfl, lambda_refuses (.inl fun names same => by cases same; exact wrong)⟩
  | lambdaBody => exact ⟨lambda, rfl, lambda_refuses (.inr rfl)⟩
  | emptySequence => exact ⟨sequence, rfl, .fault .emptySequence, fun _ _ _ _ => rfl⟩
  | clause offends => exact ⟨cond, rfl, cond_refuses offends⟩

end

end Form

namespace Interp

/-- A malformed form fails, with an error that depends only on its operands and on the tags that
    there are. All that changes is the log, which tells that the form was dispatched. It is so with
    any evaluator for the operands, so none of them is evaluated. -/
theorem evalAt_malformed {interp : Interp} (builtins : interp.forms.HasBuiltins) {tag : String}
    {operands : List Value} (malformed : Form.Malformed interp.forms.contains tag operands) :
    ∃ e, ∀ env depth, depth < interp.limit → ∀ st : State,
      let refused : EStateM.Result Error State Value :=
        .error e { st with log := st.log.push (.dispatching tag) }
      interp.evalAt (.list (.symbol tag :: operands)) env depth st = refused ∧
        ∀ eval : Evaluator,
          interp.evalStep eval (.list (.symbol tag :: operands)) env depth st = refused := by
  obtain ⟨handler, found, e, refuses⟩ := malformed.refuses
  have registered : interp.forms.find? tag = some ⟨tag, handler⟩ := builtins found
  have headed : interp.formOf? (.list (.symbol tag :: operands)) =
      some (⟨tag, handler⟩, operands) := by
    simp only [formOf?, registered, Option.map_some]
  refine ⟨e, fun env depth admitted st => ?_⟩
  have step : ∀ eval : Evaluator,
      interp.evalStep eval (.list (.symbol tag :: operands)) env depth st =
        .error e { st with log := st.log.push (.dispatching tag) } := by
    intro eval
    rw [evalStep_of_lt _ _ _ _ admitted, headed]
    show (do
      Eval.note (.dispatching tag)
      handler (interp.context eval) operands env depth) st = _
    rw [refuses (interp.context eval) rfl env depth]
    rfl
  exact ⟨by rw [evalAt_eq]; exact step _, step⟩

/-- An `else` before the last clause, after a clause whose test writes, in an interpreter with one
    more form: nothing is written. -/
theorem evalAt_malformed_clause :
    let forms : Registry := ⟨Form.builtins ++ [⟨"seven", fun _ _ _ _ => return .number 7⟩]⟩
    let interp : Interp := { Interp.fresh (.memory []) .kept 12 with forms := forms }
    let clauses : List Value := [
      .list [.list [.symbol "display", .string "tried"], .number 1],
      .list [.symbol "else", .number 2],
      .list [.bool true, .list [.symbol "seven"]]]
    interp.forms.HasBuiltins ∧ Form.Malformed interp.forms.contains "cond" clauses ∧
      3 < interp.limit ∧
      ∃ e, interp.evalAt (.list (.symbol "cond" :: clauses)) interp.global 3 initialState =
          .error e { initialState with log := #[.dispatching "cond"] } ∧
        interp.evalStep (fun _ _ _ => Eval.write "evaluated" *> return .unspecified)
            (.list (.symbol "cond" :: clauses)) interp.global 3 initialState =
          .error e { initialState with log := #[.dispatching "cond"] } := by
  intro forms interp clauses
  have added : Registry.builtin.insert "seven" (fun _ _ _ _ => return .number 7) = .ok forms := rfl
  have builtins : interp.forms.HasBuiltins := (Registry.Grown.builtin.insert added).hasBuiltins
  have malformed : Form.Malformed interp.forms.contains "cond" clauses := by
    have early : Form.offence? false (.list [.symbol "else", .number 2]) =
      some (.misplacedElse (.list [.symbol "else", .number 2])) := rfl
    exact @Form.Malformed.clause _ [_] [_] _ _ early
  obtain ⟨e, refused⟩ := evalAt_malformed builtins malformed
  obtain ⟨failed, unevaluated⟩ := refused interp.global 3 (by decide) initialState
  exact ⟨builtins, malformed, by decide, e, failed, unevaluated _⟩

end Interp

end MiniScheme
