import MiniScheme.Proofs.Outcomes

/- How evaluations fail. `Fails x s e` says that every run of `x` on the store `s`
   ends with the error `e`, whatever the output and the log hold. A computation
   fails if its first part does, or if what it goes on with does (`Leads.fails`).
   The depth limit refuses every expression at the limit (`fails_at_limit`), and
   so every call and every conditional one level above it, which cannot get at
   its operator or its test (`fails_call`, `fails_conditional`). -/
namespace MiniScheme

namespace Eval

/-- Run on a store, a computation ends with an error, whatever the output and the log hold. -/
def Fails {α : Type} (x : Eval α) (s : Store) (e : Error) : Prop :=
  ∀ st, st.store = s → ∃ st', x st = .error e st'

variable {α β : Type} {x y : Eval α} {e : Error} {a : α} {s s' : Store}

theorem Leads.fails (h : Leads x s y s') (failed : Fails y s' e) : Fails x s e := by
  intro st hs
  obtain ⟨mid, hm, same⟩ := h st hs
  rw [same]
  exact failed mid hm

namespace Fails

theorem fault (f : Fault) (s : Store) : Fails (Eval.fault f : Eval α) s (.fault f) :=
  fun st _ => ⟨st, rfl⟩

theorem note_then (event : LogEvent) (h : Fails x s e) : Fails (do Eval.note event; x) s e :=
  ((Leads.refl x s).note_then event).fails h

/-- The rest is not run. -/
theorem bind (h : Fails x s e) (f : α → Eval β) : Fails (x >>= f) s e := by
  intro st hs
  obtain ⟨st', failed⟩ := h st hs
  refine ⟨st', ?_⟩
  show EStateM.bind x f st = _
  unfold EStateM.bind
  rw [failed]

end Fails

end Eval

namespace Interp

open Eval

variable {interp : Interp} {env : Env} {depth : Nat} {s s₁ : Store}

theorem fails_at_limit (refused : interp.limit ≤ depth) (expr : Value) (env : Env) (s : Store) :
    Fails (interp.evalAt expr env depth) s (.fault (.depthExceeded interp.limit)) := by
  rw [interp.evalAt_of_limit_le expr env refused]
  exact .fault _ s

theorem fails_operand {eval : Evaluator} {expr : Value} {e : Error}
    (h : Fails (eval expr env depth) s e) (rest : List Value) :
    Fails (evalOperands eval env depth (expr :: rest)) s e :=
  h.bind _

/-- A call fails with its operator. -/
theorem fails_call_operator {operator : Value} {operands : List Value} {e : Error}
    (plain : interp.formOf? (.list (operator :: operands)) = none)
    (admitted : depth < interp.limit)
    (failed : Fails (interp.evalAt operator env (depth + 1)) s e) :
    Fails (interp.evalAt (.list (operator :: operands)) env depth) s e := by
  rw [← interp.nested_of_lt (Nat.lt_succ_self depth)] at failed
  rw [interp.evalAt_plain plain env admitted]
  exact failed.bind _

/-- A call fails with its operands. -/
theorem fails_call_operands {operator f : Value} {operands : List Value} {e : Error}
    (plain : interp.formOf? (.list (operator :: operands)) = none)
    (admitted : depth < interp.limit)
    (operation : Yields (interp.evalAt operator env (depth + 1)) s f s₁)
    (failed : Fails (evalOperands interp.evalAt env (depth + 1) operands) s₁ e) :
    Fails (interp.evalAt (.list (operator :: operands)) env depth) s e := by
  have one := interp.nested_of_lt (Nat.lt_succ_self depth)
  rw [← one] at operation
  rw [← evalOperands_congr (one · env)] at failed
  rw [interp.evalAt_plain plain env admitted]
  exact (operation.leads _).fails (failed.bind _)

/-- A call needs a level for its operator. -/
theorem fails_call {operator : Value} {operands : List Value}
    (plain : interp.formOf? (.list (operator :: operands)) = none)
    (refused : interp.limit ≤ depth + 1) (env : Env) (s : Store) :
    Fails (interp.evalAt (.list (operator :: operands)) env depth) s
      (.fault (.depthExceeded interp.limit)) := by
  by_cases admitted : depth < interp.limit
  · exact fails_call_operator plain admitted (fails_at_limit refused _ _ s)
  · exact fails_at_limit (Nat.le_of_not_lt admitted) _ _ s

/-- A conditional fails with its test. -/
theorem fails_conditional (grown : interp.forms.Grown) {test : Value} {e : Error}
    (admitted : depth < interp.limit) (failed : Fails (interp.evalAt test env (depth + 1)) s e)
    (consequent alternative : Value) :
    Fails (interp.evalAt (Form.conditional test consequent alternative) env depth) s e := by
  rw [evalAt_conditional grown, guarded, if_neg (Nat.not_le.mpr admitted)]
  exact (failed.bind _).note_then _

end Interp

end MiniScheme
