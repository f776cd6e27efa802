import MiniScheme.Interp.Basic
import MiniScheme.Proofs.Reports

/- The errors that forms, builtins and loaders find by themselves. Each of their
   checks either succeeds or says what is wrong; none of them ends a run because
   evaluation has restarted too often, or because there is no rule for an
   expression, which only evaluation itself can do. For the builtins this is read
   off the errors that they report (`Builtin.Reports.genuine`). -/
namespace MiniScheme

/-- The error is of a kind that a check can find. -/
def Error.ofCheck : Error → Prop
  | .exhausted | .unknownExpression _ => False
  | _ => True

namespace Form

theorem singleOperand_genuine {form : String} {operands : List Value} {e : Error}
    (h : singleOperand form operands = .error e) : e.ofCheck := by
  unfold singleOperand at h
  split at h <;> cases h
  trivial

theorem nameOperand_genuine {form : String} {operands : List Value} {e : Error}
    (h : nameOperand form operands = .error e) : e.ofCheck := by
  unfold nameOperand at h
  split at h
  · cases h
  · cases h; trivial
  · next failed => cases h; exact singleOperand_genuine failed

theorem bindable_genuine {isForm : String → Bool} {form : String} {target : Value} {e : Error}
    (h : bindable isForm form target = .error e) : e.ofCheck := by
  unfold bindable at h
  split at h
  · split at h <;> cases h
    trivial
  · cases h; trivial

theorem parameterNames_genuine {isForm : String → Bool} {e : Error} :
    ∀ {params : List Value} {seen : List String},
      parameterNames isForm seen params = .error e → e.ofCheck
  | [], _, h => by cases h
  | param :: rest, seen, h => by
    unfold parameterNames at h
    split at h
    · next failed => cases h; exact bindable_genuine failed
    · split at h
      · cases h; trivial
      · exact parameterNames_genuine h

theorem signature_genuine {isForm : String → Bool} {params : Value} {body : List Value} {e : Error}
    (h : signature isForm params body = .error e) : e.ofCheck := by
  unfold signature at h
  split at h
  · split at h
    · cases h; trivial
    · exact parameterNames_genuine h
  · cases h; trivial

theorem clauseParts_genuine {clause : Value} {e : Error} (h : clauseParts clause = .error e) :
    e.ofCheck := by
  unfold clauseParts at h
  split at h <;> cases h <;> trivial

theorem expandClauses_genuine {e : Error} :
    ∀ {clauses : List Value}, expandClauses clauses = .error e → e.ofCheck
  | [], h => by cases h
  | clause :: rest, h => by
    unfold expandClauses at h
    split at h
    · next failed => cases h; exact clauseParts_genuine failed
    · split at h
      · split at h <;> cases h
        trivial
      · split at h
        · next failed => cases h; exact expandClauses_genuine failed
        · cases h

theorem locationOf_genuine {operand : Value} {e : Error} (h : locationOf operand = .error e) :
    e.ofCheck := by
  unfold locationOf at h
  split at h <;> cases h
  trivial

end Form

namespace Loader

theorem items_genuine {loader : Loader} {location : String} {e : Error}
    (h : loader.items location = .error e) : e.ofCheck := by
  unfold items at h
  split at h <;> cases h
  trivial

/-- An item of a source that could not be read is an error of the reader. -/
theorem item_genuine {loader : Loader} {location : String} {items : List (Except Error Value)}
    (opened : loader.items location = .ok items) {e : Error} (h : .error e ∈ items) :
    e.ofCheck := by
  unfold Loader.items at opened
  split at opened
  · cases opened
    obtain ⟨read, -, same⟩ := List.mem_map.mp h
    cases read with
    | error failure => cases same; trivial
    | ok v => cases same
  · cases opened

end Loader

namespace Store

theorem set_genuine {s : Store} {env : Env} {name : String} {v : Value} {e : Error}
    (h : s.set env name v = .error e) : e.ofCheck := by
  unfold set at h
  split at h <;> cases h
  trivial

theorem define_genuine {s : Store} {env : Env} {name : String} {v : Value} {e : Error}
    (h : s.define env name v = .error e) : e.ofCheck := by
  unfold define at h
  split at h <;> cases h
  trivial

end Store

theorem Arity.check_genuine {arity : Arity} {name : String} {count : Nat} {e : Error}
    (h : arity.check name count = .error e) : e.ofCheck := by
  unfold check at h
  split at h <;> cases h
  trivial

namespace Builtin

theorem Reports.genuine {op : Builtin} {e : Error} (h : op.Reports e) : e.ofCheck := by
  cases h <;> trivial

theorem value_genuine {op : Builtin} {args : List Value} {e : Error}
    (h : op.value args = .error e) : e.ofCheck := by
  by_cases short : args.length < op.needs
  · rw [value_of_lt_needs short] at h
    cases h
    trivial
  · exact (value_reports (Nat.le_of_not_lt short) h).genuine

end Builtin

end MiniScheme
