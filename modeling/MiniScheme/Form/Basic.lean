import MiniScheme.Loader

/- Special forms. A form has a tag and a handler; the handler gets the operands
   as they stand, the environment and the depth, and a context through which it
   can evaluate, ask whether a name is a tag, and open sources. A registry holds
   forms under distinct tags and only ever grows: a tag is refused exactly if it is
   taken (`insert_eq_error_iff`), and otherwise leads to its form from then on
   (`find?_insert_self`, `find?_insert_of_ne`), which is the only one that is new
   (`mem_of_insert`). -/
namespace MiniScheme

/-- Evaluates an expression in an environment at a depth. -/
abbrev Evaluator := Value → Env → Nat → Eval Value

/-- What a handler may use of the interpreter that calls it. -/
structure Context where
  eval : Evaluator
  /-- The name is the tag of a special form. -/
  isForm : String → Bool
  loader : Loader

/-- What a special form does with its operands. -/
abbrev Handler := Context → List Value → Env → Nat → Eval Value

structure Form where
  tag : String
  handler : Handler

/-- A form as diagnostics show it. -/
def Form.debug (f : Form) : String := s!"SpecialForm({f.tag})"

/-- Special forms in the order in which they were registered. -/
structure Registry where
  forms : List Form

namespace Registry

def empty : Registry := ⟨[]⟩

def find? (r : Registry) (tag : String) : Option Form := r.forms.find? fun f => f.tag = tag

def contains (r : Registry) (tag : String) : Bool := (r.find? tag).isSome

def size (r : Registry) : Nat := r.forms.length

def isEmpty (r : Registry) : Bool := r.forms.isEmpty

/-- The tags in increasing order. -/
def tags (r : Registry) : List String := (r.forms.map (·.tag)).mergeSort fun a b => a ≤ b

/-- Adds a form under a tag that is not taken. -/
def insert (r : Registry) (tag : String) (handler : Handler) : Except Error Registry :=
  if r.contains tag then .error (.duplicateForm tag)
  else .ok ⟨r.forms ++ [⟨tag, handler⟩]⟩

/-- Adds a form under a tag that is not taken, and logs it. -/
def register (r : Registry) (tag : String) (handler : Handler) : Eval Registry := do
  let grown ← Eval.ofExcept (r.insert tag handler)
  Eval.note (.registering tag)
  return grown

/-- A tag is refused exactly if it is taken. -/
theorem insert_eq_error_iff (r : Registry) (tag : String) (handler : Handler) :
    r.insert tag handler = .error (.duplicateForm tag) ↔ r.contains tag = true := by
  unfold insert
  by_cases h : r.contains tag <;> simp [h]

/-- A tag that was free leads to the form registered under it. -/
theorem find?_insert_self {r grown : Registry} {tag : String} {handler : Handler}
    (h : r.insert tag handler = .ok grown) : grown.find? tag = some ⟨tag, handler⟩ := by
  unfold insert at h
  split at h
  · cases h
  · next free =>
    cases h
    have none : r.forms.find? (fun f => f.tag = tag) = none := by
      simpa [contains, find?] using free
    simp [find?, List.find?_append, none]

/-- Every other tag leads where it did. -/
theorem find?_insert_of_ne {r grown : Registry} {tag other : String} {handler : Handler}
    (h : r.insert tag handler = .ok grown) (ne : other ≠ tag) :
    grown.find? other = r.find? other := by
  unfold insert at h
  split at h
  · cases h
  · cases h
    simp [find?, List.find?_append, Ne.symm ne]

/-- The tags are those that there were, and the new one. -/
theorem contains_insert {r grown : Registry} {tag : String} {handler : Handler}
    (h : r.insert tag handler = .ok grown) (other : String) :
    grown.contains other = (r.contains other || other == tag) := by
  by_cases same : other = tag
  · subst same
    simp [contains, find?_insert_self h]
  · have ne : (other == tag) = false := by simpa using same
    rw [ne, Bool.or_false, contains, find?_insert_of_ne h same, contains]

theorem mem_of_insert {r grown : Registry} {tag : String} {handler : Handler}
    (h : r.insert tag handler = .ok grown) {form : Form} (known : form ∈ grown.forms) :
    form ∈ r.forms ∨ form = ⟨tag, handler⟩ := by
  unfold insert at h
  split at h
  · cases h
  · cases h
    simpa using known

end Registry

/-- Evaluates expressions in order, each one level down, and gives the value of the last. -/
def evalSequence (eval : Evaluator) (env : Env) (depth : Nat) : List Value → Eval Value
  | [] => Eval.fault .emptySequence
  | [expr] => eval expr env (depth + 1)
  | expr :: rest => do
    let _ ← eval expr env (depth + 1)
    evalSequence eval env depth rest

/-- Evaluates operands from left to right at one depth. -/
def evalOperands (eval : Evaluator) (env : Env) (depth : Nat) : List Value → Eval (List Value)
  | [] => return []
  | expr :: rest => do
    let v ← eval expr env depth
    let vs ← evalOperands eval env depth rest
    return v :: vs

end MiniScheme
