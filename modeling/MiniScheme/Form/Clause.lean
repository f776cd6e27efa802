import MiniScheme.Error

/- The clauses of `cond`. `expandClauses` turns them into nested conditionals:
   a clause becomes a test, its body a sequence, and the clauses after it the
   alternative; a last clause headed by `else` becomes its body, and no clauses
   at all the unspecified value. -/
namespace MiniScheme.Form

/-- The sequence of the given expressions. -/
def sequenceOf (body : List Value) : Value := .list (.symbol "begin" :: body)

/-- A conditional with both branches. -/
def conditional (test consequent alternative : Value) : Value :=
  .list [.symbol "if", test, consequent, alternative]

/-- The head of a clause that always applies. -/
def isElse : Value → Bool
  | .symbol name => name = "else"
  | _ => false

/-- A clause in parts: its head and its body. A clause is a list with at least two items. -/
def clauseParts (clause : Value) : Except Error (Value × List Value) :=
  match clause with
  | .list (_ :: []) => .error (.fault (.clauseWithoutBody clause))
  | .list (head :: body) => .ok (head, body)
  | .list [] => .error (.fault .clauseEmpty)
  | other => .error (.fault (.clauseNotList other))

/-- A clause that has parts is the list of its head and a body that is not empty. -/
theorem of_clauseParts {clause head : Value} {body : List Value}
    (h : clauseParts clause = .ok (head, body)) :
    clause = .list (head :: body) ∧ body ≠ [] := by
  unfold clauseParts at h
  split at h
  · cases h
  · next single => cases h; exact ⟨rfl, fun none => single none⟩
  · cases h
  · cases h

/-- The clauses as nested conditionals; `else` may only head the last one. -/
def expandClauses : List Value → Except Error Value
  | [] => .ok .unspecified
  | clause :: rest =>
    match clauseParts clause with
    | .error e => .error e
    | .ok (head, body) =>
      if isElse head then
        if rest.isEmpty then .ok (sequenceOf body) else .error (.misplacedElse clause)
      else
        match expandClauses rest with
        | .error e => .error e
        | .ok alternative => .ok (conditional head (sequenceOf body) alternative)

/-- Clauses stand for the body of an `else`, which is the last one, or for a conditional. -/
theorem of_expandClauses_cons {clause tree : Value} {rest : List Value}
    (h : expandClauses (clause :: rest) = .ok tree) :
    ∃ head body, clauseParts clause = .ok (head, body) ∧
      ((isElse head = true ∧ rest = [] ∧ tree = sequenceOf body) ∨
        (isElse head = false ∧ ∃ alternative, expandClauses rest = .ok alternative ∧
          tree = conditional head (sequenceOf body) alternative)) := by
  unfold expandClauses at h
  split at h
  · cases h
  next head body parts =>
  refine ⟨head, body, parts, ?_⟩
  split at h
  · next last =>
    split at h
    · next single => cases h; exact .inl ⟨last, List.isEmpty_iff.mp single, rfl⟩
    · cases h
  · next other =>
    split at h
    · cases h
    · next alternative others =>
      cases h
      exact .inr ⟨by simpa using other, alternative, others, rfl⟩

end MiniScheme.Form
