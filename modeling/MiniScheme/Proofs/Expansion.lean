import MiniScheme.Form.Clause

/- What clauses stand for, and which lists of values are clauses. `Cases` are
   clauses taken apart: tests with their bodies in order, and the body of a last
   `else` if there is one. They are written as a list of clauses (`written`) and
   mean nested conditionals, folded from the right (`tree`), from which they can be
   read back (`ofTree_tree`). A clause offends if it is no list, is empty, has no
   body, or is an `else` before the last one, and the first of these that applies
   is its offence (`offence?`). Main statement: exactly the lists without an
   offence expand, to the conditionals that their cases mean, and the expansion of
   any other list fails with the first offence in it (`expandClauses_total`). -/
namespace MiniScheme.Form

/-- What is wrong with a clause. Only the last clause may be an `else`. -/
def offence? (last : Bool) (clause : Value) : Option Error :=
  match clause with
  | .list [] => some (.fault .clauseEmpty)
  | .list [_] => some (.fault (.clauseWithoutBody clause))
  | .list (head :: _ :: _) =>
    if isElse head && !last then some (.misplacedElse clause) else none
  | _ => some (.fault (.clauseNotList clause))

/-- Clauses in parts: tests with their bodies, and the body of a final `else`. -/
structure Cases where
  tests : List (Value × List Value)
  otherwise : Option (List Value)

namespace Cases

/-- The clauses as they are written. -/
def written (c : Cases) : List Value :=
  c.tests.map (fun t => .list (t.1 :: t.2))
    ++ c.otherwise.toList.map fun body => .list (.symbol "else" :: body)

/-- What remains when no test is true. -/
def ending (c : Cases) : Value :=
  match c.otherwise with
  | some body => sequenceOf body
  | none => .unspecified

/-- The nested conditionals that the clauses mean. -/
def tree (c : Cases) : Value :=
  c.tests.foldr (fun t rest => conditional t.1 (sequenceOf t.2) rest) c.ending

/-- Reads clauses back from nested conditionals. -/
def ofTree : Value → Cases
  | .list [.symbol "if", test, .list (.symbol "begin" :: body), rest] =>
    let others := ofTree rest
    { others with tests := (test, body) :: others.tests }
  | .list (.symbol "begin" :: body) => ⟨[], some body⟩
  | _ => ⟨[], none⟩

/-- Every body has an expression, and no test is the name `else`. -/
structure Proper (c : Cases) : Prop where
  tests : ∀ t ∈ c.tests, isElse t.1 = false ∧ t.2 ≠ []
  otherwise : ∀ body ∈ c.otherwise, body ≠ []

/-- The clauses are read back as they were. -/
theorem ofTree_tree (c : Cases) : ofTree c.tree = c := by
  obtain ⟨tests, otherwise⟩ := c
  unfold tree
  induction tests with
  | nil =>
    cases otherwise with
    | none => rw [List.foldr_nil, ending, ofTree] <;> simp
    | some body =>
      show ofTree (sequenceOf body) = _
      rw [sequenceOf, ofTree]
  | cons t tests ih =>
    have rest : ofTree (tests.foldr (fun t rest => conditional t.1 (sequenceOf t.2) rest)
        (ending ⟨t :: tests, otherwise⟩)) = ⟨tests, otherwise⟩ := ih
    rw [List.foldr_cons, conditional, sequenceOf, ofTree, rest]

end Cases

theorem isElse_iff {v : Value} : isElse v = true ↔ v = .symbol "else" := by
  cases v <;> simp [isElse]

/-- A clause in place is a list of a head and a body, whose head is `else` only at the end. -/
theorem offence?_eq_none_iff {last : Bool} {clause : Value} :
    offence? last clause = none ↔
      ∃ head first body, clause = .list (head :: first :: body) ∧
        (isElse head = true → last = true) := by
  unfold offence?
  split
  · simp
  · simp
  · next head first body =>
    cases named : isElse head <;> cases last <;> simp [named]
  · next noNil noSingle noMore =>
    simp only [reduceCtorEq, false_iff]
    intro ⟨head, first, body, same, _⟩
    exact noMore head first body same

/-- The first clause offends, or it is in place before others, which then fail. -/
theorem expandClauses_cons_error_iff {clause : Value} {rest : List Value} {e : Error} :
    expandClauses (clause :: rest) = .error e ↔
      offence? rest.isEmpty clause = some e ∨
        offence? false clause = none ∧ expandClauses rest = .error e := by
  cases clause with
  | list items =>
    match items with
    | [] => simp [expandClauses, clauseParts, offence?]
    | [_] => simp [expandClauses, clauseParts, offence?]
    | head :: first :: body =>
      cases named : isElse head with
      | true => cases rest <;> simp [expandClauses, clauseParts, offence?, named]
      | false =>
        cases tried : expandClauses rest <;>
          simp [expandClauses, clauseParts, offence?, named, tried]
  | _ => simp [expandClauses, clauseParts, offence?]

/-- An expansion fails with the first offence in the clauses. -/
theorem expandClauses_eq_error_iff {clauses : List Value} {e : Error} :
    expandClauses clauses = .error e ↔
      ∃ before clause after, clauses = before ++ clause :: after ∧
        (∀ c ∈ before, offence? false c = none) ∧ offence? after.isEmpty clause = some e := by
  induction clauses with
  | nil => simp [expandClauses]
  | cons first rest ih =>
    rw [expandClauses_cons_error_iff, ih]
    constructor
    · rintro (here | ⟨proper, before, clause, after, rfl, others, offends⟩)
      · exact ⟨[], first, rest, rfl, by simp, here⟩
      · refine ⟨first :: before, clause, after, rfl, ?_, offends⟩
        exact List.forall_mem_cons.mpr ⟨proper, others⟩
    · rintro ⟨before, clause, after, split, proper, offends⟩
      cases before with
      | nil =>
        obtain ⟨rfl, rfl⟩ := List.cons.inj split
        exact .inl offends
      | cons b before =>
        obtain ⟨rfl, rfl⟩ := List.cons.inj split
        obtain ⟨here, others⟩ := List.forall_mem_cons.mp proper
        exact .inr ⟨here, before, clause, after, rfl, others, offends⟩

/-- One clause that offends, wherever it stands, makes the expansion fail. -/
theorem expandClauses_of_offence {clause : Value} {after : List Value} {e : Error}
    (offends : offence? after.isEmpty clause = some e) (before : List Value) :
    ∃ e', expandClauses (before ++ clause :: after) = .error e' := by
  induction before with
  | nil => exact ⟨e, expandClauses_cons_error_iff.mpr (.inl offends)⟩
  | cons first before ih =>
    obtain ⟨e', failed⟩ := ih
    cases here : offence? false first with
    | none => exact ⟨e', expandClauses_cons_error_iff.mpr (.inr ⟨here, failed⟩)⟩
    | some e'' =>
      have more : (before ++ clause :: after).isEmpty = false := by simp
      rw [← more] at here
      exact ⟨e'', expandClauses_cons_error_iff.mpr (.inl here)⟩

/-- Clauses expand exactly if each of them is in place. -/
theorem expandClauses_eq_ok_iff {clauses : List Value} :
    (∃ tree, expandClauses clauses = .ok tree) ↔
      ∀ before clause after, clauses = before ++ clause :: after →
        offence? after.isEmpty clause = none := by
  constructor
  · intro ⟨tree, expanded⟩ before clause after same
    cases offends : offence? after.isEmpty clause with
    | none => rfl
    | some e =>
      obtain ⟨e', failed⟩ := expandClauses_of_offence offends before
      rw [← same, expanded] at failed
      cases failed
  · intro proper
    cases failed : expandClauses clauses with
    | ok tree => exact ⟨tree, rfl⟩
    | error e =>
      obtain ⟨before, clause, after, same, -, offends⟩ := expandClauses_eq_error_iff.mp failed
      rw [proper before clause after same] at offends
      cases offends

/-- Clauses that expand have cases, and expand to the conditionals that these mean. -/
theorem cases_of_expandClauses {clauses : List Value} {tree : Value}
    (h : expandClauses clauses = .ok tree) :
    ∃ c : Cases, c.Proper ∧ clauses = c.written ∧ tree = c.tree := by
  induction clauses generalizing tree with
  | nil =>
    cases h
    exact ⟨⟨[], none⟩, ⟨by simp, by simp⟩, rfl, rfl⟩
  | cons clause rest ih =>
    obtain ⟨head, body, parts, shape⟩ := of_expandClauses_cons h
    obtain ⟨rfl, some?⟩ := of_clauseParts parts
    rcases shape with ⟨last, rfl, rfl⟩ | ⟨other, alternative, others, rfl⟩
    · rw [isElse_iff] at last
      subst last
      exact ⟨⟨[], some body⟩, ⟨by simp, by simpa using some?⟩, rfl, rfl⟩
    · obtain ⟨c, proper, rfl, rfl⟩ := ih others
      refine ⟨⟨(head, body) :: c.tests, c.otherwise⟩, ⟨?_, proper.otherwise⟩, rfl, rfl⟩
      exact List.forall_mem_cons.mpr ⟨⟨other, some?⟩, proper.tests⟩

/-- Values are clauses exactly if each is a list of a head and a body, and only the head of the
    last one may be `else`. Clauses expand to nested conditionals, folded from the right, whose
    tests and bodies can be read back in order and unchanged. Of values that are no clauses, the
    first offence alone decides the error. -/
theorem expandClauses_total (clauses : List Value) :
    ((∃ tree, expandClauses clauses = .ok tree) ↔
      ∀ before clause after, clauses = before ++ clause :: after →
        ∃ head first body, clause = .list (head :: first :: body) ∧
          (head = .symbol "else" → after = [])) ∧
    (∀ tree, expandClauses clauses = .ok tree →
      ∃ c : Cases, c.Proper ∧ clauses = c.written ∧ tree = c.tree ∧ Cases.ofTree tree = c) ∧
    ∀ e, expandClauses clauses = .error e ↔
      ∃ before clause after, clauses = before ++ clause :: after ∧
        (∀ c ∈ before, offence? false c = none) ∧ offence? after.isEmpty clause = some e := by
  refine ⟨?_, ?_, fun e => expandClauses_eq_error_iff⟩
  · simp only [expandClauses_eq_ok_iff, offence?_eq_none_iff, isElse_iff, List.isEmpty_iff]
  · intro tree expanded
    obtain ⟨c, proper, written, rfl⟩ := cases_of_expandClauses expanded
    exact ⟨c, proper, written, rfl, c.ofTree_tree⟩

/-- An `else` before the last clause that lacks a body is said to lack it. -/
example : expandClauses [.list [.symbol "else"], .number 1] =
    .error (.fault (.clauseWithoutBody (.list [.symbol "else"]))) := rfl

end MiniScheme.Form
