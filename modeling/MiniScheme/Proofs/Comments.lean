import MiniScheme.Proofs.OwnText

/- Allowing comments. A reader that allows comments and one that does not skip the
   same spaces, and part only where a semicolon comes next
   (`skipSpace_true`). There the reader without comments fails, since nothing
   starts with a semicolon, so wherever it does not fail before one the two agree:
   `Extends r r'` says so of two readings, and it passes from the items of a list
   to the list and from one level to the next (`items_extends`,
   `datum_extends`). Main statement: what is read without comments is read in the
   same way with them, and in a source without semicolons nothing changes at all,
   errors included (`parse_comments`). -/
namespace MiniScheme.Reader

/-- The text starts with a semicolon, where a comment could start. -/
def atComment (text : List Char) : Prop := text.head? = some ';'

/-- The second reading is the first one, unless that failed before a semicolon. -/
def Extends {α : Type} (result result' : Result α) : Prop :=
  (∀ failure, result = .error failure → ¬ atComment failure.rest) → result' = result

namespace Extends

variable {α β : Type} {result result' : Result α}

theorem of_failure {failure : Failure} (h : atComment failure.rest) :
    Extends (.error failure) result' :=
  fun elsewhere => absurd h (elsewhere failure rfl)

theorem refl (result : Result α) : Extends result result := fun _ => rfl

theorem bind (h : Extends result result') {f g : α × List Char → Result β}
    (next : ∀ given, Extends (f given) (g given)) : Extends (result.bind f) (result'.bind g) := by
  intro elsewhere
  cases result with
  | error failure =>
    rw [h fun other failed => elsewhere other (by cases failed; rfl)]
    rfl
  | ok given =>
    rw [h fun other failed => by cases failed]
    exact next given elsewhere

theorem map (h : Extends result result') (f : α × List Char → β × List Char) :
    Extends (result.map f) (result'.map f) := by
  intro elsewhere
  rw [h]
  intro failure failed
  apply elsewhere
  rw [failed]
  rfl

end Extends

/-- Unless a semicolon is next, the same is skipped whether comments are allowed or not. -/
theorem skipSpace_true {input : List Char} (h : ¬ atComment (skipSpace false input)) :
    skipSpace true input = skipSpace false input := by
  unfold skipSpace at h ⊢
  induction input with
  | nil => rfl
  | cons c rest ih =>
    rw [skip, if_neg Bool.false_ne_true] at h
    rw [skip, skip, if_neg Bool.false_ne_true, if_neg Bool.false_ne_true]
    by_cases space : isSpace c = true
    · rw [if_pos space] at h
      rw [if_pos space, if_pos space]
      exact ih h
    · rw [if_neg space, Bool.false_and, if_neg Bool.false_ne_true] at h
      have other : (c == ';') = false := by
        apply beq_false_of_ne
        rintro rfl
        exact h rfl
      rw [if_neg space, if_neg space, other]
      rfl

/-- Nothing starts with a semicolon. -/
theorem datum_of_semicolon {input rest : List Char} (starts : skipSpace false input = ';' :: rest)
    (levels : Nat) : datum false (levels + 1) input = .error ⟨.malformed, ';' :: rest⟩ :=
  datum_of_no_start (by decide) (by decide) (by decide) (by decide) starts levels

theorem items_extends {item item' : List Char → Result Value}
    (each : ∀ input, Extends (item input) (item' input))
    (stops : ∀ rest, ∃ cause, item (';' :: rest) = .error ⟨cause, ';' :: rest⟩) :
    ∀ bound input, Extends (items item false bound input) (items item' true bound input)
  | 0, _ => .refl _
  | bound + 1, input => by
    by_cases closed : ∃ rest, skipSpace false input = ')' :: rest
    · obtain ⟨rest, closed⟩ := closed
      have same : skipSpace true input = skipSpace false input := by
        apply skipSpace_true
        rw [closed]
        exact fun no => by cases no
      rw [items_of_closed closed, items_of_closed (same.trans closed)]
      exact .refl _
    rw [not_exists] at closed
    rw [items_of_open closed]
    by_cases semicolon : atComment (skipSpace false input)
    · obtain ⟨rest, starts⟩ := List.head?_eq_some_iff.mp semicolon
      obtain ⟨cause, failed⟩ := stops rest
      rw [starts, failed]
      exact .of_failure rfl
    · have same := skipSpace_true semicolon
      rw [← same] at closed ⊢
      rw [items_of_open closed]
      exact (each _).bind fun first => (items_extends each stops bound first.2).map _

/-- Allowing comments changes nothing unless the reader fails before a semicolon without them. -/
theorem datum_extends : ∀ levels input,
    Extends (datum false levels input) (datum true levels input)
  | 0, _ => .refl _
  | levels + 1, input => by
    by_cases semicolon : atComment (skipSpace false input)
    · obtain ⟨rest, starts⟩ := List.head?_eq_some_iff.mp semicolon
      rw [datum_of_semicolon starts]
      exact .of_failure rfl
    have same := skipSpace_true semicolon
    by_cases list : ∃ rest, skipSpace false input = '(' :: rest
    · obtain ⟨rest, starts⟩ := list
      rw [datum_of_list starts, datum_of_list (same.trans starts)]
      refine (items_extends (datum_extends levels) (fun after => ?_) _ rest).map _
      cases levels with
      | zero => exact ⟨.nesting, rfl⟩
      | succ levels => exact ⟨.malformed, datum_of_semicolon rfl levels⟩
    by_cases quotation : ∃ rest, skipSpace false input = '\'' :: rest
    · obtain ⟨rest, starts⟩ := quotation
      rw [datum_of_quotation starts, datum_of_quotation (same.trans starts)]
      exact (datum_extends levels rest).map _
    rw [datum_of_flat same (not_exists.mp list) (not_exists.mp quotation) levels levels]
    exact .refl _

/-- What is read without comments is read in the same way with comments allowed, and for a source
    without semicolons allowing comments changes neither values nor errors. -/
theorem parse_comments (source : List Char) :
    (∀ v, parse false source = .ok v → parse true source = .ok v) ∧
      (';' ∉ source → parse true source = parse false source) := by
  constructor
  · intro v read
    unfold parse at read
    split at read
    · cases read
    next w rest first =>
    split at read
    · next done =>
      cases read
      have again : datum true maxNesting source = .ok (v, rest) := by
        rw [datum_extends maxNesting source, first]
        rw [first]
        exact fun _ no => by cases no
      have ended : skipSpace true rest = [] := by
        rw [skipSpace_true, done]
        rw [done]
        exact fun no => by cases no
      simp only [parse, again, ended]
    · cases read
  · intro none
    have elsewhere : ∀ text, text <:+ source → ¬ atComment text := by
      intro text suffix starts
      exact none (suffix.subset (List.mem_of_head? starts))
    have left := datum_left false maxNesting source
    have again : datum true maxNesting source = datum false maxNesting source := by
      apply datum_extends
      intro failure failed
      rw [failed] at left
      exact elsewhere _ left
    rw [parse, parse, again]
    cases first : datum false maxNesting source with
    | error failure => rfl
    | ok given =>
      rw [first] at left
      have skipped := (skipSpace_suffix false given.2).trans left
      simp only [skipSpace_true (elsewhere _ skipped)]

/-- Semicolons in a string and in the quotation of one are read with and without comments. Without
    a semicolon the error for a text that goes on is the same. -/
theorem parse_comments_string :
    parse false "(f '\";\" \"a;\\\"\")".toList = .ok (.list [.symbol "f", .quoted (.string ";"),
        .string "a;\""]) ∧
      parse true "(f '\";\" \"a;\\\"\")".toList = .ok (.list [.symbol "f", .quoted (.string ";"),
        .string "a;\""]) ∧
      ';' ∉ "a b".toList ∧ parse true "a b".toList = parse false "a b".toList := by
  let v : Value := .list [.symbol "f", .quoted (.string ";"), .string "a;\""]
  have text : "(f '\";\" \"a;\\\"\")".toList = v.printed ++ [] := by decide
  have first := (datum_printed false maxNesting v [] (by decide) rfl).value (by decide)
  have read : parse false "(f '\";\" \"a;\\\"\")".toList = .ok v := by
    rw [parse, text, first]
    rfl
  have none : ';' ∉ "a b".toList := by decide
  exact ⟨read, (parse_comments _).1 _ read, none, (parse_comments _).2 none⟩

end MiniScheme.Reader
