import Mathlib.Control.Monad.Basic
import MiniScheme.Proofs.Concatenation

/- Texts on which the reader fails, and what may follow them. Whatever was read
   before the failure can be completed: a datum that is missing or faulty by a
   number on a new line, a string by a quote mark, a list by a parenthesis, and
   this at every list and quotation that is open (`datum_completed`). So the part
   of a source before the reported position is a prefix of a source that is read
   (`parse_error_viable`). -/
namespace MiniScheme.Reader

open Grammar

variable {comments : Bool}

/-- The text that is left where the reader stops: after a failure, or after an expression and the
    gap behind it. -/
def unread (comments : Bool) (source : List Char) : List Char :=
  match datum comments maxNesting source with
  | .error failure => failure.rest
  | .ok (_, rest) => skipSpace comments rest

/-! What may replace the text after a place where the reader failed. -/

/-- More text may stand after `read` whatever stood there before: it starts on a new line, unless
    something was read. -/
def Seam (read more : List Char) : Prop := read ≠ [] ∨ more.head? = some '\n'

theorem Seam.append {read more : List Char} (h : Seam read more) (before after : List Char) :
    Seam (before ++ read) (more ++ after) := by
  rcases h with some? | newLine
  · exact .inl (List.append_ne_nil_of_right_ne_nil _ some?)
  · refine .inr ?_
    rw [List.head?_append, newLine]
    rfl

theorem Seam.head {read more rest : List Char} (h : Seam read more) (following : List Char) :
    ∀ c ∈ (read ++ (more ++ following)).head?, c ∈ (read ++ rest).head? ∨ c = '\n' := by
  intro c first
  cases read with
  | cons d read => exact .inl first
  | nil =>
    rcases h with some? | newLine
    · exact absurd rfl some?
    rw [List.nil_append, List.head?_append, newLine] at first
    cases first
    exact .inr rfl

theorem Gap.seam {gap read more rest : List Char} (h : Gap comments gap (read ++ rest))
    (seam : Seam read more) (following : List Char) :
    Gap comments gap (read ++ (more ++ following)) :=
  Gap.refollow h (seam.head following)

theorem Delimited.seam {read more rest : List Char} (h : Delimited (read ++ rest))
    (seam : Seam read more) (following : List Char) : Delimited (read ++ (more ++ following)) := by
  intro c first
  rcases seam.head following c first with old | rfl
  · exact h c old
  · exact .inl (by decide)

/-! Completing what was read. -/

theorem lineFeed_gap (comments : Bool) (following : List Char) : Gap comments ['\n'] following :=
  .space (by decide) .nil

/-- A number on a new line is read after any gap. -/
theorem datum_number {gap rest following : List Char} (isGap : Gap comments gap rest)
    (ends : Delimited following) (levels : Nat) :
    datum comments (levels + 1) (gap ++ ('\n' :: '1' :: following)) =
      .ok (.number 1, following) := by
  have before : Gap comments gap ([] ++ (['\n'] ++ '1' :: following)) :=
    Gap.seam isGap (.inr rfl) ('1' :: following)
  have number : atom? ('1' :: following) = some (.number 1, following) :=
    atom?_number 1 (delimited_iff.mp ends)
  calc datum comments (levels + 1) (gap ++ ('\n' :: '1' :: following))
      = datum comments (levels + 1) ('\n' :: '1' :: following) := datum_gap before levels
    _ = datum comments (levels + 1) ('1' :: following) :=
        datum_gap (lineFeed_gap comments _) levels
    _ = .ok (.number 1, following) := by rw [datum_of_startsAtom (by decide), atom, number]

/-- The characters of a string that were read before a failure can be completed to a string. What
    is left starts with the backslash of an unknown escape, or nothing is left. -/
theorem decode_completed {input rest : List Char} (h : Text.Quoted.decode input = .error rest) :
    (∀ c ∈ rest.head?, c = '\\') ∧ ∃ read more content, input = read ++ rest ∧
      ∀ following, Text.Quoted.decode (read ++ (more ++ following)) = .ok (content, following) := by
  fun_induction Text.Quoted.decode input with
  | case1 =>
    cases h
    exact ⟨by simp, [], ['"'], [], rfl, Text.Quoted.decode_quote⟩
  | case2 => cases h
  | case3 =>
    -- the text ends after a backslash
    cases h
    refine ⟨by simp, ['\\'], ['n', '"'], ['\n'], rfl, fun following => ?_⟩
    show Text.Quoted.decode ('\\' :: 'n' :: '"' :: following) = _
    rw [Text.Quoted.decode_escape rfl, Text.Quoted.decode_quote]
    rfl
  | case4 l after d known _ ih =>
    cases decoded : Text.Quoted.decode after with
    | ok => rw [decoded] at h; cases h
    | error behind =>
      rw [decoded] at h
      cases h
      obtain ⟨backslash, read, more, content, rfl, complete⟩ := ih decoded
      refine ⟨backslash, '\\' :: l :: read, more, d :: content, rfl, fun following => ?_⟩
      rw [List.cons_append, List.cons_append, Text.Quoted.decode_escape known, complete following]
      rfl
  | case5 =>
    cases h
    exact ⟨by simp, [], ['"'], [], rfl, Text.Quoted.decode_quote⟩
  | case6 c after quote backslash ih =>
    cases decoded : Text.Quoted.decode after with
    | ok => rw [decoded] at h; cases h
    | error behind =>
      rw [decoded] at h
      cases h
      obtain ⟨left, read, more, content, rfl, complete⟩ := ih decoded
      refine ⟨left, c :: read, more, c :: content, rfl, fun following => ?_⟩
      rw [List.cons_append, Text.Quoted.decode_plain quote backslash, complete following]
      rfl

/-- An item that can be read is the first one of the list. -/
theorem items_of_datum {levels : Nat} {input rest : List Char} {v : Value}
    (read : datum comments levels input = .ok (v, rest)) (bound : Nat) :
    items (datum comments levels) comments (bound + 1) input =
      (items (datum comments levels) comments bound rest).map fun r => (v :: r.1, r.2) := by
  cases levels with
  | zero => cases read
  | succ nesting =>
    obtain ⟨gap, text, rfl, isGap, derived⟩ := datum_sound comments nesting read
    obtain ⟨c, cs, rfl, starts⟩ := datum_starts derived
    rw [datum_gap isGap] at read
    rw [items_gap isGap]
    rw [List.cons_append] at read ⊢
    rw [items_of_startsDatum starts, read]
    simp only
    cases items (datum comments (nesting + 1)) comments bound rest <;> rfl

/-- What a parser had read when it failed on faulty text can be completed, before every text where
    an atom may end. -/
def Completable (parser : List Char → Result Value) : Prop :=
  ∀ {input rest}, parser input = .error ⟨.malformed, rest⟩ →
    ∃ read more v, input = read ++ rest ∧ Seam read more ∧
      ∀ following, Delimited following → parser (read ++ (more ++ following)) = .ok (v, following)

theorem items_completed {levels : Nat} (each : Completable (datum comments levels)) :
    ∀ {bound input rest},
      items (datum comments levels) comments bound input = .error ⟨.malformed, rest⟩ →
      ∃ read more vs, input = read ++ rest ∧ Seam read more ∧
        ∀ following bound', (read ++ more).length < bound' →
          items (datum comments levels) comments bound' (read ++ (more ++ following)) =
            .ok (vs, following)
  | 0, input, rest, h => by
    cases h
    refine ⟨[], ['\n', ')'], [], rfl, .inr rfl, ?_⟩
    rintro following (_ | bound) short
    · exact absurd short (Nat.not_lt_zero _)
    exact items_closed (lineFeed_gap comments _) _ _
  | bound + 1, input, rest, h => by
    obtain ⟨gap, split, isGap⟩ := gap_of_skipSpace comments input
    rcases (of_items_error h).2 with failed | ⟨v, after, first, failed⟩
    · -- the item that fails is completed, and the list is closed
      obtain ⟨read, more, v, same, seam, complete⟩ := each failed
      rw [same] at split isGap
      refine ⟨gap ++ read, more ++ [')'], [v], by rw [split, List.append_assoc],
        seam.append gap [')'], ?_⟩
      rintro following (_ | _ | bound) short
      · exact absurd short (Nat.not_lt_zero _)
      · simp at short
      have item := complete (')' :: following) (delimited_iff.mpr rfl)
      have closed : items (datum comments levels) comments (bound + 1) (')' :: following) =
          .ok ([], following) := items_closed .nil _ _
      rw [List.append_assoc, List.append_assoc, List.singleton_append,
        items_gap (Gap.seam isGap seam _), items_of_datum item, closed]
      rfl
    · obtain ⟨read, more, vs, rfl, seam, complete⟩ := items_completed each failed
      -- the item that was read takes up text, so the others need one step less
      have shorter := length_lt_of_datum first
      have left := datum_left comments levels (skipSpace comments input)
      rw [first] at left
      obtain ⟨taken, same⟩ := left
      change taken ++ (read ++ rest) = _ at same
      rw [← same] at split isGap first shorter
      obtain ⟨c, taken, rfl⟩ : ∃ c cs, taken = c :: cs := by
        apply List.exists_cons_of_ne_nil
        rintro rfl
        exact absurd shorter (Nat.lt_irrefl _)
      refine ⟨gap ++ (c :: taken ++ read), more, v :: vs, by simp only [split, List.append_assoc],
        .inl (by simp), ?_⟩
      rintro following (_ | bound) short
      · exact absurd short (Nat.not_lt_zero _)
      have item : datum comments levels (c :: taken ++ (read ++ (more ++ following))) =
          .ok (v, read ++ (more ++ following)) :=
        datum_refollow first fun ends => Delimited.seam ends seam following
      have fewer : (read ++ more).length < bound := by
        simp only [List.length_append, List.length_cons] at short ⊢
        omega
      have others := complete following bound fewer
      have start : Gap comments gap (c :: taken ++ (read ++ (more ++ following))) :=
        Gap.of_head_eq isGap rfl
      rw [List.append_assoc, List.append_assoc, items_gap start, items_of_datum item, others]
      rfl

/-- An expression that was begun can be completed within the same levels of nesting. -/
theorem datum_completed (comments : Bool) : ∀ levels, Completable (datum comments levels)
  | 0, _, _, h => by cases h
  | levels + 1, input, rest, h => by
    obtain ⟨gap, split, isGap⟩ := gap_of_skipSpace comments input
    -- nothing was read but a gap
    have missing : rest = skipSpace comments input → ∃ read more v, input = read ++ rest ∧
        Seam read more ∧ ∀ following, Delimited following →
          datum comments (levels + 1) (read ++ (more ++ following)) = .ok (v, following) := by
      rintro rfl
      exact ⟨gap, ['\n', '1'], .number 1, split, .inr rfl,
        fun following ends => datum_number isGap ends levels⟩
    rcases of_datum_error h with ⟨inside, starts, failed⟩ | ⟨inside, starts, failed⟩ |
      ⟨inside, left, starts, same, failed⟩ | same
    · rw [starts] at split isGap
      obtain ⟨read, more, vs, rfl, seam, complete⟩ :=
        items_completed (datum_completed comments levels) failed
      refine ⟨gap ++ '(' :: read, more, .list vs, by rw [split]; simp, .inl (by simp), ?_⟩
      intro following _
      have start : Gap comments gap ('(' :: (read ++ (more ++ following))) :=
        Gap.of_head_eq isGap rfl
      have items := complete following ((read ++ (more ++ following)).length + 1)
        (by simp only [List.length_append]; omega)
      rw [List.append_assoc, List.cons_append, datum_gap start,
        datum_of_list (skipSpace_of_startsDatum (by decide) _ _), items]
      rfl
    · rw [starts] at split isGap
      obtain ⟨read, more, v, rfl, seam, complete⟩ := datum_completed comments levels failed
      refine ⟨gap ++ '\'' :: read, more, .quoted v, by rw [split]; simp, .inl (by simp), ?_⟩
      intro following ends
      have start : Gap comments gap ('\'' :: (read ++ (more ++ following))) :=
        Gap.of_head_eq isGap rfl
      rw [List.append_assoc, List.cons_append, datum_gap start,
        datum_of_quotation (skipSpace_of_startsDatum (by decide) _ _), complete following ends]
      rfl
    · cases same
      rw [starts] at split isGap
      obtain ⟨-, read, more, content, rfl, complete⟩ := decode_completed failed
      refine ⟨gap ++ '"' :: read, more, .string (String.ofList content), by rw [split]; simp,
        .inl (by simp), ?_⟩
      intro following _
      have start : Gap comments gap ('"' :: (read ++ (more ++ following))) :=
        Gap.of_head_eq isGap rfl
      rw [List.append_assoc, List.cons_append, datum_gap start, datum,
        skipSpace_of_startsDatum (by decide)]
      simp only [string, complete following]
    · exact missing (Failure.mk.inj same).2

/-- A failure on faulty text is no failure of nesting. -/
theorem Failure.malformed_of_kind {failure : Failure} {source : List Char}
    (shallow : (failure.toError source).kind ≠ .tooDeeplyNested) :
    failure = ⟨.malformed, failure.rest⟩ := by
  obtain ⟨cause, rest⟩ := failure
  cases cause with
  | nesting => exact absurd rfl shallow
  | malformed => rfl

/-- An error is about the place where the text that is left starts. -/
theorem Failure.toError_atOffset (failure : Failure) (source : List Char) :
    failure.toError source = .atOffset (failure.toError source).kind
      (failure.toError source).message source (offset source failure.rest) := by
  unfold Failure.toError
  cases failure.cause with
  | nesting => rfl
  | malformed =>
    simp only
    split <;> rfl

theorem parse_of_datum {source gap : List Char} {v : Value}
    (read : datum comments maxNesting source = .ok (v, gap)) (isGap : Gap comments gap []) :
    parse comments source = .ok v := by
  have blank : skipSpace comments gap = [] := by
    have skipped := skipSpace_gap isGap
    rwa [List.append_nil] at skipped
  rw [parse, read]
  simp only [blank]

/-- What was read of a source on which the reader fails can be completed. -/
theorem parse_completed {source : List Char} {failure : Failure}
    (failed : datum comments maxNesting source = .error failure)
    (shallow : (failure.toError source).kind ≠ .tooDeeplyNested) :
    ∃ read, source = read ++ failure.rest ∧ ∃ more v, parse comments (read ++ more) = .ok v := by
  rw [Failure.malformed_of_kind shallow] at failed
  obtain ⟨read, more, v, split, -, complete⟩ := datum_completed comments maxNesting failed
  have whole := complete [] (delimited_iff.mpr rfl)
  rw [List.append_nil] at whole
  exact ⟨read, split, more, v, parse_of_datum whole .nil⟩

/-- At every error but one of nesting, the reader has read a part of a source that can be read. An
    error is reported at the byte position where the unread text starts, and the text before it is
    a prefix of some source that is an expression. -/
theorem parse_error_viable (comments : Bool) {source : List Char} {e : ParseError}
    (failed : parse comments source = .error e) (shallow : e.kind ≠ .tooDeeplyNested) :
    ∃ read, source = read ++ unread comments source ∧
      Text.byteLength read = offset source (unread comments source) ∧
      e = .atOffset e.kind e.message source (Text.byteLength read) ∧
      ∃ more v, parse comments (read ++ more) = .ok v := by
  -- the position follows from what was read
  suffices parts : ∃ read, source = read ++ unread comments source ∧
      e = .atOffset e.kind e.message source (offset source (unread comments source)) ∧
      ∃ more v, parse comments (read ++ more) = .ok v by
    obtain ⟨read, split, place, completed⟩ := parts
    have position : Text.byteLength read = offset source (unread comments source) := by
      unfold offset
      conv => rhs; arg 1; rw [split]
      rw [byteLength_append]
      omega
    rw [← position] at place
    exact ⟨read, split, position, place, completed⟩
  unfold parse at failed
  unfold unread
  cases first : datum comments maxNesting source with
  | error failure =>
    rw [first] at failed
    cases failed
    obtain ⟨read, split, completed⟩ := parse_completed first shallow
    exact ⟨read, split, failure.toError_atOffset source, completed⟩
  | ok result =>
    obtain ⟨v, rest⟩ := result
    rw [first] at failed
    simp only at failed
    split at failed
    · cases failed
    cases failed
    -- the expression was read, so the text before the trailing content is read without it
    have left := datum_left comments maxNesting source
    rw [first] at left
    obtain ⟨read, rfl⟩ := left
    obtain ⟨gap, split, isGap⟩ := gap_of_skipSpace comments rest
    have closes : Gap comments gap [] := Gap.refollow isGap (by simp)
    have again : datum comments maxNesting (read ++ gap) = .ok (v, gap) := by
      apply datum_refollow first
      intro ends
      rw [split] at ends
      cases gap with
      | nil => exact delimited_iff.mpr rfl
      | cons => exact ends
    refine ⟨read ++ gap, ?_, rfl, [], v, ?_⟩
    · rw [List.append_assoc]
      exact congrArg (read ++ ·) split
    · rw [List.append_nil]
      exact parse_of_datum again closes

/-- An unknown escape in a quoted string, with a comment and an open list before it. -/
theorem parse_error_viable_escape :
    parse true "(a ; b\n '\"x\\q\" 2)".toList = .error
        (.atOffset .invalidSyntax "Invalid syntax near '\\q\" 2)' at position 11"
          "(a ; b\n '\"x\\q\" 2)".toList 11) ∧
      unread true "(a ; b\n '\"x\\q\" 2)".toList = "\\q\" 2)".toList ∧
      ∃ more v, parse true ("(a ; b\n '\"x".toList ++ more) = .ok v := by
  have shown : (parse true "(a ; b\n '\"x\\q\" 2)".toList).map (fun _ => ()) = .error
      (.atOffset .invalidSyntax "Invalid syntax near '\\q\" 2)' at position 11"
        "(a ; b\n '\"x\\q\" 2)".toList 11) := by decide +kernel
  have failed : parse true "(a ; b\n '\"x\\q\" 2)".toList = .error
      (.atOffset .invalidSyntax "Invalid syntax near '\\q\" 2)' at position 11"
        "(a ; b\n '\"x\\q\" 2)".toList 11) := by
    cases ended : parse true "(a ; b\n '\"x\\q\" 2)".toList with
    | ok v => rw [ended] at shown; cases shown
    | error e => rw [ended] at shown; cases shown; rfl
  have left : unread true "(a ; b\n '\"x\\q\" 2)".toList = "\\q\" 2)".toList := by
    decide +kernel
  obtain ⟨read, split, -, -, completed⟩ := parse_error_viable true failed (by decide)
  rw [left] at split
  obtain rfl : read = "(a ; b\n '\"x".toList := List.append_cancel_right split.symm
  exact ⟨failed, left, completed⟩

end MiniScheme.Reader
