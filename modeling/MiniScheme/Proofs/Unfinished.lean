import MiniScheme.Proofs.Viability

/- What more text can do for a source on which the reader fails. An error of the
   kind `incomplete` says that everything left is blank, and there are blank
   characters that the reader does not skip. Where such a character stands in the
   place of an expression, the reader stops, whatever text is added at the end
   (`items_stuck`, `datum_stuck`). Main statement: the source can be completed
   exactly if the reader has come to its end (`incomplete_continues_iff`). -/
namespace MiniScheme.Reader

open Grammar

variable {comments : Bool}

/-- Where skipping stops, it stops whatever text is added at the end. -/
theorem skip_append {c : Char} {rest : List Char} (more : List Char) {inComment : Bool}
    {input : List Char} (h : skip comments inComment input = c :: rest) :
    skip comments inComment (input ++ more) = c :: (rest ++ more) := by
  induction input generalizing inComment with
  | nil => cases h
  | cons d input ih =>
    rw [List.cons_append, skip]
    rw [skip] at h
    split
    · next inside =>
      rw [if_pos inside] at h
      exact ih h
    next outside =>
    rw [if_neg outside] at h
    split
    · next space =>
      rw [if_pos space] at h
      exact ih h
    next noSpace =>
    rw [if_neg noSpace] at h
    split
    · next starts =>
      rw [if_pos starts] at h
      exact ih h
    · next stops =>
      rw [if_neg stops] at h
      cases h
      rfl

theorem skipSpace_append_of_cons {input rest : List Char} {c : Char}
    (h : skipSpace comments input = c :: rest) (more : List Char) :
    skipSpace comments (input ++ more) = c :: (rest ++ more) :=
  skip_append more h

/-- A blank character starts no atom. -/
theorem not_startsAtom_of_isBlank {c : Char} (blank : Text.isBlank c = true) :
    startsAtom c = false := by
  have hash : c ≠ '#' := by
    rintro rfl
    exact absurd blank (by decide)
  rw [startsAtom, not_isSymbolChar_of_isBlank blank, Bool.false_or]
  exact beq_false_of_ne hash

/-- A parser that stops at a blank character stops there whatever text is added at the end. -/
def Stuck (parser : List Char → Result Value) : Prop :=
  ∀ {input rest c}, parser input = .error ⟨.malformed, c :: rest⟩ → Text.isBlank c = true →
    ∀ more, parser (input ++ more) = .error ⟨.malformed, c :: (rest ++ more)⟩

theorem items_stuck {levels : Nat} (each : Stuck (datum comments levels)) :
    ∀ {bound input rest c}, input.length < bound →
      items (datum comments levels) comments bound input = .error ⟨.malformed, c :: rest⟩ →
      Text.isBlank c = true → ∀ more bound', (input ++ more).length < bound' →
      items (datum comments levels) comments bound' (input ++ more) =
        .error ⟨.malformed, c :: (rest ++ more)⟩
  | bound + 1, input, rest, c, long, h, blank, more, bound' + 1, long' => by
    obtain ⟨gap, split, isGap⟩ := gap_of_skipSpace comments input
    -- the character at which the reader stops comes after the gap
    have behind : left (items (datum comments levels) comments (bound + 1)
        (skipSpace comments input)) <:+ skipSpace comments input :=
      items_left (datum_left comments levels) _ _
    rw [← items_gap isGap, ← split, h] at behind
    cases same : skipSpace comments input with
    | nil =>
      rw [same] at behind
      cases List.suffix_nil.mp behind
    | cons d ds =>
      have shorter : (d :: ds).length ≤ input.length := by
        rw [← same]
        exact (skipSpace_suffix comments input).length_le
      obtain ⟨stays, cause⟩ := of_items_error h
      rw [same] at stays cause
      have opened : ∀ after, skipSpace comments (input ++ more) ≠ ')' :: after := by
        rw [skipSpace_append_of_cons same]
        intro after closed
        cases closed
        exact stays ds rfl
      rw [items_of_open opened, skipSpace_append_of_cons same, ← List.cons_append]
      rcases cause with failed | ⟨v, after, first, failed⟩
      · rw [each failed blank more]
        rfl
      · have fewer := length_lt_of_datum first
        have behind : left (items (datum comments levels) comments bound after) <:+ after :=
          items_left (datum_left comments levels) bound after
        rw [failed] at behind
        have taken := datum_left comments levels (d :: ds)
        rw [first] at taken
        obtain ⟨read, text⟩ := taken
        change read ++ after = d :: ds at text
        have again : datum comments levels (read ++ (after ++ more)) = .ok (v, after ++ more) := by
          rw [← text] at first
          apply datum_refollow first
          intro ends
          cases after with
          | nil => cases List.suffix_nil.mp behind
          | cons => exact ends
        have others := items_stuck each (by omega) failed blank more bound'
          (by simp only [List.length_append] at long' ⊢; omega)
        rw [← text, List.append_assoc, again]
        simp only [Except.bind, others]
        rfl

/-- Where an expression is missing and a blank character stands that the reader does not skip, no
    text at the end helps. -/
theorem datum_stuck (comments : Bool) : ∀ levels, Stuck (datum comments levels)
  | 0, _, _, _, h, _, _ => by cases h
  | levels + 1, input, rest, c, h, blank, more => by
    rcases of_datum_error h with ⟨inside, starts, failed⟩ | ⟨inside, starts, failed⟩ |
      ⟨inside, left, -, same, failed⟩ | same
    · have stuck := items_stuck (datum_stuck comments levels) (Nat.lt_succ_self _) failed blank
        more ((inside ++ more).length + 1) (Nat.lt_succ_self _)
      rw [datum_of_list (skipSpace_append_of_cons starts more), stuck]
      rfl
    · have stuck := datum_stuck comments levels failed blank more
      rw [datum_of_quotation (skipSpace_append_of_cons starts more), stuck]
      rfl
    · -- a string is given up at a backslash or at the end of the text
      cases same
      obtain rfl := (decode_completed failed).1 c rfl
      exact absurd blank (by decide)
    · have here : skipSpace comments input = c :: rest := (Failure.mk.inj same).2.symm
      have other : ∀ {d : Char}, Text.isBlank d = false → c ≠ d := by
        rintro d mark rfl
        rw [mark] at blank
        cases blank
      exact datum_of_no_start (not_startsAtom_of_isBlank blank) (other (by decide))
        (other (by decide)) (other (by decide)) (skipSpace_append_of_cons here more) levels

/-- An error of the kind `incomplete` leaves nothing but blank characters. -/
theorem of_incomplete {source : List Char} {e : ParseError}
    (failed : parse comments source = .error e) (short : e.kind = .incomplete) :
    datum comments maxNesting source = .error ⟨.malformed, unread comments source⟩ ∧
      (unread comments source).all Text.isBlank = true := by
  unfold parse at failed
  unfold unread
  cases first : datum comments maxNesting source with
  | ok result =>
    obtain ⟨v, rest⟩ := result
    rw [first] at failed
    simp only at failed
    split at failed
    · cases failed
    · cases failed
      cases short
  | error failure =>
    rw [first] at failed
    cases failed
    have shallow : (failure.toError source).kind ≠ .tooDeeplyNested := by
      rw [short]
      decide
    have malformed := Failure.malformed_of_kind shallow
    refine ⟨congrArg Except.error malformed, ?_⟩
    rw [malformed] at short
    unfold Failure.toError at short
    simp only at short
    split at short
    · next blank => exact blank
    · cases short

/-- A source in which an expression is missing where a blank character stands has no continuation
    that can be read. -/
theorem parse_stuck {source rest : List Char} {c : Char}
    (failed : datum comments maxNesting source = .error ⟨.malformed, c :: rest⟩)
    (blank : Text.isBlank c = true) (more : List Char) :
    ∀ v, parse comments (source ++ more) ≠ .ok v := by
  intro v read
  rw [parse, datum_stuck comments maxNesting failed blank more] at read
  cases read

/-- An error of the kind `incomplete` says that more text can complete the source exactly if the
    reader has come to the end of the source. Otherwise it has stopped before a blank character
    that is no space to it. -/
theorem incomplete_continues_iff (comments : Bool) {source : List Char} {e : ParseError}
    (failed : parse comments source = .error e) (short : e.kind = .incomplete) :
    (∃ more v, parse comments (source ++ more) = .ok v) ↔ unread comments source = [] := by
  obtain ⟨stopped, blank⟩ := of_incomplete failed short
  constructor
  · rintro ⟨more, v, read⟩
    cases left : unread comments source with
    | nil => rfl
    | cons c rest =>
      rw [left] at stopped blank
      have first : Text.isBlank c = true := (List.all_eq_true.mp blank) c List.mem_cons_self
      exact absurd read (parse_stuck stopped first more v)
  · intro ended
    rw [ended] at stopped
    obtain ⟨read, split, completed⟩ := parse_completed stopped nofun
    rw [List.append_nil] at split
    rw [split]
    exact completed

/-- A list with an open comment is completed on the next line. One in which a form feed stands
    for the next item is never completed, although nothing else is left. -/
theorem incomplete_continues_iff_lists :
    (parse true "(a ; b".toList =
        .error (.atOffset .incomplete "Unexpected end of input" "(a ; b".toList 6) ∧
      ∃ more v, parse true ("(a ; b".toList ++ more) = .ok v) ∧
    (parse true "(a \x0c".toList =
        .error (.atOffset .incomplete "Unexpected end of input" "(a \x0c".toList 3) ∧
      ¬ ∃ more v, parse true ("(a \x0c".toList ++ more) = .ok v) := by
  have comment : parse true "(a ; b".toList =
      .error (.atOffset .incomplete "Unexpected end of input" "(a ; b".toList 6) := rfl
  have space : parse true "(a \x0c".toList =
      .error (.atOffset .incomplete "Unexpected end of input" "(a \x0c".toList 3) := rfl
  have ended : unread true "(a ; b".toList = [] := rfl
  have left : unread true "(a \x0c".toList ≠ [] := List.cons_ne_nil '\x0c' []
  exact ⟨⟨comment, (incomplete_continues_iff true comment rfl).mpr ended⟩,
    space, fun completed => left ((incomplete_continues_iff true space rfl).mp completed)⟩

/-- A source of one form feed is called incomplete, and nothing completes it. -/
theorem incomplete_without_continuation :
    parse false ['\x0c'] =
        .error (.atOffset .incomplete "Unexpected end of input" ['\x0c'] 0) ∧
      ¬ ∃ more v, parse false (['\x0c'] ++ more) = .ok v := by
  refine ⟨rfl, ?_⟩
  rintro ⟨more, v, read⟩
  have failed : datum false maxNesting ['\x0c'] = .error ⟨.malformed, ['\x0c']⟩ := rfl
  exact parse_stuck failed (by decide) more v read

end MiniScheme.Reader
