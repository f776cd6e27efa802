import MiniScheme.Proofs.Recognition
import MiniScheme.Reader.Stream

/- Reading a text expression by expression, and reading it as one expression.
   `Yields` are the items that a stream gives one after the other until it gives
   none; every text is drained (`yields_drain`), because each expression takes a
   character at least, and what comes out is a run of expressions that a failure
   may end (`Yields.shape`). Both ways of reading skip before they read, and what
   is skipped twice is skipped once (`datum_skipSpace`), so they read the same
   first expression. Main statement: the items of a text tell what reading it as
   one expression gives (`parse_of_readAll`). -/
namespace MiniScheme.Reader

/-- Nothing is left to skip before what is read. -/
theorem datum_skipSpace (comments : Bool) (levels : Nat) (input : List Char) :
    datum comments (levels + 1) (skipSpace comments input) = datum comments (levels + 1) input := by
  obtain ⟨gap, split, isGap⟩ := gap_of_skipSpace comments input
  calc datum comments (levels + 1) (skipSpace comments input)
      = datum comments (levels + 1) (gap ++ skipSpace comments input) := (datum_gap isGap _).symm
    _ = datum comments (levels + 1) input := by rw [← split]

/-- Where everything is skipped, there is no expression. -/
theorem datum_of_blank {comments : Bool} {input : List Char} (blank : skipSpace comments input = [])
    (levels : Nat) : datum comments (levels + 1) input = .error ⟨.malformed, []⟩ := by
  rw [datum, blank]

/-- An expression takes up a character at least. -/
theorem length_lt_of_datum {comments : Bool} {levels : Nat} {input rest : List Char} {v : Value}
    (h : datum comments levels input = .ok (v, rest)) : rest.length < input.length := by
  cases levels with
  | zero => cases h
  | succ nesting =>
    obtain ⟨gap, text, rfl, -, derived⟩ := datum_sound comments nesting h
    obtain ⟨c, cs, rfl, -⟩ := datum_starts derived
    simp only [List.length_append, List.length_cons]
    omega

namespace Stream

/-- The stream gives the items one after the other, and then none. -/
inductive Yields : Stream → List (Except Failure Value) → Prop
  | done {s : Stream} (h : s.next? = none) : Yields s []
  | more {s after : Stream} {item : Except Failure Value} {items : List (Except Failure Value)}
      (h : s.next? = some (item, after)) (rest : Yields after items) : Yields s (item :: items)

/-- A stream gives its items in one way. -/
theorem Yields.unique {s : Stream} {items others : List (Except Failure Value)}
    (h : s.Yields items) (h' : s.Yields others) : items = others := by
  induction h generalizing others with
  | done last =>
    cases h' with
    | done => rfl
    | more next => rw [last] at next; cases next
  | more next _ ih =>
    cases h' with
    | done last => rw [next] at last; cases last
    | more next' rest' =>
      rw [next] at next'
      cases next'
      rw [ih rest']

theorem next?_of_failed {s : Stream} (h : s.failed = true) : s.next? = none := by
  rw [next?, if_pos h]

theorem next?_of_blank {s : Stream} (h : skipSpace true s.rest = []) : s.next? = none := by
  unfold next?
  split
  · rfl
  · rw [h]

/-- A stream that has not failed and is not at its end gives what is read next. -/
theorem next?_of_ready {s : Stream} (ready : s.failed = false) (some? : skipSpace true s.rest ≠ []) :
    s.next? =
      match datum true maxNesting s.rest with
      | .ok (v, rest) => some (.ok v, { s with rest := rest })
      | .error failure => some (.error failure, { s with failed := true }) := by
  have same : datum true maxNesting (skipSpace true s.rest) = datum true maxNesting s.rest :=
    datum_skipSpace true 63 s.rest
  rw [← same, next?, if_neg (by simp [ready])]
  split
  · next none => exact absurd none some?
  · rfl

theorem next?_of_read {s : Stream} {v : Value} {rest : List Char} (ready : s.failed = false)
    (read : datum true maxNesting s.rest = .ok (v, rest)) :
    s.next? = some (.ok v, { s with rest := rest }) := by
  have some? : skipSpace true s.rest ≠ [] := by
    intro blank
    have failed : datum true maxNesting s.rest = _ := datum_of_blank blank 63
    cases failed.symm.trans read
  rw [next?_of_ready ready some?, read]

theorem next?_of_failure {s : Stream} {failure : Failure} (ready : s.failed = false)
    (some? : skipSpace true s.rest ≠ []) (failed : datum true maxNesting s.rest = .error failure) :
    s.next? = some (.error failure, { s with failed := true }) := by
  rw [next?_of_ready ready some?, failed]

/-- A stream that has not failed is at its end, or gives the expression or the failure that is
    read next. -/
theorem next?_cases (s : Stream) (ready : s.failed = false) :
    (skipSpace true s.rest = [] ∧ s.next? = none) ∨
    (∃ v rest, datum true maxNesting s.rest = .ok (v, rest) ∧
      s.next? = some (.ok v, { s with rest := rest })) ∨
    (∃ failure, skipSpace true s.rest ≠ [] ∧ datum true maxNesting s.rest = .error failure ∧
      s.next? = some (.error failure, { s with failed := true })) := by
  by_cases blank : skipSpace true s.rest = []
  · exact .inl ⟨blank, next?_of_blank blank⟩
  cases ended : datum true maxNesting s.rest with
  | ok result => exact .inr (.inl ⟨result.1, result.2, rfl, next?_of_read ready ended⟩)
  | error failure => exact .inr (.inr ⟨failure, blank, rfl, next?_of_failure ready blank ended⟩)

/-- Where a stream ends without a failure, the rest is skipped. -/
theorem of_next?_none {s : Stream} (ready : s.failed = false) (h : s.next? = none) :
    skipSpace true s.rest = [] := by
  rcases s.next?_cases ready with ⟨blank, -⟩ | ⟨_, _, -, next⟩ | ⟨_, -, -, next⟩
  · exact blank
  · cases h.symm.trans next
  · cases h.symm.trans next

theorem ready_of_next? {s after : Stream} {item : Except Failure Value}
    (h : s.next? = some (item, after)) : s.failed = false := by
  by_cases failed : s.failed = true
  · rw [next?_of_failed failed] at h
    cases h
  · exact Bool.eq_false_iff.mpr failed

/-- An expression that a stream gives is read from the rest. -/
theorem of_next?_ok {s after : Stream} {v : Value} (h : s.next? = some (.ok v, after)) :
    ∃ rest, datum true maxNesting s.rest = .ok (v, rest) ∧ after = { s with rest := rest } := by
  rcases s.next?_cases (ready_of_next? h) with ⟨-, next⟩ | ⟨w, rest, read, next⟩ | ⟨_, -, -, next⟩
  · cases h.symm.trans next
  · cases h.symm.trans next
    exact ⟨rest, read, rfl⟩
  · cases h.symm.trans next

/-- A failure that a stream gives is one of reading the rest, and the last item. -/
theorem of_next?_error {s after : Stream} {failure : Failure}
    (h : s.next? = some (.error failure, after)) :
    skipSpace true s.rest ≠ [] ∧ datum true maxNesting s.rest = .error failure ∧
      after = { s with failed := true } := by
  rcases s.next?_cases (ready_of_next? h) with ⟨-, next⟩ | ⟨_, _, -, next⟩ | ⟨_, some?, failed, next⟩
  · cases h.symm.trans next
  · cases h.symm.trans next
  · cases h.symm.trans next
    exact ⟨some?, failed, rfl⟩

/-- After a failure a stream gives nothing. -/
theorem yields_of_failed {s : Stream} (h : s.failed = true) : s.Yields [] :=
  .done (next?_of_failed h)

/-- A stream that gives nothing, and has not failed, has nothing left but what is skipped. -/
theorem Yields.blank {s : Stream} (h : s.Yields []) (ready : s.failed = false) :
    skipSpace true s.rest = [] := by
  cases h with
  | done last => exact of_next?_none ready last

/-- A stream is drained by as many steps as its text has characters, and one. -/
theorem yields_take : ∀ (bound : Nat) (s : Stream), s.rest.length < bound → s.Yields (s.take bound)
  | 0, _, short => absurd short (Nat.not_lt_zero _)
  | bound + 1, s, short => by
    unfold take
    by_cases failed : s.failed = true
    · rw [next?_of_failed failed]
      exact yields_of_failed failed
    rcases s.next?_cases (Bool.eq_false_iff.mpr failed) with
      ⟨-, last⟩ | ⟨v, rest, read, next⟩ | ⟨failure, -, -, next⟩
    · rw [last]
      exact .done last
    · have shorter := length_lt_of_datum read
      rw [next]
      exact .more next (yields_take bound _ (by simp only; omega))
    · -- nothing comes after the failure
      rw [next]
      refine .more next ?_
      cases bound with
      | zero => exact yields_of_failed rfl
      | succ bound =>
        rw [take, next?_of_failed rfl]
        exact yields_of_failed rfl

/-- Draining a stream gives all its items. -/
theorem yields_drain (s : Stream) : s.Yields s.drain :=
  yields_take _ s (Nat.lt_succ_self _)

/-- The items are a run of expressions, which a failure may end. -/
theorem Yields.shape {s : Stream} {items : List (Except Failure Value)} (h : s.Yields items) :
    ∃ (vs : List Value) (stop : Option Failure),
      items = vs.map Except.ok ++ stop.toList.map Except.error := by
  induction h with
  | done => exact ⟨[], none, rfl⟩
  | @more s after item items next rest ih =>
    cases item with
    | ok v =>
      obtain ⟨vs, stop, rfl⟩ := ih
      exact ⟨v :: vs, stop, rfl⟩
    | error failure =>
      obtain ⟨-, -, rfl⟩ := of_next?_error next
      obtain rfl := rest.unique (yields_of_failed rfl)
      exact ⟨[], some failure, rfl⟩

end Stream

/-- The items of a text are those of its stream, with the failure told as an error. -/
theorem readAll_eq (text : String) :
    readAll text =
      (Stream.ofText text).drain.map (Except.mapError fun failure => failure.toError text.toList) := by
  unfold readAll
  congr 1
  funext item
  cases item <;> rfl

/-- The items of a text are a run of expressions, which an error may end. -/
theorem readAll_shape (text : String) :
    ∃ (vs : List Value) (stop : Option ParseError),
      readAll text = vs.map Except.ok ++ stop.toList.map Except.error := by
  obtain ⟨vs, stop, drained⟩ := (Stream.ofText text).yields_drain.shape
  refine ⟨vs, stop.map fun failure => failure.toError text.toList, ?_⟩
  rw [readAll_eq, drained, List.map_append, List.map_map]
  cases stop <;> rfl

/-- Collecting the expressions of a run stops at the error that ends it. -/
theorem mapM_run (vs : List Value) (stop : Option ParseError) :
    (vs.map Except.ok ++ stop.toList.map Except.error).mapM id =
      match stop with
      | none => Except.ok vs
      | some e => Except.error e := by
  induction vs with
  | nil => cases stop <;> rfl
  | cons v vs ih =>
    rw [List.map_cons, List.cons_append, List.mapM_cons, ih]
    cases stop <;> rfl

section
variable {text : String}

theorem readAll_of_yields {items : List (Except Failure Value)}
    (h : (Stream.ofText text).Yields items) :
    readAll text = items.map (Except.mapError fun failure => failure.toError text.toList) := by
  rw [readAll_eq, (Stream.yields_drain _).unique h]

/-- A text in which everything is skipped has no items, and as one expression it is incomplete. -/
theorem parse_of_blank (blank : skipSpace true text.toList = []) :
    readAll text = [] ∧ ∃ e, parse true text.toList = .error e ∧ e.kind = .incomplete := by
  refine ⟨readAll_of_yields (.done (Stream.next?_of_blank blank)), ?_⟩
  have failed : datum true maxNesting text.toList = _ := datum_of_blank blank 63
  rw [parse, failed]
  exact ⟨_, rfl, rfl⟩

/-- A text whose first expression cannot be read has that error as its one item. -/
theorem parse_of_failure {failure : Failure} (some? : skipSpace true text.toList ≠ [])
    (failed : datum true maxNesting text.toList = .error failure) :
    readAll text = [.error (failure.toError text.toList)] ∧
      parse true text.toList = .error (failure.toError text.toList) := by
  refine ⟨?_, by rw [parse, failed]⟩
  have next := @Stream.next?_of_failure (Stream.ofText text) failure rfl some? failed
  exact readAll_of_yields (.more next (Stream.yields_of_failed rfl))

/-- A text whose first expression can be read has it as its first item. As one expression the text
    gives it if there are no other items, and goes on after it if there are. -/
theorem parse_of_read {v : Value} {rest : List Char}
    (read : datum true maxNesting text.toList = .ok (v, rest)) :
    ∃ others, readAll text = .ok v :: others ∧ (others = [] → parse true text.toList = .ok v) ∧
      (others ≠ [] → ∃ e, parse true text.toList = .error e ∧ e.kind = .trailingContent) := by
  have next : (Stream.ofText text).next? = some (.ok v, ⟨text.toList, rest, false⟩) :=
    Stream.next?_of_read rfl read
  refine ⟨_, readAll_of_yields (.more next (Stream.yields_drain _)), ?_, ?_⟩
  · intro last
    have drained : (⟨text.toList, rest, false⟩ : Stream).Yields [] := by
      rw [← List.map_eq_nil_iff.mp last]
      exact Stream.yields_drain _
    have blank : skipSpace true rest = [] := drained.blank rfl
    rw [parse, read]
    simp only [blank]
  · intro others
    have left : skipSpace true rest ≠ [] := by
      intro blank
      apply others
      rw [(Stream.yields_drain _).unique (.done (Stream.next?_of_blank blank))]
      rfl
    obtain ⟨c, cs, more⟩ := List.exists_cons_of_ne_nil left
    rw [parse, read]
    simp only [more]
    exact ⟨_, rfl, rfl⟩

end

/-- What the items of a text tell about reading it as one expression. The items are all that the
    stream of the text gives. A text without items is incomplete, a single item is the result, and
    after an expression and another item there is text left over. The items are a run of
    expressions that an error may end, and reading all expressions gives the run or the error. -/
theorem parse_of_readAll (text : String) :
    (Stream.ofText text).Yields (Stream.ofText text).drain ∧
    (readAll text = [] → ∃ e, parse true text.toList = .error e ∧ e.kind = .incomplete) ∧
    (∀ item, readAll text = [item] → parse true text.toList = item) ∧
    (∀ v item rest, readAll text = .ok v :: item :: rest →
      ∃ e, parse true text.toList = .error e ∧ e.kind = .trailingContent) ∧
    ∃ (vs : List Value) (stop : Option ParseError),
      readAll text = vs.map Except.ok ++ stop.toList.map Except.error ∧
      parseAll text = match stop with
        | none => .ok vs
        | some e => .error e := by
  obtain ⟨vs, stop, shape⟩ := readAll_shape text
  have collected := mapM_run vs stop
  rw [← shape] at collected
  suffices told : (readAll text = [] →
        ∃ e, parse true text.toList = .error e ∧ e.kind = .incomplete) ∧
      (∀ item, readAll text = [item] → parse true text.toList = item) ∧
      (∀ v item rest, readAll text = .ok v :: item :: rest →
        ∃ e, parse true text.toList = .error e ∧ e.kind = .trailingContent) from
    ⟨Stream.yields_drain _, told.1, told.2.1, told.2.2, vs, stop, shape, collected⟩
  by_cases blank : skipSpace true text.toList = []
  · obtain ⟨none, incomplete⟩ := parse_of_blank blank
    rw [none]
    exact ⟨fun _ => incomplete, fun _ one => (nomatch one), fun _ _ _ more => (nomatch more)⟩
  cases ended : datum true maxNesting text.toList with
  | error failure =>
    obtain ⟨one, failed⟩ := parse_of_failure blank ended
    rw [one, failed]
    refine ⟨fun none => (nomatch none), fun item same => ?_, fun _ _ _ more => (nomatch more)⟩
    cases same
    rfl
  | ok result =>
    obtain ⟨v, rest⟩ := result
    obtain ⟨others, items, alone, followed⟩ := parse_of_read ended
    rw [items]
    refine ⟨fun none => (nomatch none), fun item one => ?_, fun v item rest more => ?_⟩
    · cases one
      exact alone rfl
    · cases more
      exact followed (List.cons_ne_nil _ _)

/-- Nothing but a comment, one expression, one that does not end, and one that is followed by a
    faulty one. -/
theorem parse_of_readAll_texts :
    (readAll " ; none" = [] ∧
      ∃ e, parse true " ; none".toList = .error e ∧ e.kind = .incomplete) ∧
    (readAll "\n'(a ; b\n)" = [.ok (.quoted (.list [.symbol "a"]))] ∧
      parse true "\n'(a ; b\n)".toList = .ok (.quoted (.list [.symbol "a"]))) ∧
    (∃ e, readAll "(1 \"" = [.error e] ∧ parse true "(1 \"".toList = .error e) ∧
    (∃ e, readAll "1 )" = [.ok (.number 1), .error e] ∧
      ∃ e, parse true "1 )".toList = .error e ∧ e.kind = .trailingContent) := by
  have none : (Stream.ofText " ; none").drain = [] := rfl
  have one : (Stream.ofText "\n'(a ; b\n)").drain = [.ok (.quoted (.list [.symbol "a"]))] := rfl
  have unfinished : (Stream.ofText "(1 \"").drain = [.error ⟨.malformed, []⟩] := rfl
  have faulty : (Stream.ofText "1 )").drain = [.ok (.number 1), .error ⟨.malformed, [')']⟩] := rfl
  obtain ⟨-, incomplete, -, -, -⟩ := parse_of_readAll " ; none"
  obtain ⟨-, -, single, -, -⟩ := parse_of_readAll "\n'(a ; b\n)"
  obtain ⟨-, -, refused, -, -⟩ := parse_of_readAll "(1 \""
  obtain ⟨-, -, -, trailing, -⟩ := parse_of_readAll "1 )"
  rw [readAll_eq, none] at incomplete ⊢
  rw [readAll_eq, one] at single ⊢
  rw [readAll_eq, unfinished] at refused ⊢
  rw [readAll_eq, faulty] at trailing ⊢
  exact ⟨⟨rfl, incomplete rfl⟩, ⟨rfl, single _ rfl⟩, ⟨_, rfl, refused _ rfl⟩, _, rfl,
    trailing _ _ _ rfl⟩

end MiniScheme.Reader
