import MiniScheme.Proofs.Recognition

/- What reading an expression depends on. A gap depends on the first character of
   the text after it, and an expression on no more than that an atom may end
   before that text (`Datum.refollow`), so what was read stays the same when other
   text follows (`datum_refollow`). What is left after reading, whether it went
   well or not, is the end of what there was to read (`datum_left`). Main statement:
   an expression is read from its own text (`datum_own_text`). -/
namespace MiniScheme.Reader

open Grammar

variable {comments : Bool}

/-- A gap stays one before a text that starts as the old one did, or with a line feed. -/
theorem Gap.refollow {gap following following' : List Char} (h : Gap comments gap following)
    (starts : ∀ c ∈ following'.head?, c ∈ following.head? ∨ c = '\n') :
    Gap comments gap following' := by
  induction h with
  | nil => exact .nil
  | space hc _ ih => exact .space hc (ih starts)
  | @comment body text following allowed oneLine stops _ ih =>
    refine .comment allowed oneLine ?_ (ih starts)
    intro c first
    cases text with
    | nil =>
      rcases starts c first with old | lineFeed
      · exact stops c old
      · exact lineFeed
    | cons d text => exact stops c first

theorem Gap.of_head_eq {gap following following' : List Char} (h : Gap comments gap following)
    (same : following'.head? = following.head?) : Gap comments gap following' := by
  apply Gap.refollow h
  intro c first
  rw [same] at first
  exact .inl first

theorem Delimited.of_head_eq {following following' : List Char} (h : Delimited following)
    (same : following'.head? = following.head?) : Delimited following' := by
  unfold Delimited
  rw [same]
  exact h

theorem head?_append_eq {following following' : List Char}
    (same : following'.head? = following.head?) (text : List Char) :
    (text ++ following').head? = (text ++ following).head? := by
  rw [List.head?_append, List.head?_append, same]

/-- The derivations of one expression do not depend on the text after it, apart from the end of an
    atom. -/
def Refollows (derives : List Char → List Char → Value → Prop) : Prop :=
  ∀ ⦃text following following' v⦄, derives text following v →
    (Delimited following → Delimited following') → derives text following' v

theorem Items.refollow {derives : List Char → List Char → Value → Prop} (each : Refollows derives)
    {text following following' : List Char} {vs : List Value}
    (h : Items comments derives text following vs) (same : following'.head? = following.head?) :
    Items comments derives text following' vs := by
  induction h with
  | nil => exact .nil
  | @cons gap text others following v vs hg first _ ih =>
    have behind := head?_append_eq same others
    refine .cons (Gap.of_head_eq hg (head?_append_eq behind text)) ?_ (ih same)
    exact each first fun ends => Delimited.of_head_eq ends behind

theorem Level.refollow {derives : List Char → List Char → Value → Prop} (each : Refollows derives)
    (starts : ∀ {text rest v}, derives text rest v →
      ∃ c cs, text = c :: cs ∧ startsDatum c = true) :
    Refollows (Level comments derives) := by
  intro text following following' v h ends
  cases h with
  | atom h delimited => exact .atom h (ends delimited)
  | string h => exact .string h
  | @list text gap _ vs h hg =>
    -- the closing parenthesis comes first, whatever follows the list
    have closed : (')' :: following').head? = (')' :: following).head? := rfl
    exact .list (Items.refollow each h (head?_append_eq closed gap)) (Gap.of_head_eq hg closed)
  | @quotation gap text _ v hg h =>
    obtain ⟨c, cs, rfl, -⟩ := starts h
    exact .quotation (Gap.of_head_eq hg rfl) (each h ends)

theorem Datum.refollow (nesting : Nat) : Refollows (Datum comments nesting) := by
  induction nesting with
  | zero => exact Level.refollow (fun _ _ _ _ h => h.elim) (fun h => h.elim)
  | succ nesting ih => exact Level.refollow ih datum_starts

/-- What was read is read again before other text, if an atom may end before that where it may end
    before the old one. -/
theorem datum_refollow {levels : Nat} {read rest rest' : List Char} {v : Value}
    (h : datum comments levels (read ++ rest) = .ok (v, rest))
    (ends : Delimited rest → Delimited rest') :
    datum comments levels (read ++ rest') = .ok (v, rest') := by
  cases levels with
  | zero => cases h
  | succ nesting =>
    obtain ⟨gap, text, split, isGap, derived⟩ := datum_sound comments nesting h
    obtain rfl : read = gap ++ text := by
      rw [← List.append_assoc] at split
      exact List.append_cancel_right split
    obtain ⟨c, cs, rfl, -⟩ := datum_starts derived
    rw [List.append_assoc]
    exact datum_complete comments nesting (Gap.of_head_eq isGap rfl)
      (Datum.refollow nesting derived ends)

/-! What is left after reading. -/

/-- The text that is left, after a result or a failure. -/
def left {α : Type} : Result α → List Char
  | .ok (_, rest) => rest
  | .error failure => failure.rest

theorem skipSpace_suffix (comments : Bool) (input : List Char) :
    skipSpace comments input <:+ input := by
  obtain ⟨gap, split, -⟩ := gap_of_skipSpace comments input
  exact ⟨gap, split.symm⟩

theorem decode_error_suffix {input rest : List Char}
    (h : Text.Quoted.decode input = .error rest) : rest <:+ input := by
  fun_induction Text.Quoted.decode input with
  | case1 => cases h; exact List.suffix_refl _
  | case2 => cases h
  | case3 => cases h; exact List.nil_suffix
  | case4 l after d _ _ ih =>
    cases decoded : Text.Quoted.decode after with
    | ok => rw [decoded] at h; cases h
    | error behind =>
      rw [decoded] at h
      cases h
      exact (ih decoded).trans ⟨['\\', l], rfl⟩
  | case5 => cases h; exact List.suffix_refl _
  | case6 c after _ _ ih =>
    cases decoded : Text.Quoted.decode after with
    | ok => rw [decoded] at h; cases h
    | error behind =>
      rw [decoded] at h
      cases h
      exact (ih decoded).trans (List.suffix_cons c after)

theorem string_left (input : List Char) : left (string input) <:+ input := by
  unfold string
  cases decoded : Text.Quoted.decode input with
  | ok result =>
    obtain ⟨text, rfl, -⟩ := decode_iff.mp decoded
    exact ⟨text ++ ['"'], by simp [left]⟩
  | error rest => exact decode_error_suffix decoded

theorem atom_left (input : List Char) : left (atom input) <:+ input := by
  unfold atom
  cases found : atom? input with
  | none => exact List.suffix_refl _
  | some result =>
    obtain ⟨text, split, -⟩ := atom?_iff.mp found
    exact ⟨text, split.symm⟩

/-- What is read may be put into something else. -/
theorem left_map {α β : Type} (f : α → β) (result : Result α) :
    left (result.map fun given => (f given.1, given.2)) = left result := by
  cases result <;> rfl

theorem items_left {item : List Char → Result Value} (each : ∀ input, left (item input) <:+ input) :
    ∀ bound input, left (items item comments bound input) <:+ input
  | 0, _ => List.suffix_refl _
  | bound + 1, input => by
    have skipped := skipSpace_suffix comments input
    by_cases closed : ∃ rest, skipSpace comments input = ')' :: rest
    · obtain ⟨rest, closed⟩ := closed
      rw [closed] at skipped
      rw [items_of_closed closed]
      exact (List.suffix_cons _ _).trans skipped
    · have first := (each (skipSpace comments input)).trans skipped
      rw [items_of_open (not_exists.mp closed)]
      cases read : item (skipSpace comments input) with
      | error failure =>
        rw [read] at first
        exact first
      | ok given =>
        rw [read] at first
        exact (left_map _ _ ▸ items_left each bound given.2).trans first

/-- What is left after reading an expression, or when reading it fails, is the end of the text. -/
theorem datum_left (comments : Bool) : ∀ levels input, left (datum comments levels input) <:+ input
  | 0, _ => List.suffix_refl _
  | levels + 1, input => by
    have skipped := skipSpace_suffix comments input
    have each := datum_left comments levels
    by_cases list : ∃ rest, skipSpace comments input = '(' :: rest
    · obtain ⟨rest, starts⟩ := list
      rw [starts] at skipped
      rw [datum_of_list starts, left_map]
      exact (items_left each _ rest).trans ((List.suffix_cons _ _).trans skipped)
    by_cases quotation : ∃ rest, skipSpace comments input = '\'' :: rest
    · obtain ⟨rest, starts⟩ := quotation
      rw [starts] at skipped
      rw [datum_of_quotation starts, left_map]
      exact (each rest).trans ((List.suffix_cons _ _).trans skipped)
    unfold datum
    split
    · exact List.nil_suffix
    · next rest starts => exact absurd ⟨rest, starts⟩ list
    · next rest starts => exact absurd ⟨rest, starts⟩ quotation
    · next rest starts =>
      rw [starts] at skipped
      exact (string_left rest).trans ((List.suffix_cons _ _).trans skipped)
    · exact (atom_left _).trans skipped

/-- An expression is read from its own text, at any depth. What is left behind it is the end of the
    input, and the text before that is read as the same expression, up to its end, before nothing
    and before every text that starts with a delimiter. -/
theorem datum_own_text (comments : Bool) (depth : Nat) {input rest : List Char} {v : Value}
    (read : datum comments (maxNesting - depth) input = .ok (v, rest)) :
    rest <:+ input ∧ ∀ own, input = own ++ rest → ∀ following, Delimited following →
      datum comments (maxNesting - depth) (own ++ following) = .ok (v, following) := by
  constructor
  · have behind := datum_left comments (maxNesting - depth) input
    rw [read] at behind
    exact behind
  · intro own split following ends
    rw [split] at read
    exact datum_refollow read fun _ => ends

/-- A list with a comment inside, before a letter, which no atom could end before; and a minus sign
    before a parenthesis. Other text follows: nothing, a string, a blank character that does not
    separate expressions. -/
theorem datum_own_text_list :
    (datum true (maxNesting - 5) "('a ; )\n 12)b".toList =
        .ok (.list [.quoted (.symbol "a"), .number 12], ['b']) ∧
      datum true (maxNesting - 5) "('a ; )\n 12)".toList =
        .ok (.list [.quoted (.symbol "a"), .number 12], [])) ∧
    datum false (maxNesting - 63) " -)".toList = .ok (.symbol "-", [')']) ∧
      datum false (maxNesting - 63) " -\"x".toList = .ok (.symbol "-", ['"', 'x']) ∧
      datum false (maxNesting - 63) " -\u00a0x".toList = .ok (.symbol "-", ['\u00a0', 'x']) := by
  have list : datum true (maxNesting - 5) "('a ; )\n 12)b".toList =
      .ok (.list [.quoted (.symbol "a"), .number 12], ['b']) := rfl
  have sign : datum false (maxNesting - 63) " -)".toList = .ok (.symbol "-", [')']) := rfl
  obtain ⟨-, listAgain⟩ := datum_own_text true 5 list
  obtain ⟨-, signAgain⟩ := datum_own_text false 63 sign
  refine ⟨⟨list, ?_⟩, sign, ?_, ?_⟩
  · exact listAgain "('a ; )\n 12)".toList rfl [] (delimited_iff.mpr rfl)
  · exact signAgain " -".toList rfl ['"', 'x'] (delimited_iff.mpr rfl)
  · exact signAgain " -".toList rfl ['\u00a0', 'x'] (delimited_iff.mpr rfl)

end MiniScheme.Reader
