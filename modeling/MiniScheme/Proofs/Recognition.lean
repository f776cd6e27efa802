import MiniScheme.Proofs.RoundTrip
import MiniScheme.Proofs.Tokens

/- The reader accepts the grammar. What is skipped is a gap, and a gap is skipped
   whatever follows it (`gap_of_skipSpace`, `skipSpace_gap`). `Sound` and
   `Complete` compare a parser with what the grammar derives after a gap; both
   pass from the items of a list to lists and from one level of nesting to the
   next. Main statement: a source is read as a value exactly if the grammar
   derives the value from it (`parse_eq_ok_iff`). -/
namespace MiniScheme.Reader

open Grammar

variable {comments : Bool}

/-! Gaps are what is skipped. -/

theorem mem_spaces {c : Char} : c ∈ spaces ↔ isSpace c = true := by
  simp [spaces, isSpace, or_assoc]

/-- Inside a comment everything up to the next line feed is skipped. -/
theorem skip_comment {body rest : List Char} (oneLine : '\n' ∉ body)
    (stops : ∀ c ∈ rest.head?, c = '\n') :
    skip comments true (body ++ rest) = skip comments false rest := by
  induction body with
  | nil =>
    cases rest with
    | nil => rfl
    | cons c rest =>
      obtain rfl : c = '\n' := stops c rfl
      rfl
  | cons c body ih =>
    rw [List.mem_cons, not_or] at oneLine
    have inside : (c != '\n') = true := by simpa using Ne.symm oneLine.1
    rw [List.cons_append, skip, if_pos rfl, inside]
    exact ih oneLine.2

/-- A gap is skipped whatever follows it. -/
theorem skipSpace_gap {gap following : List Char} (h : Gap comments gap following) :
    skipSpace comments (gap ++ following) = skipSpace comments following := by
  unfold skipSpace
  induction h with
  | nil => rfl
  | space hc _ ih =>
    rw [List.cons_append, skip, if_neg Bool.false_ne_true, if_pos (mem_spaces.mp hc)]
    exact ih
  | comment allowed oneLine stops _ ih =>
    subst allowed
    have semicolon : isSpace ';' = false := by decide
    have starts : (true && ';' == ';') = true := by decide
    rw [List.cons_append, skip, if_neg Bool.false_ne_true, semicolon, if_neg Bool.false_ne_true,
      if_pos starts, List.append_assoc, skip_comment oneLine stops]
    exact ih

/-- What is skipped is a gap; inside a comment it is the rest of the comment and a gap. -/
theorem gap_of_skip (input : List Char) :
    (∃ gap, input = gap ++ skip comments false input ∧
      Gap comments gap (skip comments false input)) ∧
    (comments = true → ∃ body gap, input = body ++ (gap ++ skip comments true input) ∧ '\n' ∉ body ∧
      (∀ c ∈ (gap ++ skip comments true input).head?, c = '\n') ∧
      Gap comments gap (skip comments true input)) := by
  induction input with
  | nil => exact ⟨⟨[], rfl, .nil⟩, fun _ => ⟨[], [], rfl, List.not_mem_nil, by simp [skip], .nil⟩⟩
  | cons c rest ih =>
    obtain ⟨⟨gap, split, isGap⟩, ofComment⟩ := ih
    refine ⟨?_, ?_⟩
    · rw [skip, if_neg Bool.false_ne_true]
      by_cases space : isSpace c = true
      · rw [if_pos space]
        exact ⟨c :: gap, by rw [List.cons_append, ← split], .space (mem_spaces.mpr space) isGap⟩
      rw [if_neg space]
      by_cases starts : (comments && c == ';') = true
      · rw [if_pos starts]
        obtain ⟨allowed, semicolon⟩ := Bool.and_eq_true_iff.mp starts
        obtain rfl : c = ';' := by simpa using semicolon
        obtain ⟨body, gap, split, oneLine, stops, isGap⟩ := ofComment allowed
        refine ⟨';' :: (body ++ gap), ?_, .comment allowed oneLine stops isGap⟩
        rw [List.cons_append, List.append_assoc, ← split]
      · rw [if_neg starts]
        exact ⟨[], rfl, .nil⟩
    · intro allowed
      rw [skip, if_pos rfl]
      by_cases lineFeed : c = '\n'
      · subst lineFeed
        refine ⟨[], '\n' :: gap, ?_, List.not_mem_nil, ?_, .space (by decide) isGap⟩
        · show _ = '\n' :: (gap ++ skip comments false rest)
          rw [← split]
        · intro d hd
          cases hd
          rfl
      · have inside : (c != '\n') = true := by simpa using lineFeed
        rw [inside]
        obtain ⟨body, gap, split, oneLine, stops, isGap⟩ := ofComment allowed
        refine ⟨c :: body, gap, by rw [List.cons_append, ← split], ?_, stops, isGap⟩
        rw [List.mem_cons, not_or]
        exact ⟨Ne.symm lineFeed, oneLine⟩

theorem gap_of_skipSpace (comments : Bool) (input : List Char) :
    ∃ gap, input = gap ++ skipSpace comments input ∧ Gap comments gap (skipSpace comments input) :=
  (gap_of_skip input).1

/-- Two gaps after one another are a gap. -/
theorem Gap.append {first second following : List Char}
    (h : Gap comments first (second ++ following)) (h' : Gap comments second following) :
    Gap comments (first ++ second) following := by
  generalize whole : second ++ following = rest at h
  induction h with
  | nil => exact h'
  | space hc _ ih => exact .space hc (ih whole)
  | @comment body text rest allowed oneLine stops _ ih =>
    subst whole
    rw [List.cons_append, List.append_assoc]
    refine .comment allowed oneLine ?_ (ih rfl)
    rwa [List.append_assoc]

/-! Where an expression starts, nothing is skipped. -/

theorem atom_starts {text : List Char} {v : Value} (h : Atom text v) :
    ∃ c cs, text = c :: cs ∧ startsAtom c = true := by
  cases h with
  | decimal h =>
    obtain ⟨some?, each, -⟩ := decimal_numeral_iff.mp h
    obtain ⟨c, cs, rfl⟩ := List.exists_cons_of_ne_nil some?
    exact ⟨c, cs, rfl, by
      rw [startsAtom, isSymbolChar_of_isDigit (each c List.mem_cons_self), Bool.true_or]⟩
  | negative => exact ⟨'-', _, rfl, by decide⟩
  | hexadecimal => exact ⟨'#', _, rfl, by decide⟩
  | boolean b => cases b <;> exact ⟨'#', _, rfl, by decide⟩
  | symbol h =>
    simp only [isSymbolName, Bool.and_eq_true, Bool.not_eq_true', List.all_eq_true] at h
    obtain ⟨c, cs, rfl⟩ := List.exists_cons_of_ne_nil (List.isEmpty_eq_false_iff.mp h.1.1)
    exact ⟨c, cs, rfl, by rw [startsAtom, h.2 c List.mem_cons_self, Bool.true_or]⟩

/-- Where no atom starts, none is read. -/
theorem atom_of_not_startsAtom {c : Char} (h : startsAtom c = false) (rest : List Char) :
    atom (c :: rest) = .error ⟨.malformed, c :: rest⟩ := by
  unfold atom
  cases found : atom? (c :: rest) with
  | none => rfl
  | some result =>
    obtain ⟨text, split, derived, -⟩ := atom?_iff.mp found
    obtain ⟨d, ds, rfl, starts⟩ := atom_starts derived
    cases (List.cons.inj split).1
    rw [h] at starts
    cases starts

/-- Nothing is read at a character that starts no atom, list, quotation or string. -/
theorem datum_of_no_start {c : Char} (noAtom : startsAtom c = false) (noList : c ≠ '(')
    (noQuotation : c ≠ '\'') (noString : c ≠ '"') {input rest : List Char}
    (here : skipSpace comments input = c :: rest) (levels : Nat) :
    datum comments (levels + 1) input = .error ⟨.malformed, c :: rest⟩ := by
  rw [datum, here]
  split
  · next same => cases same
  · next same => cases same; exact absurd rfl noList
  · next same => cases same; exact absurd rfl noQuotation
  · next same => cases same; exact absurd rfl noString
  · exact atom_of_not_startsAtom noAtom rest

theorem level_starts {item : List Char → List Char → Value → Prop} {text following : List Char}
    {v : Value} (h : Level comments item text following v) :
    ∃ c cs, text = c :: cs ∧ startsDatum c = true := by
  cases h with
  | atom h =>
    obtain ⟨c, cs, rfl, starts⟩ := atom_starts h
    exact ⟨c, cs, rfl, startsDatum_of_startsAtom starts⟩
  | string => exact ⟨'"', _, rfl, by decide⟩
  | list => exact ⟨'(', _, rfl, by decide⟩
  | quotation => exact ⟨'\'', _, rfl, by decide⟩

theorem datum_starts {nesting : Nat} {text following : List Char} {v : Value}
    (h : Datum comments nesting text following v) :
    ∃ c cs, text = c :: cs ∧ startsDatum c = true := by
  cases nesting with
  | zero => exact level_starts h
  | succ nesting => exact level_starts h

/-! The items of a list. -/

/-- What a parser of items reads, the grammar derives after a gap. -/
def Sound (comments : Bool) (item : List Char → Result Value)
    (derives : List Char → List Char → Value → Prop) : Prop :=
  ∀ {input v rest}, item input = .ok (v, rest) →
    ∃ gap text, input = gap ++ (text ++ rest) ∧ Gap comments gap (text ++ rest) ∧
      derives text rest v

/-- What the grammar derives after a gap, a parser of items reads. -/
def Complete (comments : Bool) (item : List Char → Result Value)
    (derives : List Char → List Char → Value → Prop) : Prop :=
  ∀ {gap text rest v}, Gap comments gap (text ++ rest) → derives text rest v →
    item (gap ++ (text ++ rest)) = .ok (v, rest)

theorem items_sound {item : List Char → Result Value}
    {derives : List Char → List Char → Value → Prop} (sound : Sound comments item derives) :
    ∀ {bound input rest vs}, items item comments bound input = .ok (vs, rest) →
      ∃ text gap, input = text ++ (gap ++ ')' :: rest) ∧
        Items comments derives text (gap ++ ')' :: rest) vs ∧ Gap comments gap (')' :: rest)
  | 0, _, _, _, h => by cases h
  | bound + 1, input, rest, vs, h => by
    obtain ⟨gap, split, isGap⟩ := gap_of_skipSpace comments input
    rcases of_items_ok h with ⟨rfl, closed⟩ | ⟨v, after, others, rfl, first, read⟩
    · rw [closed] at split isGap
      exact ⟨[], gap, split, .nil, isGap⟩
    · obtain ⟨inner, text, split', isGap', derived⟩ := sound first
      obtain ⟨more, last, rfl, derivedAll, isLast⟩ := items_sound sound read
      rw [split'] at split isGap
      refine ⟨(gap ++ inner) ++ (text ++ more), last, ?_, .cons ?_ derived derivedAll, isLast⟩
      · rw [split]
        simp only [List.append_assoc]
      · exact Gap.append isGap isGap'

/-- Every item takes up a character at least. -/
theorem length_le_of_items {derives : List Char → List Char → Value → Prop}
    (starts : ∀ {text rest v}, derives text rest v → ∃ c cs, text = c :: cs ∧ startsDatum c = true)
    {text following : List Char} {vs : List Value}
    (h : Items comments derives text following vs) : vs.length ≤ text.length := by
  induction h with
  | nil => exact Nat.le_refl _
  | cons _ first _ ih =>
    obtain ⟨c, cs, rfl, -⟩ := starts first
    simp only [List.length_cons, List.length_append] at ih ⊢
    omega

/-- A gap before an item or the closing parenthesis is skipped. -/
theorem items_gap {gap following : List Char} (h : Gap comments gap following)
    (item : List Char → Result Value) (bound : Nat) :
    items item comments (bound + 1) (gap ++ following) =
      items item comments (bound + 1) following := by
  rw [items, items, skipSpace_gap h]

/-- A closing parenthesis after a gap ends the list. -/
theorem items_closed {gap rest : List Char} (h : Gap comments gap (')' :: rest))
    (item : List Char → Result Value) (bound : Nat) :
    items item comments (bound + 1) (gap ++ ')' :: rest) = .ok ([], rest) := by
  have closed : skipSpace comments (')' :: rest) = ')' :: rest := by
    simp [skipSpace, skip, isSpace]
  rw [items_gap h, items, closed]
  rfl

theorem items_complete {item : List Char → Result Value}
    {derives : List Char → List Char → Value → Prop} (complete : Complete comments item derives)
    (starts : ∀ {text rest v}, derives text rest v → ∃ c cs, text = c :: cs ∧ startsDatum c = true)
    {gap rest : List Char} (isGap : Gap comments gap (')' :: rest)) {text : List Char}
    {vs : List Value} (h : Items comments derives text (gap ++ ')' :: rest) vs) :
    ∀ {bound}, vs.length < bound →
      items item comments bound (text ++ (gap ++ ')' :: rest)) = .ok (vs, rest) := by
  generalize ended : gap ++ ')' :: rest = following at h
  induction h with
  | nil =>
    rintro (_ | bound) short
    · exact absurd short (Nat.not_lt_zero _)
    rw [List.nil_append, ← ended]
    exact items_closed isGap item bound
  | @cons before text others following v vs hg first _ ih =>
    rintro (_ | bound) short
    · exact absurd short (Nat.not_lt_zero _)
    subst ended
    obtain ⟨c, cs, rfl, startsHere⟩ := starts first
    have read := complete .nil first
    rw [List.nil_append, List.cons_append] at read
    rw [List.append_assoc, List.append_assoc, items_gap hg, List.cons_append,
      items_of_startsDatum startsHere, read]
    simp only [ih rfl (Nat.lt_of_succ_lt_succ short)]

/-! Expressions, one level and then all. -/

theorem level_sound {levels : Nat} {derives : List Char → List Char → Value → Prop}
    (sound : Sound comments (datum comments levels) derives) :
    Sound comments (datum comments (levels + 1)) (Level comments derives) := by
  intro input v rest h
  obtain ⟨gap, split, isGap⟩ := gap_of_skipSpace comments input
  -- the text after the gap decides which shape is read
  suffices shape : ∃ text, skipSpace comments input = text ++ rest ∧
      Level comments derives text rest v by
    obtain ⟨text, same, derived⟩ := shape
    rw [same] at split isGap
    exact ⟨gap, text, split, isGap, derived⟩
  rcases of_datum_ok h with ⟨after, vs, starts, rfl, inner⟩ | ⟨after, w, starts, rfl, inner⟩ |
    ⟨after, content, starts, rfl, read⟩ | found
  · obtain ⟨text, last, rfl, derived, isLast⟩ := items_sound sound inner
    refine ⟨'(' :: (text ++ (last ++ [')'])), ?_, .list derived isLast⟩
    simpa using starts
  · obtain ⟨inside, text, rfl, isInside, derived⟩ := sound inner
    refine ⟨'\'' :: (inside ++ text), ?_, .quotation isInside derived⟩
    simpa using starts
  · obtain ⟨text, rfl, literal⟩ := decode_iff.mp read
    refine ⟨'"' :: (text ++ ['"']), ?_, .string literal⟩
    simpa using starts
  · obtain ⟨text, same, derived, ends⟩ := atom?_iff.mp found
    exact ⟨text, same, .atom derived ends⟩

/-- A gap before an expression is skipped. -/
theorem datum_gap {gap following : List Char} (h : Gap comments gap following) (levels : Nat) :
    datum comments (levels + 1) (gap ++ following) = datum comments (levels + 1) following := by
  rw [datum, datum, skipSpace_gap h]

theorem level_complete {levels : Nat} {derives : List Char → List Char → Value → Prop}
    (complete : Complete comments (datum comments levels) derives)
    (starts : ∀ {text rest v}, derives text rest v →
      ∃ c cs, text = c :: cs ∧ startsDatum c = true) :
    Complete comments (datum comments (levels + 1)) (Level comments derives) := by
  intro gap text rest v isGap derived
  rw [datum_gap isGap]
  cases derived with
  | atom h ends =>
    have read := atom?_iff.mpr ⟨text, rfl, h, ends⟩
    obtain ⟨c, cs, rfl, first⟩ := atom_starts h
    rw [List.cons_append] at read ⊢
    rw [datum_of_startsAtom first, atom, read]
  | @string text content _ h =>
    have read : Text.Quoted.decode (text ++ '"' :: rest) = .ok (content, rest) :=
      decode_iff.mpr ⟨text, rfl, h⟩
    rw [List.cons_append, List.append_assoc, datum, skipSpace_of_startsDatum (by decide)]
    simp only [string, List.singleton_append, read]
  | @list text last _ vs h isLast =>
    have short : vs.length < (text ++ (last ++ ')' :: rest)).length + 1 := by
      have few := length_le_of_items starts h
      rw [List.length_append]
      omega
    have read := items_complete complete starts isLast h short
    rw [List.cons_append, List.append_assoc, List.append_assoc, datum,
      skipSpace_of_startsDatum (by decide)]
    simp only [List.singleton_append, read]
  | @quotation inside text _ w isInside h =>
    have read := complete isInside h
    rw [List.cons_append, List.append_assoc, datum, skipSpace_of_startsDatum (by decide)]
    simp only [read]

theorem datum_sound (comments : Bool) (nesting : Nat) :
    Sound comments (datum comments (nesting + 1)) (Datum comments nesting) := by
  induction nesting with
  | zero => exact level_sound (fun h => by cases h)
  | succ nesting ih => exact level_sound ih

theorem datum_complete (comments : Bool) (nesting : Nat) :
    Complete comments (datum comments (nesting + 1)) (Datum comments nesting) := by
  induction nesting with
  | zero => exact level_complete (fun _ h => h.elim) (fun h => h.elim)
  | succ nesting ih => exact level_complete ih datum_starts

/-- The reader accepts exactly the sources of the grammar, and reads each as the value that it
    derives. -/
theorem parse_eq_ok_iff (comments : Bool) (source : List Char) (v : Value) :
    parse comments source = .ok v ↔ Source comments source v := by
  constructor
  · intro h
    unfold parse at h
    split at h
    · cases h
    next w rest read =>
    split at h
    · next done =>
      cases h
      obtain ⟨before, text, rfl, isBefore, derived⟩ := datum_sound comments 63 read
      obtain ⟨after, split, isAfter⟩ := gap_of_skipSpace comments rest
      rw [done] at split isAfter
      rw [List.append_nil] at split
      subst split
      exact ⟨before, text, rest, rfl, isBefore, derived, isAfter⟩
    · cases h
  · rintro ⟨before, text, after, rfl, isBefore, derived, isAfter⟩
    have read : datum comments maxNesting (before ++ (text ++ after)) = .ok (v, after) :=
      datum_complete comments 63 isBefore derived
    have done : skipSpace comments after = [] := by
      have skipped := skipSpace_gap isAfter
      rw [List.append_nil] at skipped
      exact skipped
    rw [parse, read]
    simp only [done]

/-- A string or a comment may follow an atom directly. -/
example : parse true "(a\"b\"1;x\n)".toList =
    .ok (.list [.symbol "a", .string "b", .number 1]) := by cbv

end MiniScheme.Reader
