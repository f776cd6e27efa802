import MiniScheme.Reader.Atom
import MiniScheme.Reader.ParseError
import MiniScheme.Text.Bytes
import MiniScheme.Text.Quoted

/- Reading one expression from the front of a text. The reader gives the
   expression and the text after it, or a failure with the text that was left
   when it gave up. Lists and quotations may be nested to a fixed depth; the
   recursion is on the levels that are left, and the items of one list are read
   by a loop that can run no longer than the text. What one level does is decided
   by where the text starts (`datum_of_list`, `datum_of_quotation`,
   `datum_of_flat`), and can be told from how it ends (`of_datum_ok`,
   `of_datum_error`). -/
namespace MiniScheme.Reader

/-- Lists and quotations around an atom are fewer than this. -/
def maxNesting : Nat := 64

/-- Why reading stopped. -/
inductive Cause where
  | nesting
  | malformed
  deriving DecidableEq, Repr

/-- A failure: its cause and the text that was left. -/
structure Failure where
  cause : Cause
  rest : List Char
  deriving DecidableEq, Repr

/-- What reading from the front of a text gives: a result and the text after it, or a failure. -/
abbrev Result (α : Type) := Except Failure (α × List Char)

/-- A character that separates expressions. -/
def isSpace (c : Char) : Bool := c == ' ' || c == '\t' || c == '\r' || c == '\n'

/-- Drops spaces and, if they are allowed, comments from the front of a text. The flag
    `inComment` says that the text starts inside a comment, which ends before the next line
    feed. -/
def skip (comments inComment : Bool) : List Char → List Char
  | [] => []
  | c :: rest =>
    if inComment then skip comments (c != '\n') rest
    else if isSpace c then skip comments false rest
    else if comments && c == ';' then skip comments true rest
    else c :: rest

/-- Drops spaces and, if they are allowed, comments from the front of a text. -/
def skipSpace (comments : Bool) (input : List Char) : List Char := skip comments false input

/-- Reads the items of a list whose opening parenthesis has been read, and the closing one. The
    first argument bounds the number of items. -/
def items (item : List Char → Result Value) (comments : Bool) :
    Nat → List Char → Result (List Value)
  | 0, input => .error ⟨.malformed, input⟩
  | bound + 1, input =>
    match skipSpace comments input with
    | ')' :: rest => .ok ([], rest)
    | start =>
      match item start with
      | .error failure => .error failure
      | .ok (v, rest) =>
        match items item comments bound rest with
        | .error failure => .error failure
        | .ok (vs, rest) => .ok (v :: vs, rest)

/-- Reads a string whose opening quote mark has been read. -/
def string (input : List Char) : Result Value :=
  match Text.Quoted.decode input with
  | .ok (text, rest) => .ok (.string (String.ofList text), rest)
  | .error rest => .error ⟨.malformed, rest⟩

def atom (input : List Char) : Result Value :=
  match atom? input with
  | some result => .ok result
  | none => .error ⟨.malformed, input⟩

/-- Reads one expression, with `levels` levels of nesting left. -/
def datum (comments : Bool) : (levels : Nat) → List Char → Result Value
  | 0, input => .error ⟨.nesting, input⟩
  | levels + 1, input =>
    match skipSpace comments input with
    | [] => .error ⟨.malformed, []⟩
    | '(' :: rest =>
      match items (datum comments levels) comments (rest.length + 1) rest with
      | .error failure => .error failure
      | .ok (vs, rest) => .ok (.list vs, rest)
    | '\'' :: rest =>
      match datum comments levels rest with
      | .error failure => .error failure
      | .ok (v, rest) => .ok (.quoted v, rest)
    | '"' :: rest => string rest
    | start => atom start

/-! What is read, by where the text starts. -/

section
variable {comments : Bool} {input rest : List Char}

theorem items_of_closed (closed : skipSpace comments input = ')' :: rest)
    (item : List Char → Result Value) (bound : Nat) :
    items item comments (bound + 1) input = .ok ([], rest) := by
  simp only [items, closed]

theorem items_of_open (opened : ∀ rest, skipSpace comments input ≠ ')' :: rest)
    (item : List Char → Result Value) (bound : Nat) :
    items item comments (bound + 1) input =
      (item (skipSpace comments input)).bind fun first =>
        (items item comments bound first.2).map fun others => (first.1 :: others.1, others.2) := by
  rw [items]
  split
  · next closed => exact absurd closed (opened _)
  cases item (skipSpace comments input) with
  | error failure => rfl
  | ok first =>
    simp only [Except.bind]
    cases items item comments bound first.2 <;> rfl

theorem datum_of_list (starts : skipSpace comments input = '(' :: rest) (levels : Nat) :
    datum comments (levels + 1) input =
      (items (datum comments levels) comments (rest.length + 1) rest).map
        fun inside => (.list inside.1, inside.2) := by
  simp only [datum, starts]
  cases items (datum comments levels) comments (rest.length + 1) rest <;> rfl

theorem datum_of_quotation (starts : skipSpace comments input = '\'' :: rest) (levels : Nat) :
    datum comments (levels + 1) input =
      (datum comments levels rest).map fun inside => (inside.1.quoted, inside.2) := by
  simp only [datum, starts]
  cases datum comments levels rest <;> rfl

/-- Items that are read are none before a closing parenthesis, or one and then others. -/
theorem of_items_ok {item : List Char → Result Value} {bound : Nat} {vs : List Value}
    (h : items item comments (bound + 1) input = .ok (vs, rest)) :
    (vs = [] ∧ skipSpace comments input = ')' :: rest) ∨
      ∃ v after others, vs = v :: others ∧
        item (skipSpace comments input) = .ok (v, after) ∧
        items item comments bound after = .ok (others, rest) := by
  unfold items at h
  split at h
  · next closed =>
    cases h
    exact .inl ⟨rfl, closed⟩
  split at h
  · cases h
  next v after first =>
  split at h
  · cases h
  next others _ read =>
  cases h
  exact .inr ⟨v, after, others, rfl, first, read⟩

/-- Items that are not read fail with the first one or with the others. -/
theorem of_items_error {item : List Char → Result Value} {bound : Nat} {failure : Failure}
    (h : items item comments (bound + 1) input = .error failure) :
    (∀ rest, skipSpace comments input ≠ ')' :: rest) ∧
      (item (skipSpace comments input) = .error failure ∨
        ∃ v after, item (skipSpace comments input) = .ok (v, after) ∧
          items item comments bound after = .error failure) := by
  unfold items at h
  split at h
  · cases h
  next opened =>
  refine ⟨opened, ?_⟩
  split at h
  · next failed =>
    cases h
    exact .inl failed
  next v after first =>
  split at h
  · next failed =>
    cases h
    exact .inr ⟨v, after, first, failed⟩
  · cases h

/-- An expression that is read is a list, a quotation, a string or an atom. -/
theorem of_datum_ok {levels : Nat} {v : Value}
    (h : datum comments (levels + 1) input = .ok (v, rest)) :
    (∃ after vs, skipSpace comments input = '(' :: after ∧ v = .list vs ∧
      items (datum comments levels) comments (after.length + 1) after = .ok (vs, rest)) ∨
    (∃ after w, skipSpace comments input = '\'' :: after ∧ v = .quoted w ∧
      datum comments levels after = .ok (w, rest)) ∨
    (∃ after text, skipSpace comments input = '"' :: after ∧ v = .string (String.ofList text) ∧
      Text.Quoted.decode after = .ok (text, rest)) ∨
    atom? (skipSpace comments input) = some (v, rest) := by
  unfold datum at h
  split at h
  · cases h
  · next after starts =>
    split at h
    · cases h
    next vs _ inner =>
    cases h
    exact .inl ⟨after, vs, starts, rfl, inner⟩
  · next after starts =>
    split at h
    · cases h
    next w _ inner =>
    cases h
    exact .inr (.inl ⟨after, w, starts, rfl, inner⟩)
  · next after starts =>
    unfold string at h
    split at h
    · next text _ read =>
      cases h
      exact .inr (.inr (.inl ⟨after, text, starts, rfl, read⟩))
    · cases h
  · unfold atom at h
    split at h
    · next found =>
      cases h
      exact .inr (.inr (.inr found))
    · cases h

/-- An expression that is not read fails inside a list, a quotation or a string, or nothing of it
    is there. -/
theorem of_datum_error {levels : Nat} {failure : Failure}
    (h : datum comments (levels + 1) input = .error failure) :
    (∃ after, skipSpace comments input = '(' :: after ∧
      items (datum comments levels) comments (after.length + 1) after = .error failure) ∨
    (∃ after, skipSpace comments input = '\'' :: after ∧
      datum comments levels after = .error failure) ∨
    (∃ after left, skipSpace comments input = '"' :: after ∧ failure = ⟨.malformed, left⟩ ∧
      Text.Quoted.decode after = .error left) ∨
    failure = ⟨.malformed, skipSpace comments input⟩ := by
  unfold datum at h
  split at h
  · next missing =>
    cases h
    exact .inr (.inr (.inr (by rw [missing])))
  · next after starts =>
    split at h
    · next failed =>
      cases h
      exact .inl ⟨after, starts, failed⟩
    · cases h
  · next after starts =>
    split at h
    · next failed =>
      cases h
      exact .inr (.inl ⟨after, starts, failed⟩)
    · cases h
  · next after starts =>
    unfold string at h
    split at h
    · cases h
    next left failed =>
    cases h
    exact .inr (.inr (.inl ⟨after, left, starts, rfl, failed⟩))
  · unfold atom at h
    split at h
    · cases h
    cases h
    exact .inr (.inr (.inr rfl))

/-- Where neither a list nor a quotation starts, nothing but the text counts. -/
theorem datum_of_flat {comments' : Bool} {input' : List Char}
    (same : skipSpace comments' input' = skipSpace comments input)
    (noList : ∀ rest, skipSpace comments input ≠ '(' :: rest)
    (noQuotation : ∀ rest, skipSpace comments input ≠ '\'' :: rest) (levels levels' : Nat) :
    datum comments' (levels' + 1) input' = datum comments (levels + 1) input := by
  rw [datum, datum, same]
  split
  · rfl
  · next starts => exact absurd starts (noList _)
  · next starts => exact absurd starts (noQuotation _)
  · rfl
  · rfl

end

/-- The number of bytes of a text before what is left of it. -/
def offset (source rest : List Char) : Nat :=
  Text.byteLength source - Text.byteLength rest

/-- How many characters of the text that was left an error quotes. -/
def nearLength : Nat := 10

/-- The error that a failure in a source means. -/
def Failure.toError (source : List Char) (failure : Failure) : ParseError :=
  let place := offset source failure.rest
  match failure.cause with
  | .nesting =>
    .atOffset .tooDeeplyNested s!"Expression too deeply nested (max depth: {maxNesting})"
      source place
  | .malformed =>
    if failure.rest.all Text.isBlank then
      .atOffset .incomplete "Unexpected end of input" source place
    else
      let near := String.ofList (failure.rest.take nearLength)
      .atOffset .invalidSyntax s!"Invalid syntax near '{near}' at position {place}" source place

/-- Reads a text that holds exactly one expression. -/
def parse (comments : Bool) (source : List Char) : Except ParseError Value :=
  match datum comments maxNesting source with
  | .error failure => .error (failure.toError source)
  | .ok (v, rest) =>
    match skipSpace comments rest with
    | [] => .ok v
    | left =>
      let remaining := String.ofList left
      .error (.atOffset .trailingContent s!"Unexpected remaining input: '{remaining}'" source
        (offset source left))

end MiniScheme.Reader
