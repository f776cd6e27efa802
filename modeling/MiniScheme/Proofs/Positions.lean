import MiniScheme.Reader.Datum

/- Places in a text, counted in bytes and in characters. The bytes of a text are
   those of its parts (`byteLength_append`), and every character has one at least,
   so what is left of a text lies at the byte length of what was read
   (`offset_of_append`), and further on the less is left (`offset_lt_offset`). A
   position between two characters, or at either end, is the byte length of a part
   of the text in whole characters; there and nowhere else the text can be cut
   (`textFrom?_eq_some_iff`), and the characters before it can be counted
   (`charsWithin?_byteLength`). -/
namespace MiniScheme.Reader

/-- The text from a byte position on; none if the position is inside a character or behind the
    end. -/
def textFrom? : List Char → Nat → Option (List Char)
  | text, 0 => some text
  | [], _ + 1 => none
  | c :: rest, bytes => if c.utf8Size ≤ bytes then textFrom? rest (bytes - c.utf8Size) else none

theorem byteLength_append (first second : List Char) :
    Text.byteLength (first ++ second) = Text.byteLength first + Text.byteLength second := by
  induction first with
  | nil => simp [Text.byteLength]
  | cons c first ih =>
    show c.utf8Size + Text.byteLength (first ++ second) = c.utf8Size + Text.byteLength first + _
    rw [ih, Nat.add_assoc]

theorem byteLength_cons (c : Char) (text : List Char) :
    Text.byteLength (c :: text) = c.utf8Size + Text.byteLength text := rfl

theorem byteLength_pos {text : List Char} (some? : text ≠ []) : 0 < Text.byteLength text := by
  obtain ⟨c, rest, rfl⟩ := List.exists_cons_of_ne_nil some?
  have size := c.utf8Size_pos
  rw [byteLength_cons]
  omega

/-- What is left of a text lies behind what was read of it. -/
theorem offset_of_append (read rest : List Char) :
    offset (read ++ rest) rest = Text.byteLength read := by
  rw [offset, byteLength_append, Nat.add_sub_cancel]

/-- What is left of a text lies further on if there is text before it. -/
theorem offset_append (before : List Char) {source rest : List Char} (left : rest <:+ source) :
    offset (before ++ source) rest = offset source rest + Text.byteLength before := by
  obtain ⟨read, rfl⟩ := left
  rw [offset_of_append, ← List.append_assoc, offset_of_append, byteLength_append, Nat.add_comm]

/-- The less is left of a text, the further on it lies. -/
theorem offset_lt_offset {source rest rest' : List Char} (left : rest <:+ source)
    (left' : rest' <:+ rest) (shorter : rest'.length < rest.length) :
    offset source rest < offset source rest' := by
  obtain ⟨before, rfl⟩ := left
  obtain ⟨read, rfl⟩ := left'
  have some? : read ≠ [] := by
    rintro rfl
    exact absurd shorter (Nat.lt_irrefl _)
  have more := byteLength_pos some?
  rw [offset_of_append, ← List.append_assoc, offset_of_append, byteLength_append]
  omega

/-- A character more before a position is passed over. -/
theorem textFrom?_cons (c : Char) (text : List Char) (position : Nat) :
    textFrom? (c :: text) (c.utf8Size + position) = textFrom? text position := by
  have size := c.utf8Size_pos
  obtain ⟨bytes, more⟩ : ∃ bytes, c.utf8Size + position = bytes + 1 :=
    Nat.exists_eq_succ_of_ne_zero (by omega)
  rw [more, textFrom?, if_pos (by omega), ← more, Nat.add_sub_cancel_left]
  exact Nat.succ_ne_zero bytes

/-- A character more before a position is counted. -/
theorem charsWithin?_cons (c : Char) (text : List Char) (position : Nat) :
    ParseError.charsWithin? (c :: text) (c.utf8Size + position) =
      (ParseError.charsWithin? text position).map (· + 1) := by
  have size := c.utf8Size_pos
  obtain ⟨bytes, more⟩ : ∃ bytes, c.utf8Size + position = bytes + 1 :=
    Nat.exists_eq_succ_of_ne_zero (by omega)
  rw [more, ParseError.charsWithin?, if_pos (by omega), ← more, Nat.add_sub_cancel_left]
  exact Nat.succ_ne_zero bytes

theorem of_textFrom? {text rest : List Char} {position : Nat}
    (h : textFrom? text position = some rest) :
    ∃ before, text = before ++ rest ∧ Text.byteLength before = position := by
  fun_induction textFrom? text position with
  | case1 text => exact ⟨[], Option.some.inj h, rfl⟩
  | case2 => cases h
  | case3 c text bytes _ fits ih =>
    obtain ⟨before, split, size⟩ := ih h
    refine ⟨c :: before, by rw [split, List.cons_append], ?_⟩
    rw [byteLength_cons, size]
    omega
  | case4 => cases h

/-- A text can be cut at the byte length of each of its parts in whole characters, and nowhere
    else. -/
theorem textFrom?_eq_some_iff {text rest : List Char} {position : Nat} :
    textFrom? text position = some rest ↔
      ∃ before, text = before ++ rest ∧ Text.byteLength before = position := by
  refine ⟨of_textFrom?, ?_⟩
  rintro ⟨before, rfl, rfl⟩
  induction before with
  | nil =>
    rw [List.nil_append]
    cases rest <;> rfl
  | cons c before ih => rw [List.cons_append, byteLength_cons, textFrom?_cons, ih]

/-- The characters before the byte length of a part of a text are those of the part. -/
theorem charsWithin?_byteLength (before rest : List Char) :
    ParseError.charsWithin? (before ++ rest) (Text.byteLength before) = some before.length := by
  induction before with
  | nil => cases rest <;> rfl
  | cons c before ih =>
    rw [List.cons_append, byteLength_cons, charsWithin?_cons, ih]
    rfl

end MiniScheme.Reader
