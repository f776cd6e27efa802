/- String literals: a quote mark, the characters of the string with five of them
   written as a backslash and a letter, and a quote mark. `encode` writes the
   characters, `decode` reads them up to the closing quote mark and gives what
   follows it. Main statement: decoding what was encoded, closed and followed by
   anything gives the string back and leaves what followed (`decode_encode`). -/
namespace MiniScheme.Text.Quoted

/-- The letter that stands for a character after a backslash, for the five that are escaped. -/
def letter? : Char → Option Char
  | '\n' => some 'n'
  | '\t' => some 't'
  | '\r' => some 'r'
  | '\\' => some '\\'
  | '"' => some '"'
  | _ => none

/-- The character that a letter stands for after a backslash. -/
def escaped? : Char → Option Char
  | 'n' => some '\n'
  | 't' => some '\t'
  | 'r' => some '\r'
  | '\\' => some '\\'
  | '"' => some '"'
  | _ => none

/-- One character as it is written in a literal. -/
def encodeChar (c : Char) : List Char :=
  match letter? c with
  | some l => ['\\', l]
  | none => [c]

/-- The characters of a string as they are written between the quote marks. -/
def encode (text : List Char) : List Char := text.flatMap encodeChar

/-- The whole literal, quote marks included. -/
def literal (text : List Char) : List Char := '"' :: encode text ++ ['"']

/-- Reads a literal whose opening quote mark has been read: the string and what follows the
    closing mark. A failure leaves the text from an unknown escape on, or nothing if the text
    ends before the literal does. -/
def decode : List Char → Except (List Char) (List Char × List Char)
  | [] => .error []
  | c :: rest =>
    if c = '"' then .ok ([], rest)
    else if c = '\\' then
      match rest with
      | [] => .error []
      | l :: after =>
        match escaped? l with
        | some d => (decode after).map fun r => (d :: r.1, r.2)
        | none => .error (c :: rest)
    else (decode rest).map fun r => (c :: r.1, r.2)

/-- The closing quote mark ends the string. -/
theorem decode_quote (rest : List Char) : decode ('"' :: rest) = .ok ([], rest) := by
  unfold decode; simp

/-- A character that is neither quote mark nor backslash stands for itself. -/
theorem decode_plain {c : Char} (hq : c ≠ '"') (hb : c ≠ '\\') (rest : List Char) :
    decode (c :: rest) = (decode rest).map fun r => (c :: r.1, r.2) := by
  conv => lhs; unfold decode
  simp [hq, hb]

/-- A backslash and a known letter stand for the letter's character. -/
theorem decode_escape {l d : Char} (h : escaped? l = some d) (rest : List Char) :
    decode ('\\' :: l :: rest) = (decode rest).map fun r => (d :: r.1, r.2) := by
  conv => lhs; unfold decode
  simp [h]

/-- An escape letter reads back as the character it was written for. -/
theorem escaped?_of_letter? {c l : Char} (h : letter? c = some l) : escaped? l = some c := by
  unfold letter? at h
  split at h <;> cases h <;> rfl

/-- A character without an escape is neither quote mark nor backslash. -/
theorem ne_of_letter?_none {c : Char} (h : letter? c = none) : c ≠ '"' ∧ c ≠ '\\' := by
  constructor <;> rintro rfl <;> exact absurd h (by decide)

/-- Decoding what was encoded, closed and followed by anything gives the string back. -/
theorem decode_encode (text rest : List Char) :
    decode (encode text ++ '"' :: rest) = .ok (text, rest) := by
  induction text with
  | nil => exact decode_quote rest
  | cons c text ih =>
    have unfolded : encode (c :: text) = encodeChar c ++ encode text := rfl
    rw [unfolded, encodeChar]
    cases h : letter? c with
    | some l =>
      simp only [List.cons_append, List.nil_append]
      rw [decode_escape (escaped?_of_letter? h), ih]
      rfl
    | none =>
      have hc := ne_of_letter?_none h
      simp only [List.cons_append, List.nil_append]
      rw [decode_plain hc.1 hc.2, ih]
      rfl

end MiniScheme.Text.Quoted
