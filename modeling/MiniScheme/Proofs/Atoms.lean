import MiniScheme.Reader.Atom

/- Atoms read back. A delimiter is no symbol character (`not_isSymbolChar_of_atDelimiter`),
   so a run of digits or of symbol characters ends before one and the longest run
   is the run that was written. Main statements: the decimal text of a number, the
   text of a boolean and an accepted symbol name are read as what they stand for,
   before any delimiter (`atom?_number`, `atom?_bool`, `atom?_symbol`). -/
namespace MiniScheme.Reader

/-- The code points of the blank characters. -/
def blankPoints : List Nat :=
  [0x9, 0xA, 0xB, 0xC, 0xD, 0x20, 0x85, 0xA0, 0x1680, 0x2000, 0x2001, 0x2002, 0x2003, 0x2004, 0x2005,
    0x2006, 0x2007, 0x2008, 0x2009, 0x200A, 0x2028, 0x2029, 0x202F, 0x205F, 0x3000]

theorem mem_blankPoints {c : Char} (h : Text.isBlank c = true) : c.toNat ∈ blankPoints := by
  simp only [Text.isBlank, Text.within, Text.blankRanges, Text.ofPairs, List.map_cons, List.map_nil,
    List.any_cons, List.any_nil, Text.Range.contains, Bool.or_false, Bool.or_eq_true,
    Bool.and_eq_true, decide_eq_true_eq] at h
  simp only [blankPoints, List.mem_cons, List.not_mem_nil, or_false]
  omega

/-- No blank character is part of a symbol. -/
theorem not_isSymbolChar_of_isBlank {c : Char} (h : Text.isBlank c = true) :
    isSymbolChar c = false := by
  have points : ∀ n ∈ blankPoints, isSymbolChar (Char.ofNat n) = false := by decide +kernel
  have point := points c.toNat (mem_blankPoints h)
  rwa [Char.ofNat_toNat] at point

/-- The first character of a text before which an atom may end is part of no symbol. -/
theorem not_isSymbolChar_of_atDelimiter {c : Char} {rest : List Char}
    (h : atDelimiter (c :: rest) = true) : isSymbolChar c = false := by
  rcases Bool.or_eq_true_iff.mp h with blank | mark
  · exact not_isSymbolChar_of_isBlank blank
  · have marks : delimiters.all (!isSymbolChar ·) = true := by decide
    have no := List.all_eq_true.mp marks c (List.contains_iff_mem.mp mark)
    simpa using no

/-- Digits are symbol characters. -/
theorem isSymbolChar_of_isDigit {c : Char} (h : Text.isDigit c = true) : isSymbolChar c = true := by
  simp only [Text.isDigit, Bool.and_eq_true, decide_eq_true_eq] at h
  have low : c.val < 128 := Nat.lt_of_le_of_lt h.2 (by decide)
  have digit : c.isDigit = true := by
    simp only [Char.isDigit, Bool.and_eq_true, decide_eq_true_eq]
    exact h
  simp [isSymbolChar, Text.isAlphanumeric, low, Char.isAlphanum, digit]

/-- A run of symbol characters of one kind ends before a delimiter. -/
theorem span_before_delimiter {p : Char → Bool} (symbolic : ∀ c, p c = true → isSymbolChar c = true)
    {run rest : List Char} (hrun : ∀ c ∈ run, p c = true) (hrest : atDelimiter rest = true) :
    (run ++ rest).takeWhile p = run ∧ (run ++ rest).dropWhile p = rest := by
  have stop : rest.takeWhile p = [] ∧ rest.dropWhile p = rest := by
    cases rest with
    | nil => exact ⟨rfl, rfl⟩
    | cons c rest =>
      have no : p c = false := by
        have outside := not_isSymbolChar_of_atDelimiter hrest
        cases hp : p c with
        | false => rfl
        | true => rw [symbolic c hp] at outside; cases outside
      exact ⟨List.takeWhile_cons_of_neg (by simp [no]), List.dropWhile_cons_of_neg (by simp [no])⟩
  rw [List.takeWhile_append_of_pos hrun, List.dropWhile_append_of_pos hrun, stop.1, stop.2]
  exact ⟨List.append_nil _, rfl⟩

theorem natDigits_isDigit (n : Nat) : ∀ c ∈ Text.natDigits n, Text.isDigit c = true := by
  intro c hc
  have digit := Nat.isDigit_of_mem_toDigits (by decide) (by decide) hc
  simp only [Char.isDigit, Bool.and_eq_true, decide_eq_true_eq] at digit
  simp only [Text.isDigit, Bool.and_eq_true, decide_eq_true_eq]
  exact digit

/-- The digits of a natural number, with a sign read before them, are read as the number. -/
theorem digits?_natDigits (negative : Bool) (n : Nat) {value : Int64}
    (h : value.toInt = if negative then -(n : Int) else n) {rest : List Char}
    (hrest : atDelimiter rest = true) :
    digits? negative (Text.natDigits n ++ rest) = some (.number value, rest) := by
  obtain ⟨run, left⟩ :=
    span_before_delimiter (fun c => isSymbolChar_of_isDigit) (natDigits_isDigit n) hrest
  have some? : (Text.natDigits n).isEmpty = false := by
    rw [List.isEmpty_eq_false_iff]
    exact Nat.toDigits_ne_nil
  simp only [digits?, run, left, some?, hrest, Text.natOfDigits_natDigits]
  rw [← h, Number.ofInt?_eq_some_iff.mpr rfl]
  rfl

theorem atom?_of_ne {c : Char} (h : c ≠ '#') (rest : List Char) :
    atom? (c :: rest) = (decimal? (c :: rest)).or (symbol? (c :: rest)) := by
  unfold atom?
  split
  · next same => cases same; exact absurd rfl h
  · rfl

theorem decimal?_of_ne {c : Char} (h : c ≠ '-') (rest : List Char) :
    decimal? (c :: rest) = digits? false (c :: rest) := by
  unfold decimal?
  split
  · next same => cases same; exact absurd rfl h
  · rfl

/-- The decimal text of a number is read as the number. -/
theorem atom?_number (n : Int64) {rest : List Char} (hrest : atDelimiter rest = true) :
    atom? (Text.intDigits n.toInt ++ rest) = some (.number n, rest) := by
  cases value : n.toInt with
  | ofNat k =>
    have whole := digits?_natDigits false k value hrest
    show atom? (Text.natDigits k ++ rest) = _
    cases digits : Text.natDigits k with
    | nil => exact absurd digits Nat.toDigits_ne_nil
    | cons d ds =>
      have digit := natDigits_isDigit k d (by rw [digits]; simp)
      rw [digits] at whole
      have hash : d ≠ '#' := by
        intro same
        rw [same] at digit
        exact absurd digit (by decide)
      have minus : d ≠ '-' := by
        intro same
        rw [same] at digit
        exact absurd digit (by decide)
      rw [List.cons_append, atom?_of_ne hash, decimal?_of_ne minus, ← List.cons_append, whole]
      rfl
  | negSucc k =>
    have whole := digits?_natDigits true (k + 1) value hrest
    show atom? ('-' :: (Text.natDigits (k + 1) ++ rest)) = _
    rw [atom?_of_ne (by decide), decimal?, whole]
    rfl

theorem atom?_bool (b : Bool) {rest : List Char} (hrest : atDelimiter rest = true) :
    atom? ((if b then ['#', 't'] else ['#', 'f']) ++ rest) = some (.bool b, rest) := by
  cases b <;> simp [atom?, hexadecimal?, boolean?, hrest]

theorem digits?_of_not_isDigit {c : Char} (h : Text.isDigit c = false) (negative : Bool)
    (rest : List Char) : digits? negative (c :: rest) = none := by
  simp [digits?, h]

theorem symbol?_of_isSymbolName {name : List Char} (h : isSymbolName name = true)
    {rest : List Char} (hrest : atDelimiter rest = true) :
    symbol? (name ++ rest) = some (.symbol (String.ofList name), rest) := by
  have symbolic : ∀ c ∈ name, isSymbolChar c = true :=
    List.all_eq_true.mp (Bool.and_eq_true_iff.mp h).2
  obtain ⟨run, left⟩ := span_before_delimiter (fun _ hp => hp) symbolic hrest
  simp only [symbol?, run, left, h, hrest, Bool.and_self, if_true]

/-- An accepted symbol name is no decimal number. -/
theorem decimal?_of_isSymbolName {name : List Char} (h : isSymbolName name = true)
    {rest : List Char} (hrest : atDelimiter rest = true) : decimal? (name ++ rest) = none := by
  simp only [isSymbolName, Bool.and_eq_true, Bool.not_eq_true'] at h
  obtain ⟨⟨nonempty, notNumber⟩, -⟩ := h
  cases name with
  | nil => cases nonempty
  | cons c cs =>
    by_cases minus : c = '-'
    · subst minus
      rw [List.cons_append, decimal?]
      cases cs with
      | nil =>
        -- after a lone minus sign comes a delimiter, which is no digit
        cases rest with
        | nil => rfl
        | cons d after =>
          refine digits?_of_not_isDigit ?_ true after
          cases digit : Text.isDigit d with
          | false => rfl
          | true =>
            have outside := not_isSymbolChar_of_atDelimiter hrest
            rw [isSymbolChar_of_isDigit digit] at outside
            cases outside
      | cons d after => exact digits?_of_not_isDigit notNumber true _
    · rw [List.cons_append, decimal?_of_ne minus]
      refine digits?_of_not_isDigit ?_ false _
      unfold startsLikeNumber at notNumber
      split at notNumber
      · next same => cases same; exact absurd rfl minus
      · next same => cases same; exact notNumber
      · next same => cases same

/-- An accepted symbol name is read as the symbol. -/
theorem atom?_symbol {name : List Char} (h : isSymbolName name = true) {rest : List Char}
    (hrest : atDelimiter rest = true) :
    atom? (name ++ rest) = some (.symbol (String.ofList name), rest) := by
  have decimal := decimal?_of_isSymbolName h hrest
  have symbol := symbol?_of_isSymbolName h hrest
  simp only [isSymbolName, Bool.and_eq_true, List.all_eq_true] at h
  cases name with
  | nil => cases h.1.1
  | cons c cs =>
    have hash : c ≠ '#' := by
      intro same
      subst same
      exact absurd (h.2 '#' List.mem_cons_self) (by decide)
    rw [List.cons_append] at decimal symbol ⊢
    rw [atom?_of_ne hash, decimal, symbol]
    rfl

end MiniScheme.Reader
