import MiniScheme.Proofs.Atoms
import MiniScheme.Reader.Grammar
import MiniScheme.Text.Quoted

/- Atoms and strings, as they are read and as the grammar has them. A numeral is
   a run of digits with the value that reading gives it (`decimal_numeral_iff`,
   `hexadecimal_numeral_iff`). Main statements: an atom is read from the front of
   a text exactly if the grammar derives it before a delimiter (`atom?_iff`), and
   a string exactly if its literal is there (`decode_iff`). -/
namespace MiniScheme.Reader

open Grammar

/-! Numerals. -/

/-- What holds of the first characters holds of a character among them. -/
theorem of_toNat_lt {P : Char → Prop} {bound : Nat} (h : ∀ n < bound, P (Char.ofNat n)) {c : Char}
    (low : c.toNat < bound) : P c := by
  have point := h c.toNat low
  rwa [Char.ofNat_toNat] at point

/-- A digit of a table of digits has the value of its place, if that is what `value` says of each
    of them. -/
theorem of_stands {series : List String} {isDigit : Char → Bool} (value : Char → Nat)
    (places : ∀ digits ∈ series, ∀ place ∈ digits.toList.zipIdx,
      isDigit place.1 = true ∧ value place.1 = place.2) {c : Char} {k : Nat}
    (h : Stands series c k) : isDigit c = true ∧ value c = k := by
  obtain ⟨digits, known, found⟩ := h
  exact places digits known (c, k) (List.mem_zipIdx_iff_getElem?.mpr found)

theorem stands_decimal {c : Char} {k : Nat} :
    Stands decimalSeries c k ↔ Text.isDigit c = true ∧ c.toNat - '0'.toNat = k := by
  constructor
  · exact of_stands (fun c => c.toNat - '0'.toNat) (by decide)
  · rintro ⟨digit, rfl⟩
    have low : c.toNat < 58 := by
      simp only [Text.isDigit, Bool.and_eq_true, decide_eq_true_eq] at digit
      exact Nat.lt_succ_of_le digit.2
    exact of_toNat_lt (P := fun c => Text.isDigit c = true →
      Stands decimalSeries c (c.toNat - '0'.toNat)) (by decide +kernel) low digit

theorem stands_hexadecimal {c : Char} {k : Nat} :
    Stands hexadecimalSeries c k ↔ Text.isHexDigit c = true ∧ Text.hexDigitValue c = k := by
  constructor
  · exact of_stands Text.hexDigitValue (by decide)
  · rintro ⟨digit, rfl⟩
    have low : c.toNat < 103 := by
      simp only [Text.isHexDigit, Text.isDigit, Bool.or_eq_true, Bool.and_eq_true,
        decide_eq_true_eq] at digit
      have last : c ≤ 'f' := by
        rcases digit with (digit | digit) | digit
        · exact Nat.le_trans digit.2 (by decide)
        · exact digit.2
        · exact Nat.le_trans digit.2 (by decide)
      exact Nat.lt_succ_of_le last
    exact of_toNat_lt (P := fun c => Text.isHexDigit c = true →
      Stands hexadecimalSeries c (Text.hexDigitValue c)) (by decide +kernel) low digit

/-- The digits after the first ones count as if they stood alone. -/
theorem foldl_digits (base : Nat) (value : Char → Nat) (digits : List Char) (before : Nat) :
    digits.foldl (fun sofar c => base * sofar + value c) before =
      before * base ^ digits.length + digits.foldl (fun sofar c => base * sofar + value c) 0 := by
  induction digits generalizing before with
  | nil => simp
  | cons c rest ih =>
    rw [List.foldl_cons, List.foldl_cons, ih (base * before + value c), ih (base * 0 + value c)]
    rw [List.length_cons, Nat.pow_succ, Nat.mul_zero, Nat.zero_add, Nat.add_mul]
    have first : base * before * base ^ rest.length = before * (base ^ rest.length * base) := by
      rw [Nat.mul_comm base before, Nat.mul_assoc, Nat.mul_comm base]
    omega

/-- A numeral is a run of digits that is not empty, and stands for what the digits add up to. -/
theorem numeral_iff {base : Nat} {series : List String} {isDigit : Char → Bool}
    {value : Char → Nat}
    (same : ∀ {c k}, Stands series c k ↔ isDigit c = true ∧ value c = k) {digits : List Char}
    {n : Nat} :
    Numeral base series digits n ↔ digits ≠ [] ∧ (∀ c ∈ digits, isDigit c = true) ∧
      digits.foldl (fun sofar c => base * sofar + value c) 0 = n := by
  constructor
  · intro h
    induction h with
    | one h =>
      obtain ⟨digit, rfl⟩ := same.mp h
      exact ⟨by simp, by simpa using digit, by simp⟩
    | more h _ ih =>
      obtain ⟨digit, rfl⟩ := same.mp h
      obtain ⟨-, digits, rfl⟩ := ih
      refine ⟨by simp, List.forall_mem_cons.mpr ⟨digit, digits⟩, ?_⟩
      rw [List.foldl_cons, foldl_digits, Nat.mul_zero, Nat.zero_add]
  · rintro ⟨some?, each, rfl⟩
    induction digits with
    | nil => exact absurd rfl some?
    | cons c rest ih =>
      obtain ⟨digit, others⟩ := List.forall_mem_cons.mp each
      have first : Stands series c (value c) := same.mpr ⟨digit, rfl⟩
      rw [List.foldl_cons, foldl_digits, Nat.mul_zero, Nat.zero_add]
      by_cases last : rest = []
      · subst last
        simpa using Numeral.one first
      · exact .more first (ih last others)

theorem decimal_numeral_iff {digits : List Char} {n : Nat} :
    Numeral 10 decimalSeries digits n ↔
      digits ≠ [] ∧ (∀ c ∈ digits, Text.isDigit c = true) ∧ Text.natOfDigits digits = n :=
  numeral_iff stands_decimal

theorem hexadecimal_numeral_iff {digits : List Char} {n : Nat} :
    Numeral 16 hexadecimalSeries digits n ↔
      digits ≠ [] ∧ (∀ c ∈ digits, Text.isHexDigit c = true) ∧ Text.natOfHex digits = n :=
  numeral_iff stands_hexadecimal

/-! Atoms. -/

theorem delimited_iff {following : List Char} :
    Delimited following ↔ atDelimiter following = true := by
  cases following with
  | nil => simp [Delimited, atDelimiter]
  | cons c rest => simp [Delimited, atDelimiter, delimiters]

/-- The longest run of symbol characters of one kind is the one that a delimiter follows. -/
theorem run_iff {p : Char → Bool} (symbolic : ∀ c, p c = true → isSymbolChar c = true)
    {input run rest : List Char} (ends : Delimited rest) :
    input.takeWhile p = run ∧ input.dropWhile p = rest ↔
      input = run ++ rest ∧ ∀ c ∈ run, p c = true := by
  constructor
  · rintro ⟨rfl, rfl⟩
    exact ⟨List.takeWhile_append_dropWhile.symm, List.all_eq_true.mp List.all_takeWhile⟩
  · rintro ⟨rfl, each⟩
    exact span_before_delimiter symbolic each (delimited_iff.mp ends)

theorem digits?_iff {negative : Bool} {input rest : List Char} {v : Value} :
    digits? negative input = some (v, rest) ↔
      ∃ digits n x, input = digits ++ rest ∧ Numeral 10 decimalSeries digits n ∧ Delimited rest ∧
        v = .number x ∧ x.toInt = if negative then -(n : Int) else n := by
  constructor
  · intro h
    simp only [digits?] at h
    split at h
    · cases h
    next good =>
    simp only [Bool.or_eq_true, Bool.not_eq_true', not_or, Bool.not_eq_true,
      Bool.not_eq_false] at good
    obtain ⟨x, value, same⟩ := Option.map_eq_some_iff.mp h
    cases same
    have ends := delimited_iff.mpr good.2
    obtain ⟨split, each⟩ := (run_iff (fun _ => isSymbolChar_of_isDigit) ends).mp ⟨rfl, rfl⟩
    refine ⟨_, _, x, split, decimal_numeral_iff.mpr ⟨?_, each, rfl⟩, ends, rfl, ?_⟩
    · exact List.isEmpty_eq_false_iff.mp good.1
    · exact Number.ofInt?_eq_some_iff.mp value
  · rintro ⟨digits, n, x, rfl, numeral, ends, rfl, value⟩
    obtain ⟨some?, each, rfl⟩ := decimal_numeral_iff.mp numeral
    obtain ⟨run, left⟩ := (run_iff (fun _ => isSymbolChar_of_isDigit) ends).mpr ⟨rfl, each⟩
    have full : digits.isEmpty = false := List.isEmpty_eq_false_iff.mpr some?
    simp only [digits?, run, left, full, delimited_iff.mp ends, ← value,
      Number.ofInt?_eq_some_iff.mpr rfl]
    rfl

/-- Hexadecimal digits are symbol characters. -/
theorem isSymbolChar_of_isHexDigit {c : Char} (h : Text.isHexDigit c = true) :
    isSymbolChar c = true := by
  obtain ⟨digits, known, found⟩ := stands_hexadecimal.mpr ⟨h, rfl⟩
  have symbolic : ∀ digits ∈ hexadecimalSeries, digits.toList.all isSymbolChar = true := by
    decide
  exact List.all_eq_true.mp (symbolic digits known) c (List.mem_of_getElem? found)

theorem hexadecimal?_iff {input rest : List Char} {v : Value} :
    hexadecimal? input = some (v, rest) ↔
      ∃ mark digits n x, input = mark :: (digits ++ rest) ∧ mark ∈ ['x', 'X'] ∧
        Numeral 16 hexadecimalSeries digits n ∧ Delimited rest ∧ v = .number x ∧
        x.toInt = (n : Int) := by
  constructor
  · intro h
    unfold hexadecimal? at h
    split at h
    · cases h
    next mark digits =>
    simp only at h
    split at h
    · cases h
    next good =>
    simp only [Bool.or_eq_true, Bool.and_eq_true, bne_iff_ne, Bool.not_eq_true', not_or, not_and,
      Bool.not_eq_true, Bool.not_eq_false] at good
    obtain ⟨⟨marked, some?⟩, delimited⟩ := good
    obtain ⟨x, value, same⟩ := Option.map_eq_some_iff.mp h
    cases same
    have ends := delimited_iff.mpr delimited
    obtain ⟨split, each⟩ := (run_iff (fun _ => isSymbolChar_of_isHexDigit) ends).mp ⟨rfl, rfl⟩
    have known : mark ∈ ['x', 'X'] := by
      simp only [List.mem_cons, List.not_mem_nil, or_false]
      exact Classical.or_iff_not_imp_left.mpr fun other => by simpa using marked other
    refine ⟨mark, _, _, x, by rw [← split], known, hexadecimal_numeral_iff.mpr ⟨?_, each, rfl⟩,
      ends, rfl, ?_⟩
    · exact List.isEmpty_eq_false_iff.mp some?
    · exact Number.ofInt?_eq_some_iff.mp value
  · rintro ⟨mark, digits, n, x, rfl, known, numeral, ends, rfl, value⟩
    obtain ⟨some?, each, rfl⟩ := hexadecimal_numeral_iff.mp numeral
    obtain ⟨run, left⟩ := (run_iff (fun _ => isSymbolChar_of_isHexDigit) ends).mpr ⟨rfl, each⟩
    have full : digits.isEmpty = false := List.isEmpty_eq_false_iff.mpr some?
    have marked : (mark != 'x' && mark != 'X') = false := by
      simp only [List.mem_cons, List.not_mem_nil, or_false] at known
      rcases known with rfl | rfl <;> decide
    simp only [hexadecimal?, run, left, full, marked, delimited_iff.mp ends, ← value,
      Number.ofInt?_eq_some_iff.mpr rfl]
    rfl

theorem symbol?_iff {input rest : List Char} {v : Value} :
    symbol? input = some (v, rest) ↔
      ∃ name, input = name ++ rest ∧ isSymbolName name = true ∧ Delimited rest ∧
        v = .symbol (String.ofList name) := by
  constructor
  · intro h
    simp only [symbol?] at h
    split at h
    · next good =>
      cases h
      obtain ⟨named, ends⟩ := Bool.and_eq_true_iff.mp good
      exact ⟨_, List.takeWhile_append_dropWhile.symm, named, delimited_iff.mpr ends, rfl⟩
    · cases h
  · rintro ⟨name, rfl, named, ends, rfl⟩
    exact symbol?_of_isSymbolName named (delimited_iff.mp ends)

/-- What is read after a mark for a boolean. -/
theorem of_boolean? {input rest : List Char} {v : Value} (h : boolean? input = some (v, rest)) :
    ∃ b, '#' :: input = (if b then ['#', 't'] else ['#', 'f']) ++ rest ∧ Delimited rest ∧
      v = .bool b := by
  unfold boolean? at h
  split at h
  · split at h
    · next ends => cases h; exact ⟨true, rfl, delimited_iff.mpr ends, rfl⟩
    · cases h
  · split at h
    · next ends => cases h; exact ⟨false, rfl, delimited_iff.mpr ends, rfl⟩
    · cases h
  · cases h

/-- Every atom that is read is one that the grammar derives. -/
theorem of_atom? {input rest : List Char} {v : Value} (h : atom? input = some (v, rest)) :
    ∃ text, input = text ++ rest ∧ Atom text v ∧ Delimited rest := by
  unfold atom? at h
  split at h
  · rcases Option.or_eq_some_iff.mp h with h | ⟨-, h⟩
    · obtain ⟨mark, digits, n, x, rfl, known, numeral, ends, rfl, value⟩ := hexadecimal?_iff.mp h
      exact ⟨'#' :: mark :: digits, rfl, .hexadecimal known numeral value, ends⟩
    · obtain ⟨b, split, ends, rfl⟩ := of_boolean? h
      exact ⟨_, split, .boolean b, ends⟩
  · rcases Option.or_eq_some_iff.mp h with h | ⟨-, h⟩
    · unfold decimal? at h
      split at h
      · obtain ⟨digits, n, x, rfl, numeral, ends, rfl, value⟩ := digits?_iff.mp h
        exact ⟨'-' :: digits, rfl, .negative numeral value, ends⟩
      · obtain ⟨digits, n, x, rfl, numeral, ends, rfl, value⟩ := digits?_iff.mp h
        exact ⟨digits, rfl, .decimal numeral value, ends⟩
    · obtain ⟨name, rfl, named, ends, rfl⟩ := symbol?_iff.mp h
      exact ⟨name, rfl, .symbol named, ends⟩

/-- A decimal number without a sign is read as a decimal number. -/
theorem atom?_decimal {digits rest : List Char} {n : Nat} {x : Int64}
    (h : Numeral 10 decimalSeries digits n) (value : x.toInt = (n : Int)) (ends : Delimited rest) :
    atom? (digits ++ rest) = some (.number x, rest) := by
  have read : digits? false (digits ++ rest) = some (.number x, rest) :=
    digits?_iff.mpr ⟨digits, n, x, rfl, h, ends, rfl, value⟩
  obtain ⟨some?, each, -⟩ := decimal_numeral_iff.mp h
  cases digits with
  | nil => exact absurd rfl some?
  | cons c digits =>
    have digit := each c List.mem_cons_self
    have hash : c ≠ '#' := by rintro rfl; exact absurd digit (by decide)
    have minus : c ≠ '-' := by rintro rfl; exact absurd digit (by decide)
    rw [List.cons_append] at read ⊢
    rw [atom?_of_ne hash, decimal?_of_ne minus, read]
    rfl

/-- An atom is read exactly if the grammar derives it and a delimiter or nothing follows. -/
theorem atom?_iff {input rest : List Char} {v : Value} :
    atom? input = some (v, rest) ↔ ∃ text, input = text ++ rest ∧ Atom text v ∧ Delimited rest := by
  refine ⟨of_atom?, ?_⟩
  rintro ⟨text, rfl, derived, ends⟩
  cases derived with
  | decimal h value => exact atom?_decimal h value ends
  | @negative digits n x h value =>
    have read : digits? true (digits ++ rest) = some (.number x, rest) :=
      digits?_iff.mpr ⟨digits, n, x, rfl, h, ends, rfl, value⟩
    rw [List.cons_append, atom?_of_ne (by decide), decimal?, read]
    rfl
  | @hexadecimal mark digits n x hm h value =>
    have read : hexadecimal? (mark :: (digits ++ rest)) = some (.number x, rest) :=
      hexadecimal?_iff.mpr ⟨mark, digits, n, x, rfl, hm, h, ends, rfl, value⟩
    show (hexadecimal? (mark :: (digits ++ rest))).or _ = _
    rw [read]
    rfl
  | boolean b => exact atom?_bool b (delimited_iff.mp ends)
  | symbol h => exact atom?_symbol h (delimited_iff.mp ends)

/-! Strings. -/

theorem escaped?_iff {l c : Char} : Text.Quoted.escaped? l = some c ↔ (l, c) ∈ escapes := by
  constructor
  · intro h
    unfold Text.Quoted.escaped? at h
    split at h <;> cases h <;> decide
  · intro h
    simp only [escapes, List.mem_cons, Prod.mk.injEq, List.not_mem_nil, or_false] at h
    rcases h with ⟨rfl, rfl⟩ | ⟨rfl, rfl⟩ | ⟨rfl, rfl⟩ | ⟨rfl, rfl⟩ | ⟨rfl, rfl⟩ <;> rfl

/-- A string whose opening quote mark has been read ends at the first quote mark that no
    backslash escapes. -/
theorem decode_iff {input content rest : List Char} :
    Text.Quoted.decode input = .ok (content, rest) ↔
      ∃ text, input = text ++ '"' :: rest ∧ Literal text content := by
  constructor
  · intro h
    fun_induction Text.Quoted.decode input generalizing content with
    | case1 => cases h
    | case2 => cases h; exact ⟨[], rfl, .nil⟩
    | case3 => cases h
    | case4 l after d escape _ ih =>
      cases read : Text.Quoted.decode after with
      | error left => rw [read] at h; cases h
      | ok r =>
        rw [read] at h
        cases h
        obtain ⟨text, rfl, literal⟩ := ih read
        exact ⟨'\\' :: l :: text, rfl, .escape (escaped?_iff.mp escape) literal⟩
    | case5 => cases h
    | case6 c after quote backslash ih =>
      cases read : Text.Quoted.decode after with
      | error left => rw [read] at h; cases h
      | ok r =>
        rw [read] at h
        cases h
        obtain ⟨text, rfl, literal⟩ := ih read
        exact ⟨c :: text, rfl, .plain quote backslash literal⟩
  · rintro ⟨text, rfl, literal⟩
    induction literal with
    | nil => exact Text.Quoted.decode_quote rest
    | plain quote backslash _ ih =>
      rw [List.cons_append, Text.Quoted.decode_plain quote backslash, ih]
      rfl
    | escape h _ ih =>
      rw [List.cons_append, List.cons_append, Text.Quoted.decode_escape (escaped?_iff.mpr h), ih]
      rfl

end MiniScheme.Reader
