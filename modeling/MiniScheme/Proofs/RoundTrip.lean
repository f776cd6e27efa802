import MiniScheme.Proofs.Atoms
import MiniScheme.Proofs.Readable
import MiniScheme.Value.Printed

/- Printing and reading. The printed form of a readable value starts with a
   character that is neither skipped nor a closing parenthesis
   (`printed_starts`), so it can be followed from any place inside a list. Read
   with some levels of nesting left, before any delimiter, it gives the value
   back if the value is lower than the levels, and otherwise fails for its
   nesting (`datum_printed`). Main statement: the reader reads the printed form
   of every readable value of height at most 63 as the value, refuses the higher
   ones as too deeply nested, and gives no other value (`parse_display`). With as
   many levels as two values are high, the same reading takes the printed forms of
   both apart, so they are different at any height (`printed_append_inj`,
   `display_inj`). -/
namespace MiniScheme.Reader

/-- The characters that are skipped, open or close something, or start a comment. -/
def punctuation : List Char := [' ', '\t', '\r', '\n', ';', ')', '(', '\'', '"']

/-- The character starts an atom other than a string. -/
def startsAtom (c : Char) : Bool := isSymbolChar c || c == '#'

/-- The character starts an expression: it is not skipped and closes no list. -/
def startsDatum (c : Char) : Bool := !isSpace c && c != ';' && c != ')'

theorem ne_of_startsAtom {c : Char} (h : startsAtom c = true) : ∀ d ∈ punctuation, c ≠ d := by
  have others : punctuation.all (!startsAtom ·) = true := by decide
  intro d hd same
  have no := List.all_eq_true.mp others d hd
  rw [← same, h] at no
  cases no

theorem startsDatum_of_startsAtom {c : Char} (h : startsAtom c = true) : startsDatum c = true := by
  have ne := ne_of_startsAtom h
  simp only [punctuation, List.mem_cons, List.not_mem_nil, or_false, forall_eq_or_imp,
    forall_eq] at ne
  simp [startsDatum, isSpace, ne]

theorem skipSpace_of_startsDatum {c : Char} (h : startsDatum c = true) (comments : Bool)
    (rest : List Char) : skipSpace comments (c :: rest) = c :: rest := by
  simp only [startsDatum, Bool.and_eq_true, Bool.not_eq_true', bne_iff_ne] at h
  obtain ⟨⟨space, semicolon⟩, -⟩ := h
  simp [skipSpace, skip, space, semicolon]

/-- Where an atom starts, an atom is read. -/
theorem datum_of_startsAtom {c : Char} (h : startsAtom c = true) (comments : Bool) (levels : Nat)
    (rest : List Char) : datum comments (levels + 1) (c :: rest) = atom (c :: rest) := by
  have ne := ne_of_startsAtom h
  rw [datum, skipSpace_of_startsDatum (startsDatum_of_startsAtom h)]
  split
  · next same => cases same
  · next same => cases same; exact absurd rfl (ne '(' (by decide))
  · next same => cases same; exact absurd rfl (ne '\'' (by decide))
  · next same => cases same; exact absurd rfl (ne '"' (by decide))
  · rfl

theorem startsAtom_of_symbolic {run : List Char} (some? : run ≠ [])
    (symbolic : ∀ c ∈ run, isSymbolChar c = true) :
    ∃ c cs, run = c :: cs ∧ startsAtom c = true := by
  cases run with
  | nil => exact absurd rfl some?
  | cons c cs =>
    have first := symbolic c List.mem_cons_self
    exact ⟨c, cs, rfl, by rw [startsAtom, first, Bool.true_or]⟩

theorem number_starts (n : Int64) :
    ∃ c cs, (Value.number n).printed = c :: cs ∧ startsAtom c = true := by
  rw [Value.printed_number]
  cases n.toInt with
  | ofNat k =>
    exact startsAtom_of_symbolic Nat.toDigits_ne_nil fun c hc =>
      isSymbolChar_of_isDigit (natDigits_isDigit k c hc)
  | negSucc k => exact ⟨'-', _, rfl, by decide⟩

theorem symbol_starts {name : String} (h : isSymbolName name.toList = true) :
    ∃ c cs, (Value.symbol name).printed = c :: cs ∧ startsAtom c = true := by
  rw [Value.printed_symbol]
  simp only [isSymbolName, Bool.and_eq_true, Bool.not_eq_true', List.all_eq_true] at h
  exact startsAtom_of_symbolic (List.isEmpty_eq_false_iff.mp h.1.1) h.2

theorem bool_starts (b : Bool) :
    ∃ c cs, (Value.bool b).printed = c :: cs ∧ startsAtom c = true := by
  cases b <;> exact ⟨'#', _, rfl, by decide⟩

/-- The printed form of a readable value starts an expression. -/
theorem printed_starts {v : Value} (h : v.readable = true) :
    ∃ c cs, v.printed = c :: cs ∧ startsDatum c = true := by
  have ofAtom : (∃ c cs, v.printed = c :: cs ∧ startsAtom c = true) →
      ∃ c cs, v.printed = c :: cs ∧ startsDatum c = true := by
    intro starts
    obtain ⟨c, cs, hp, first⟩ := starts
    exact ⟨c, cs, hp, startsDatum_of_startsAtom first⟩
  cases v with
  | number n => exact ofAtom (number_starts n)
  | symbol name => exact ofAtom (symbol_starts h)
  | string text => exact ⟨'"', _, Value.printed_string text, by decide⟩
  | bool b => exact ofAtom (bool_starts b)
  | list vs =>
    by_cases quotation : ∃ v, vs = [.symbol "quote", v]
    · obtain ⟨v, rfl⟩ := quotation
      exact ⟨'\'', _, Value.printed_quoted v, by decide⟩
    · exact ⟨'(', _, Value.printed_list fun v same => quotation ⟨v, same⟩, by decide⟩
  | primitive | procedure | unspecified => cases h

/-- Where an expression starts, an item of a list is read first. -/
theorem items_of_startsDatum {c : Char} (h : startsDatum c = true) (item : List Char → Result Value)
    (comments : Bool) (bound : Nat) (rest : List Char) :
    items item comments (bound + 1) (c :: rest) =
      match item (c :: rest) with
      | .error failure => .error failure
      | .ok (v, rest) =>
        match items item comments bound rest with
        | .error failure => .error failure
        | .ok (vs, rest) => .ok (v :: vs, rest) := by
  rw [items, skipSpace_of_startsDatum h]
  split
  · next same => cases same; cases h
  · rfl

/-- An item of a list is read first if the text starts with it. -/
theorem items_printed (item : List Char → Result Value) (comments : Bool) (bound : Nat) {v : Value}
    (h : v.readable = true) (rest : List Char) :
    items item comments (bound + 1) (v.printed ++ rest) =
      match item (v.printed ++ rest) with
      | .error failure => .error failure
      | .ok (v, rest) =>
        match items item comments bound rest with
        | .error failure => .error failure
        | .ok (vs, rest) => .ok (v :: vs, rest) := by
  obtain ⟨c, cs, hp, starts⟩ := printed_starts h
  rw [hp]
  exact items_of_startsDatum starts item comments bound _

/-- The text of the items after the first. -/
theorem printedItems_cons (v : Value) (vs : List Value) (rest : List Char) :
    ∃ others, Value.printedItems (v :: vs) = v.printed ++ others ∧
      atDelimiter (others ++ ')' :: rest) = true ∧
      ∀ item comments bound,
        items item comments (bound + 1) (others ++ ')' :: rest) =
          items item comments (bound + 1) (Value.printedItems vs ++ ')' :: rest) := by
  cases vs with
  | nil => exact ⟨[], by simp [Value.printedItems], rfl, fun _ _ _ => rfl⟩
  | cons w vs =>
    -- the blank before the next item is skipped
    refine ⟨' ' :: Value.printedItems (w :: vs), rfl, rfl, ?_⟩
    intro item comments bound
    rw [List.cons_append, items, items]
    rfl

theorem length_le_printedItems :
    ∀ {vs : List Value}, Value.allReadable vs = true → vs.length ≤ (Value.printedItems vs).length
  | [], _ => Nat.le_refl _
  | [v], h => by
    rw [Value.allReadable, Bool.and_eq_true] at h
    obtain ⟨c, cs, hp, -⟩ := printed_starts h.1
    simp [Value.printedItems, hp]
  | v :: w :: rest, h => by
    rw [Value.allReadable, Bool.and_eq_true] at h
    have others := length_le_printedItems h.2
    simp only [Value.printedItems, List.length_append, List.length_cons] at others ⊢
    omega

/-- A result gives a value and the text after it if the value is low enough, and otherwise a
    failure for its nesting. -/
structure Reads {α : Type} (result : Result α) (low : Prop) (a : α) (rest : List Char) : Prop where
  value : low → result = .ok (a, rest)
  nesting : ¬ low → ∃ left, result = .error ⟨.nesting, left⟩

/-- The items of a list are read back, up to its closing parenthesis. -/
theorem items_reads (comments : Bool) {item : List Char → Result Value} {levels : Nat}
    (each : ∀ v rest, v.readable = true → atDelimiter rest = true →
      Reads (item (v.printed ++ rest)) (v.height < levels) v rest) :
    ∀ (vs : List Value) (bound : Nat) (rest : List Char), Value.allReadable vs = true →
      vs.length < bound →
      Reads (items item comments bound (Value.printedItems vs ++ ')' :: rest))
        (∀ v ∈ vs, v.height < levels) vs rest
  | [], 0, _, _, short => absurd short (Nat.not_lt_zero _)
  | [], bound + 1, rest, _, _ => by
    have closed : skipSpace comments (')' :: rest) = ')' :: rest := by
      simp [skipSpace, skip, isSpace]
    refine ⟨?_, ?_⟩
    · intro _
      rw [Value.printedItems, List.nil_append, items, closed]
      rfl
    · intro high
      exact absurd (fun v hv => absurd hv List.not_mem_nil) high
  | v :: vs, 0, _, _, short => absurd short (Nat.not_lt_zero _)
  | v :: vs, 1, _, _, short => absurd short (by simp)
  | v :: vs, bound + 2, rest, good, short => by
    rw [Value.allReadable, Bool.and_eq_true] at good
    obtain ⟨others, hp, delimited, same⟩ := printedItems_cons v vs rest
    have first := each v _ good.1 delimited
    have following := items_reads comments each vs (bound + 1) rest good.2
      (Nat.lt_of_succ_lt_succ short)
    rw [hp, List.append_assoc, items_printed _ _ _ good.1]
    by_cases low : v.height < levels
    · rw [first.value low]
      simp only [same]
      refine ⟨?_, ?_⟩
      · intro all
        rw [following.value fun w hw => all w (List.mem_cons_of_mem v hw)]
      · intro high
        have beyond : ¬ ∀ w ∈ vs, w.height < levels := by
          intro all
          exact high (List.forall_mem_cons.mpr ⟨low, all⟩)
        obtain ⟨left, failed⟩ := following.nesting beyond
        exact ⟨left, by rw [failed]⟩
    · obtain ⟨left, failed⟩ := first.nesting low
      rw [failed]
      exact ⟨fun all => absurd (all v List.mem_cons_self) low, fun _ => ⟨left, rfl⟩⟩

theorem Reads.of_atom {v : Value} {comments : Bool} {levels : Nat} {rest : List Char}
    (starts : ∃ c cs, v.printed = c :: cs ∧ startsAtom c = true) (flat : v.height = 0)
    (found : atom? (v.printed ++ rest) = some (v, rest)) :
    Reads (datum comments (levels + 1) (v.printed ++ rest)) (v.height < levels + 1) v rest := by
  obtain ⟨c, cs, hp, first⟩ := starts
  refine ⟨?_, ?_⟩
  · intro _
    rw [hp] at found ⊢
    rw [List.cons_append, datum_of_startsAtom first, atom, ← List.cons_append, found]
  · intro high
    omega

theorem Reads.of_string (text : String) {comments : Bool} {levels : Nat} {rest : List Char} :
    Reads (datum comments (levels + 1) ((Value.string text).printed ++ rest))
      ((Value.string text).height < levels + 1) (.string text) rest := by
  have whole : (Value.string text).printed ++ rest =
      '"' :: (Text.Quoted.encode text.toList ++ '"' :: rest) := by
    simp [Value.printed_string, Text.Quoted.literal]
  refine ⟨?_, ?_⟩
  · intro _
    rw [whole, datum, skipSpace_of_startsDatum (by decide)]
    simp only [string, Text.Quoted.decode_encode, String.ofList_toList]
  · intro high
    exact absurd (Nat.succ_pos levels) high

/-- A quotation takes one level, like a list, though it prints without parentheses. -/
theorem Reads.of_quoted {v : Value} {comments : Bool} {levels : Nat} {rest : List Char}
    (inner : Reads (datum comments levels (v.printed ++ rest)) (v.height < levels) v rest) :
    Reads (datum comments (levels + 1) ((Value.quoted v).printed ++ rest))
      ((Value.quoted v).height < levels + 1) (.quoted v) rest := by
  rw [Value.printed_quoted, Value.height_quoted, List.cons_append, datum,
    skipSpace_of_startsDatum (by decide)]
  refine ⟨?_, ?_⟩
  · intro low
    simp only [inner.value (by omega)]
  · intro high
    obtain ⟨left, failed⟩ := inner.nesting (by omega)
    exact ⟨left, by simp only [failed]⟩

theorem Reads.of_list {vs : List Value} {comments : Bool} {levels : Nat} {rest : List Char}
    (good : Value.allReadable vs = true) (plain : ∀ v, vs ≠ [.symbol "quote", v])
    (each : ∀ v rest, v.readable = true → atDelimiter rest = true →
      Reads (datum comments levels (v.printed ++ rest)) (v.height < levels) v rest) :
    Reads (datum comments (levels + 1) ((Value.list vs).printed ++ rest))
      ((Value.list vs).height < levels + 1) (.list vs) rest := by
  -- every item takes a character at least, so the bound on the items is no bound here
  have enough : vs.length < (Value.printedItems vs ++ ')' :: rest).length + 1 := by
    have short := length_le_printedItems good
    rw [List.length_append]
    omega
  have inner := items_reads comments each vs _ rest good enough
  rw [Value.printed_list plain, Value.height_list_lt_iff, List.append_assoc, List.cons_append,
    datum, skipSpace_of_startsDatum (by decide)]
  refine ⟨?_, ?_⟩
  · intro low
    simp only [List.singleton_append, inner.value low]
  · intro high
    obtain ⟨left, failed⟩ := inner.nesting high
    exact ⟨left, by simp only [List.singleton_append, failed]⟩

/-- With some levels left, the printed form of a readable value before a delimiter is read as the
    value if it is lower than the levels, and fails for its nesting otherwise. -/
theorem datum_printed (comments : Bool) :
    ∀ (levels : Nat) (v : Value) (rest : List Char), v.readable = true → atDelimiter rest = true →
      Reads (datum comments levels (v.printed ++ rest)) (v.height < levels) v rest := by
  intro levels
  induction levels with
  | zero => exact fun v rest _ _ => ⟨fun low => absurd low (Nat.not_lt_zero _), fun _ => ⟨_, rfl⟩⟩
  | succ levels ih =>
    intro v rest good delimited
    cases v with
    | number n =>
      refine .of_atom (number_starts n) rfl ?_
      rw [Value.printed_number]
      exact atom?_number n delimited
    | symbol name =>
      refine .of_atom (symbol_starts good) rfl ?_
      rw [Value.printed_symbol, atom?_symbol good delimited, String.ofList_toList]
    | bool b =>
      refine .of_atom (bool_starts b) rfl ?_
      rw [Value.printed_bool]
      exact atom?_bool b delimited
    | string text => exact .of_string text
    | list vs =>
      by_cases quotation : ∃ v, vs = [.symbol "quote", v]
      · obtain ⟨v, rfl⟩ := quotation
        have inner : v.readable = true := Value.readable_quoted.symm.trans good
        exact .of_quoted (ih v rest inner delimited)
      · exact .of_list good (fun v same => quotation ⟨v, same⟩) ih
    | primitive | procedure | unspecified => cases good

/-- Printing and reading. A readable value at most 63 high is read back from its printed form, a
    higher one is refused as too deeply nested, and the reader gives exactly the readable values
    at most 63 high, whatever the text and whether comments are allowed or not. -/
theorem parse_display (comments : Bool) :
    (∀ v : Value, v.readable = true → v.height ≤ 63 →
      parse comments v.display.toList = .ok v) ∧
    (∀ v : Value, v.readable = true → 64 ≤ v.height →
      ∃ e, parse comments v.display.toList = .error e ∧ e.kind = .tooDeeplyNested) ∧
    (∀ v : Value, (∃ source, parse comments source = .ok v) ↔
      v.readable = true ∧ v.height ≤ 63) := by
  have whole (v : Value) (good : v.readable = true) :
      Reads (datum comments maxNesting v.display.toList) (v.height < maxNesting) v [] := by
    have read := datum_printed comments maxNesting v [] good rfl
    rwa [List.append_nil, ← String.toList_ofList (l := v.printed)] at read
  have back (v : Value) (good : v.readable = true) (low : v.height ≤ 63) :
      parse comments v.display.toList = .ok v := by
    rw [parse, (whole v good).value (Nat.lt_succ_of_le low)]
    rfl
  refine ⟨back, ?_, ?_⟩
  · intro v good high
    obtain ⟨left, failed⟩ := (whole v good).nesting (Nat.not_lt.mpr high)
    rw [parse, failed]
    exact ⟨_, rfl, rfl⟩
  · intro v
    constructor
    · intro some?
      obtain ⟨source, read⟩ := some?
      obtain ⟨good, low⟩ := readable_of_parse read
      exact ⟨good, Nat.le_of_lt_succ low⟩
    · intro reach
      exact ⟨_, back v reach.1 reach.2⟩

/-- A value inside a number of lists. -/
def tower : Nat → Value
  | 0 => .bool true
  | n + 1 => .list [tower n]

theorem readable_tower (n : Nat) : (tower n).readable = true := by
  induction n with
  | zero => rfl
  | succ n ih => rw [tower, Value.readable, Value.allReadable, ih]; rfl

theorem height_tower (n : Nat) : (tower n).height = n := by
  induction n with
  | zero => rfl
  | succ n ih =>
    rw [tower, Value.height, ih, Value.tallest]
    omega

/-- Data of every kind is read back, 63 lists are and 64 are refused. -/
theorem parse_display_tower :
    parse true (Value.display (.quoted (.list [.number (-9223372036854775808), .symbol "-",
        .string "a \"b\"\n", .list []]))).toList =
      .ok (.quoted (.list [.number (-9223372036854775808), .symbol "-", .string "a \"b\"\n",
        .list []])) ∧
    (parse false (tower 63).display.toList = .ok (tower 63)) ∧
    (∃ e, parse false (tower 64).display.toList = .error e ∧ e.kind = .tooDeeplyNested) ∧
    ¬ ∃ source, parse true source = .ok (tower 64) := by
  refine ⟨(parse_display true).1 _ (by decide) (by decide),
    (parse_display false).1 _ (readable_tower 63) (Nat.le_of_eq (height_tower 63)),
    (parse_display false).2.1 _ (readable_tower 64) (Nat.le_of_eq (height_tower 64).symm), ?_⟩
  intro reach
  have low := (((parse_display true).2.2 _).mp reach).2
  rw [height_tower] at low
  omega

/-- A text tells which readable value's printed form it starts with, and where that form ends, if a
    delimiter or nothing comes behind it. -/
theorem printed_append_inj {v w : Value} (hv : v.readable = true) (hw : w.readable = true)
    {rest rest' : List Char} (ends : atDelimiter rest = true) (ends' : atDelimiter rest' = true)
    (same : v.printed ++ rest = w.printed ++ rest') : v = w ∧ rest = rest' := by
  -- the limit of the reader does not matter here: so many levels are enough for both
  let levels := max v.height w.height + 1
  have first := (datum_printed false levels v rest hv ends).value
    (Nat.lt_succ_of_le (Nat.le_max_left ..))
  have second := (datum_printed false levels w rest' hw ends').value
    (Nat.lt_succ_of_le (Nat.le_max_right ..))
  rw [same, second] at first
  cases first
  exact ⟨rfl, rfl⟩

/-- Readable values of any height are printed in the same way only if they are the same. -/
theorem display_inj {v w : Value} (hv : v.readable = true) (hw : w.readable = true) :
    v.display = w.display ↔ v = w := by
  constructor
  · intro same
    have printed : v.printed = w.printed := String.ofList_injective same
    exact (printed_append_inj hv hw rfl rfl (congrArg (· ++ []) printed)).1
  · exact congrArg Value.display

/-- Beside a value that is too high for the reader, one string with quote marks inside is told from
    two strings, whose printed forms differ by backslashes only. -/
theorem display_inj_strings :
    let one : Value := .list [tower 64, .string "a\" \"b"]
    let two : Value := .list [tower 64, .string "a", .string "b"]
    one.readable = true ∧ two.readable = true ∧ one.display ≠ two.display := by
  intro one two
  have good : one.readable = true ∧ two.readable = true := by
    simp [one, two, Value.readable, Value.allReadable, readable_tower]
  refine ⟨good.1, good.2, fun same => ?_⟩
  have count := congrArg List.length (Value.list.inj ((display_inj good.1 good.2).mp same))
  cases count

end MiniScheme.Reader
