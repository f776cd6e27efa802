import MiniScheme.Proofs.Concatenation
import MiniScheme.Proofs.RoundTrip

/- Printed values on a line. The printed form of a readable value holds no line
   feed, which is escaped in a string and part of no symbol, and nothing at its two
   ends is blank (`printed_oneLine`, by recursion on the value). So do printed
   forms with spaces between them (`printedItems_oneLine`), and such a text is not
   changed by trimming (`OneLine.trim_eq`). The stream of the text reads one value
   after the other, each up to the space before the next (`yields_printedItems`).
   Main statement: a line of printed forms holds just the values
   (`readAll_printedLine`). -/
namespace MiniScheme

/-- A text without line feeds that starts and ends with characters that are not blank. -/
structure OneLine (text : List Char) : Prop where
  unbroken : '\n' ∉ text
  first : ∃ c rest, text = c :: rest ∧ Text.isBlank c = false
  last : ∃ before c, text = before ++ [c] ∧ Text.isBlank c = false

namespace OneLine

variable {text text' : List Char}

/-- A run of characters that start atoms. -/
theorem of_atom (some? : text ≠ []) (each : ∀ c ∈ text, Reader.startsAtom c = true) :
    OneLine text := by
  have visible : ∀ c ∈ text, Text.isBlank c = false := by
    intro c hc
    refine Bool.eq_false_iff.mpr fun blank => ?_
    have starts := each c hc
    rw [Reader.startsAtom, Reader.not_isSymbolChar_of_isBlank blank, Bool.false_or,
      beq_iff_eq] at starts
    subst starts
    exact absurd blank (by decide)
  refine ⟨fun broken => ?_, ?_, ?_⟩
  · exact absurd (visible '\n' broken) (by decide)
  · obtain ⟨c, rest, rfl⟩ := List.exists_cons_of_ne_nil some?
    exact ⟨c, rest, rfl, visible c List.mem_cons_self⟩
  · exact ⟨text.dropLast, text.getLast some?, (List.dropLast_concat_getLast some?).symm,
      visible _ (List.getLast_mem some?)⟩

/-- A text between two marks. -/
theorem enclosed {c d : Char} (hc : Text.isBlank c = false) (hd : Text.isBlank d = false)
    (unbroken : '\n' ∉ text) : OneLine (c :: text ++ [d]) := by
  have visible {m : Char} (hm : Text.isBlank m = false) : '\n' ≠ m := by
    rintro rfl
    exact absurd hm (by decide)
  refine ⟨?_, ⟨c, text ++ [d], rfl, hc⟩, ⟨c :: text, d, rfl, hd⟩⟩
  simp [visible hc, visible hd, unbroken]

/-- A quote mark in front of a line. -/
theorem quoted (h : OneLine text) : OneLine ('\'' :: text) := by
  obtain ⟨before, c, split, visible⟩ := h.last
  refine ⟨?_, ⟨'\'', text, rfl, by decide⟩, ⟨'\'' :: before, c, ?_, visible⟩⟩
  · simp [h.unbroken]
  · rw [split, List.cons_append]

/-- Two lines with a space between them. -/
theorem join (h : OneLine text) (h' : OneLine text') : OneLine (text ++ ' ' :: text') := by
  obtain ⟨c, rest, start, visible⟩ := h.first
  obtain ⟨before, d, stop, visible'⟩ := h'.last
  refine ⟨?_, ⟨c, rest ++ ' ' :: text', ?_, visible⟩, ⟨text ++ ' ' :: before, d, ?_, visible'⟩⟩
  · simp [h.unbroken, h'.unbroken]
  · rw [start, List.cons_append]
  · rw [stop, List.append_assoc, List.cons_append]

/-- Trimming changes nothing. -/
theorem trim_eq {line : String} (h : OneLine line.toList) : Text.trim line = line := by
  obtain ⟨c, rest, start, visible⟩ := h.first
  obtain ⟨before, d, stop, visible'⟩ := h.last
  have front : line.toList.dropWhile Text.isBlank = line.toList := by
    rw [start]
    exact List.dropWhile_cons_of_neg (by simp [visible])
  have back : line.toList.reverse.dropWhile Text.isBlank = line.toList.reverse := by
    rw [stop, List.reverse_append]
    exact List.dropWhile_cons_of_neg (by simp [visible'])
  rw [Text.trim, front, back, List.reverse_reverse, String.ofList_toList]

end OneLine

/-- A string is written without line feeds. -/
theorem Text.Quoted.not_mem_encode (text : List Char) : '\n' ∉ encode text := by
  intro broken
  obtain ⟨c, -, written⟩ := List.mem_flatMap.mp broken
  unfold encodeChar at written
  split at written
  · next l escape =>
    rcases List.mem_cons.mp written with same | last
    · cases same
    · cases List.mem_singleton.mp last
      cases escaped?_of_letter? escape
  · next plain =>
    cases List.mem_singleton.mp written
    cases plain

namespace Value

/-- Printed forms with spaces between them are a line if each of them is. -/
theorem printedItems_oneLine :
    ∀ {vs : List Value}, vs ≠ [] → (∀ v ∈ vs, OneLine v.printed) → OneLine (printedItems vs)
  | [], some?, _ => absurd rfl some?
  | [v], _, each => each v List.mem_cons_self
  | v :: w :: rest, _, each => by
    obtain ⟨first, others⟩ := List.forall_mem_cons.mp each
    exact first.join (printedItems_oneLine (List.cons_ne_nil w rest) others)

mutual

/-- The printed form of a readable value is one line. -/
theorem printed_oneLine : ∀ {v : Value}, v.readable = true → OneLine v.printed
  | .number n, _ => by
    have digits (k : Nat) : ∀ c ∈ Text.natDigits k, Reader.startsAtom c = true := by
      intro c hc
      have digit := Reader.isSymbolChar_of_isDigit (Reader.natDigits_isDigit k c hc)
      rw [Reader.startsAtom, digit, Bool.true_or]
    rw [printed_number]
    cases n.toInt with
    | ofNat k => exact .of_atom Nat.toDigits_ne_nil (digits k)
    | negSucc k =>
      refine .of_atom (List.cons_ne_nil _ _) ?_
      exact List.forall_mem_cons.mpr ⟨by decide, digits (k + 1)⟩
  | .symbol name, named => by
    simp only [readable, Reader.isSymbolName, Bool.and_eq_true, Bool.not_eq_true',
      List.all_eq_true] at named
    rw [printed_symbol]
    refine .of_atom (List.isEmpty_eq_false_iff.mp named.1.1) fun c hc => ?_
    rw [Reader.startsAtom, named.2 c hc, Bool.true_or]
  | .string text, _ => by
    rw [printed_string]
    exact .enclosed (by decide) (by decide) (Text.Quoted.not_mem_encode _)
  | .bool b, _ => by
    rw [printed_bool]
    cases b <;> exact .of_atom (List.cons_ne_nil _ _) (List.all_eq_true.mp rfl)
  | .list vs, good => by
    have each := printed_oneLine_of_mem good
    by_cases quotation : ∃ v, vs = [.symbol "quote", v]
    · obtain ⟨v, rfl⟩ := quotation
      exact (printed_quoted v ▸ (each v (by simp)).quoted)
    · rw [printed_list fun v same => quotation ⟨v, same⟩]
      refine .enclosed (by decide) (by decide) ?_
      by_cases none : vs = []
      · rw [none]
        exact List.not_mem_nil
      · exact (printedItems_oneLine none each).unbroken

theorem printed_oneLine_of_mem :
    ∀ {vs : List Value}, allReadable vs = true → ∀ v ∈ vs, OneLine v.printed
  | [], _ => nofun
  | v :: rest, good => by
    rw [allReadable, Bool.and_eq_true] at good
    exact List.forall_mem_cons.mpr ⟨printed_oneLine good.1, printed_oneLine_of_mem good.2⟩

end

/-- What stands on a line of printed forms is a space or stands in one of them. -/
theorem mem_of_mem_printedItems {c : Char} (visible : c ≠ ' ') :
    ∀ {vs : List Value}, c ∈ printedItems vs → ∃ v ∈ vs, c ∈ v.printed
  | [], hc => by cases hc
  | [v], hc => ⟨v, List.mem_cons_self, hc⟩
  | v :: w :: rest, hc => by
    rw [printedItems] at hc
    rcases List.mem_append.mp hc with first | later
    · exact ⟨v, List.mem_cons_self, first⟩
    · have others := (List.mem_cons.mp later).resolve_left visible
      obtain ⟨u, hu, inside⟩ := mem_of_mem_printedItems visible others
      exact ⟨u, List.mem_cons_of_mem v hu, inside⟩

/-- Printed forms joined by spaces stand as items of a list do. -/
theorem printedLine_eq (vs : List Value) :
    (" ".intercalate (vs.map display)).toList = printedItems vs := by
  rw [String.toList_intercalate, List.map_map]
  show [' '].intercalate (vs.map fun v => v.display.toList) = _
  induction vs with
  | nil => rfl
  | cons v rest ih =>
    cases rest with
    | nil => simp [printedItems, display]
    | cons w rest =>
      rw [List.map_cons] at ih
      rw [List.map_cons, List.map_cons, List.intercalate_cons_cons, ih, printedItems, display,
        String.toList_ofList, List.append_assoc, List.singleton_append]

end Value

namespace Reader

/-- The values are read one after the other, each up to the space before the next one. -/
theorem yields_printedItems (source : List Char) :
    ∀ vs : List Value, (∀ v ∈ vs, v.readable = true ∧ v.height < maxNesting) →
      Stream.Yields ⟨source, Value.printedItems vs, false⟩ (vs.map Except.ok)
  | [], _ => .done rfl
  | [v], good => by
    obtain ⟨readable, low⟩ := good v List.mem_cons_self
    have read := (datum_printed true maxNesting v [] readable rfl).value low
    rw [List.append_nil] at read
    exact .more (Stream.next?_of_read rfl read) (.done rfl)
  | v :: w :: rest, good => by
    obtain ⟨⟨readable, low⟩, others⟩ := List.forall_mem_cons.mp good
    have read := (datum_printed true maxNesting v (' ' :: Value.printedItems (w :: rest)) readable
      rfl).value low
    refine .more (Stream.next?_of_read rfl read) ?_
    exact (yields_printedItems source (w :: rest) others).of_same_start rfl rfl rfl

/-- A line of printed forms with spaces between them holds the values, and nothing else. -/
theorem readAll_printedLine {vs : List Value}
    (good : ∀ v ∈ vs, v.readable = true ∧ v.height < maxNesting) :
    readAll (" ".intercalate (vs.map Value.display)) = vs.map Except.ok := by
  have items : (Stream.ofText (" ".intercalate (vs.map Value.display))).Yields
      (vs.map Except.ok) := by
    have yields := yields_printedItems (Value.printedItems vs) vs good
    rwa [← Value.printedLine_eq] at yields
  rw [readAll_of_yields items, List.map_map]
  rfl

end Reader

end MiniScheme
