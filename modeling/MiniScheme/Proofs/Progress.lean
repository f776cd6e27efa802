import Mathlib.Logic.Function.Iterate
import MiniScheme.Proofs.OwnText
import MiniScheme.Proofs.Positions
import MiniScheme.Proofs.Streams

/- Reading goes forward. Skipping leaves the end of a text, and skips nothing when
   it is done again (`skipSpace_skipSpace`). Reading an expression leaves the end of
   the text, too, and less than there was, unless it fails (`datum_advances`). A
   stream makes one such step at a call (`call_cases`), so over all calls its rest is
   an end of the source (`rest_afterCalls`); a stream that gives nothing stays as it
   is (`afterCalls_of_ended`), and what is left pays for the items with a character
   each (`Yields.length_le`). Main statement: how the reader moves through its input,
   and the stream of a text from call to call (`reading_advances`). -/
namespace MiniScheme.Reader

open Grammar

/-- A reading leaves the end of the input, and a part of it only if it succeeds. -/
def Advances {α : Type} (input : List Char) : Result α → Prop
  | .ok (_, rest) => rest <:+ input ∧ rest.length < input.length
  | .error failure => failure.rest <:+ input

/-- Nothing is left to skip after skipping. -/
theorem skipSpace_skipSpace (comments : Bool) (input : List Char) :
    skipSpace comments (skipSpace comments input) = skipSpace comments input := by
  obtain ⟨gap, split, isGap⟩ := gap_of_skipSpace comments input
  calc skipSpace comments (skipSpace comments input)
      = skipSpace comments (gap ++ skipSpace comments input) := (skipSpace_gap isGap).symm
    _ = skipSpace comments input := by rw [← split]

theorem datum_advances (comments : Bool) (levels : Nat) (input : List Char) :
    Advances input (datum comments levels input) := by
  have behind := datum_left comments levels input
  cases read : datum comments levels input with
  | ok result =>
    rw [read] at behind
    exact ⟨behind, length_lt_of_datum read⟩
  | error failure =>
    rw [read] at behind
    exact behind

namespace Stream

/-- Where the rest of a stream starts in its source, in bytes. -/
def position (s : Stream) : Nat := offset s.source s.rest

/-- Asks a stream once: what it gives, if anything, and the stream for the next time. -/
def call (s : Stream) : Option (Except Failure Value) × Stream :=
  match s.next? with
  | none => (none, s)
  | some (item, after) => (some item, after)

/-- The stream after a number of calls. -/
def afterCalls (s : Stream) (n : Nat) : Stream := (fun s => s.call.2)^[n] s

/-- What the stream gives when it has been called a number of times before. -/
def answer? (s : Stream) (n : Nat) : Option (Except Failure Value) := (s.afterCalls n).call.1

/-! One call. -/

theorem call_of_ended {s : Stream} (h : s.next? = none) : s.call = (none, s) := by
  rw [call, h]

theorem call_of_next? {s after : Stream} {item : Except Failure Value}
    (h : s.next? = some (item, after)) : s.call = (some item, after) := by
  rw [call, h]

/-- A call gives nothing and changes nothing, gives an expression and goes forward, or gives a
    failure, after which the stream gives nothing. -/
theorem call_cases (s : Stream) :
    (s.next? = none ∧ s.call = (none, s)) ∨
    (∃ v rest, rest <:+ s.rest ∧ rest.length < s.rest.length ∧
      s.call = (some (.ok v), { s with rest := rest })) ∨
    (∃ failure, s.rest ≠ [] ∧ s.call = (some (.error failure), { s with failed := true })) := by
  by_cases failed : s.failed = true
  · have ended := next?_of_failed failed
    exact .inl ⟨ended, call_of_ended ended⟩
  have forward := datum_advances true maxNesting s.rest
  rcases s.next?_cases (Bool.eq_false_iff.mpr failed) with
    ⟨-, ended⟩ | ⟨v, rest, read, next⟩ | ⟨failure, some?, -, next⟩
  · exact .inl ⟨ended, call_of_ended ended⟩
  · rw [read] at forward
    exact .inr (.inl ⟨v, rest, forward.1, forward.2, call_of_next? next⟩)
  · refine .inr (.inr ⟨failure, fun none => some? ?_, call_of_next? next⟩)
    rw [none]
    rfl

/-! All calls. -/

theorem afterCalls_succ (s : Stream) (n : Nat) : s.afterCalls (n + 1) = (s.afterCalls n).call.2 :=
  Function.iterate_succ_apply' _ n s

/-- A stream that gives nothing stays as it is. -/
theorem afterCalls_of_ended {s : Stream} (h : s.next? = none) (n : Nat) : s.afterCalls n = s := by
  apply Function.iterate_fixed
  rw [call_of_ended h]

/-- The source stays the same, and the rest is an end of what there was. -/
theorem rest_afterCalls (s : Stream) (n : Nat) :
    (s.afterCalls n).source = s.source ∧ (s.afterCalls n).rest <:+ s.rest := by
  induction n with
  | zero => exact ⟨rfl, List.suffix_refl _⟩
  | succ n ih =>
    rw [afterCalls_succ]
    rcases (s.afterCalls n).call_cases with ⟨-, given⟩ | ⟨v, rest, left, -, given⟩ |
      ⟨failure, -, given⟩
    · rw [given]
      exact ih
    · rw [given]
      exact ⟨ih.1, left.trans ih.2⟩
    · rw [given]
      exact ih

/-- The answers to the calls are the items, and after these there are none. -/
theorem Yields.answer? {s : Stream} {items : List (Except Failure Value)} (h : s.Yields items)
    (n : Nat) : s.answer? n = items[n]? := by
  induction h generalizing n with
  | @done s ended =>
    show (s.afterCalls n).call.1 = _
    rw [afterCalls_of_ended ended, call_of_ended ended]
    rfl
  | @more s after item items next _ ih =>
    have given := call_of_next? next
    cases n with
    | zero =>
      show s.call.1 = _
      rw [given]
      rfl
    | succ n =>
      have later : s.afterCalls (n + 1) = s.call.2.afterCalls n := rfl
      show (s.afterCalls (n + 1)).call.1 = _
      rw [later, given, List.getElem?_cons_succ]
      exact ih n

/-- Every item takes up a character at least. -/
theorem Yields.length_le {s : Stream} {items : List (Except Failure Value)} (h : s.Yields items) :
    items.length ≤ s.rest.length := by
  induction h with
  | done => exact Nat.zero_le _
  | @more s after item items next rest ih =>
    have given := call_of_next? next
    rcases s.call_cases with ⟨-, none⟩ | ⟨v, left, -, shorter, read⟩ | ⟨failure, some?, failed⟩
    · cases none.symm.trans given
    · cases read.symm.trans given
      simp only [List.length_cons] at ih ⊢
      omega
    · cases failed.symm.trans given
      obtain rfl := rest.unique (yields_of_failed rfl)
      exact List.length_pos_iff.mpr some?

/-- At most the last item is a failure. -/
theorem Yields.failure_last {s : Stream} {items : List (Except Failure Value)} (h : s.Yields items)
    {n : Nat} {failure : Failure} (found : items[n]? = some (.error failure)) :
    n + 1 = items.length := by
  induction h generalizing n with
  | done => cases found
  | more next rest ih =>
    cases n with
    | zero =>
      cases Option.some.inj found
      obtain ⟨-, -, rfl⟩ := of_next?_error next
      obtain rfl := rest.unique (yields_of_failed rfl)
      rfl
    | succ n =>
      rw [List.getElem?_cons_succ] at found
      rw [List.length_cons, ih found]

/-- What holds of a stream over all calls. -/
structure Progresses (s : Stream) : Prop where
  /-- The position is the byte length of the part of the source that was read. -/
  place : ∀ n, ∃ read, s.source = read ++ (s.afterCalls n).rest ∧
    (s.afterCalls n).position = Text.byteLength read
  /-- The source can be cut at the position, which gives the rest. -/
  cut : ∀ n, textFrom? s.source (s.afterCalls n).position = some (s.afterCalls n).rest
  forward : ∀ n v, s.answer? n = some (.ok v) →
    (s.afterCalls n).position < (s.afterCalls (n + 1)).position
  /-- Draining a stream gives the answers to its calls up to the first call without one. -/
  drained : ∀ n, s.answer? n = s.drain[n]?
  few : s.drain.length ≤ s.source.length
  last : ∀ n failure, s.drain[n]? = some (.error failure) → n + 1 = s.drain.length
  ended : ∀ n, s.answer? n = none ∨ (∃ failure, s.answer? n = some (.error failure)) →
    ∀ m, n < m → s.answer? m = none

theorem place_afterCalls {s : Stream} (behind : s.rest <:+ s.source) (n : Nat) :
    ∃ read, s.source = read ++ (s.afterCalls n).rest ∧
      (s.afterCalls n).position = Text.byteLength read := by
  obtain ⟨source, left⟩ := s.rest_afterCalls n
  obtain ⟨read, split⟩ := left.trans behind
  refine ⟨read, split.symm, ?_⟩
  rw [position, source, ← split, offset_of_append]

/-- An expression that is given moves the position forward. -/
theorem position_lt {s : Stream} (behind : s.rest <:+ s.source) {v : Value}
    (given : s.call.1 = some (.ok v)) : s.position < s.call.2.position := by
  rcases s.call_cases with ⟨-, none⟩ | ⟨w, rest, left, shorter, read⟩ | ⟨failure, -, failed⟩
  · rw [none] at given
    cases given
  · rw [read]
    exact offset_lt_offset behind left shorter
  · rw [failed] at given
    cases given

theorem progresses {s : Stream} (behind : s.rest <:+ s.source) : s.Progresses := by
  have items := s.yields_drain
  have last := fun n failure => @Yields.failure_last s s.drain items n failure
  refine ⟨place_afterCalls behind, fun n => ?cut, fun n v given => ?forward, items.answer?, ?few,
    last, fun n none m later => ?ended⟩
  case cut =>
    obtain ⟨read, split, size⟩ := place_afterCalls behind n
    exact textFrom?_eq_some_iff.mpr ⟨read, split, size.symm⟩
  case forward =>
    obtain ⟨source, left⟩ := s.rest_afterCalls n
    have behind' : (s.afterCalls n).rest <:+ (s.afterCalls n).source := by
      rw [source]
      exact left.trans behind
    rw [afterCalls_succ]
    exact position_lt behind' given
  case few => exact Nat.le_trans items.length_le behind.length_le
  case ended =>
    -- in both cases there are no more items than `n + 1`
    rw [items.answer?] at none ⊢
    rw [List.getElem?_eq_none_iff]
    rcases none with none | ⟨failure, failed⟩
    · have short := List.getElem?_eq_none_iff.mp none
      omega
    · have short := last n failure failed
      omega

end Stream

/-- Reading goes forward. What is skipped is a gap, so skipping always ends with the end of the
    input, and skips nothing when done again. At any depth an expression leaves a shorter end of
    the input, and a failure leaves an end. So the stream of a text moves on with each expression
    from one place between characters to the next, gives no more items than the text has
    characters, at most the last of which is a failure, and when it has given nothing or a failure
    it gives nothing from then on. -/
theorem reading_advances (comments : Bool) (depth : Nat) (input : List Char) (text : String) :
    (∃ gap, input = gap ++ skipSpace comments input ∧
      Gap comments gap (skipSpace comments input)) ∧
    skipSpace comments (skipSpace comments input) = skipSpace comments input ∧
    Advances input (datum comments (maxNesting - depth) input) ∧
    (Stream.ofText text).Progresses := by
  refine ⟨gap_of_skipSpace comments input, skipSpace_skipSpace comments input, ?_, ?_⟩
  · exact datum_advances comments (maxNesting - depth) input
  · exact Stream.progresses (List.suffix_refl text.toList)

/-- Characters of two bytes, and a failure at the end. -/
example :
    let s := Stream.ofText "é 'ü )"
    (s.afterCalls 1).position = 2 ∧ (s.afterCalls 2).position = 6 ∧
      s.answer? 2 = some (.error ⟨.malformed, [')']⟩) ∧ s.answer? 3 = none :=
  ⟨rfl, rfl, rfl, rfl⟩

end MiniScheme.Reader
