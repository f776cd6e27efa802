import MiniScheme.Proofs.OwnText
import MiniScheme.Proofs.Positions
import MiniScheme.Proofs.Streams

/- Sources one after the other. If one source is read without a failure, then it,
   a line feed and another source give the expressions of the one and then the
   items of the other (`drain_append`). At the seam the last expression of the
   first source is read from its own text, since an atom may end before a line
   feed as it may at the end of a source; and a comment that the first source
   leaves open ends there. A failure keeps the text that was left, which is the
   end of the second source, and lies further on by the bytes before that. -/
namespace MiniScheme.Reader

open Grammar

/-- An atom may end before a line feed as it may at the end of a text. -/
theorem delimited_append {rest : List Char} (following : List Char) (h : Delimited rest) :
    Delimited (rest ++ '\n' :: following) := by
  cases rest with
  | nil =>
    intro c first
    cases first
    exact .inl (by decide)
  | cons c rest => exact h

/-- A text in which everything is skipped is skipped before a line feed, too. -/
theorem skipSpace_append {rest : List Char} (blank : skipSpace true rest = [])
    (following : List Char) :
    skipSpace true (rest ++ '\n' :: following) = skipSpace true following := by
  obtain ⟨gap, split, isGap⟩ := gap_of_skipSpace true rest
  rw [blank, List.append_nil] at split
  rw [blank] at isGap
  subst split
  have seam : Gap true rest ('\n' :: following) := by
    apply Gap.refollow isGap
    intro c first
    cases first
    exact .inr rfl
  calc skipSpace true (rest ++ '\n' :: following)
      = skipSpace true ('\n' :: following) := skipSpace_gap seam
    _ = skipSpace true following := skipSpace_gap (.space (by decide) .nil)

/-- Where skipping stops decides what is read. -/
theorem datum_of_same_start {input input' : List Char}
    (start : skipSpace true input' = skipSpace true input) :
    datum true maxNesting input' = datum true maxNesting input := by
  calc datum true maxNesting input'
      = datum true maxNesting (skipSpace true input') := (datum_skipSpace true 63 input').symm
    _ = datum true maxNesting (skipSpace true input) := by rw [start]
    _ = datum true maxNesting input := datum_skipSpace true 63 input

namespace Stream

/-- Where skipping stops decides what a stream gives. -/
theorem Yields.of_same_start {s s' : Stream} {items : List (Except Failure Value)}
    (h : s.Yields items) (ready : s.failed = false) (ready' : s'.failed = false)
    (start : skipSpace true s'.rest = skipSpace true s.rest) : s'.Yields items := by
  have same := datum_of_same_start start
  induction h generalizing s' with
  | done last => exact .done (next?_of_blank (start.trans (of_next?_none ready last)))
  | @more s after item items next more ih =>
    cases item with
    | ok v =>
      obtain ⟨rest, read, rfl⟩ := of_next?_ok next
      exact .more (next?_of_read ready' (same.trans read)) (ih ready ready' rfl rfl)
    | error failure =>
      obtain ⟨some?, failed, rfl⟩ := of_next?_error next
      obtain rfl := more.unique (yields_of_failed rfl)
      rw [← start] at some?
      exact .more (next?_of_failure ready' some? (same.trans failed)) (yields_of_failed rfl)

/-- The text that a failure leaves is the end of what there was to read. -/
theorem Yields.suffix {s : Stream} {items : List (Except Failure Value)} (h : s.Yields items) :
    ∀ failure, .error failure ∈ items → failure.rest <:+ s.rest := by
  induction h with
  | done => exact fun _ known => (nomatch known)
  | @more s after item items next more ih =>
    intro failure known
    have left := datum_left true maxNesting s.rest
    cases item with
    | ok v =>
      obtain ⟨rest, read, rfl⟩ := of_next?_ok next
      rw [read] at left
      have later : .error failure ∈ items := by simpa using known
      exact (ih failure later).trans left
    | error found =>
      obtain ⟨-, failed, rfl⟩ := of_next?_error next
      obtain rfl := more.unique (yields_of_failed rfl)
      cases List.mem_singleton.mp known
      rw [failed] at left
      exact left

/-- A text that is read without a failure, a line feed and another text give the expressions of
    the first and the items of the other. -/
theorem Yields.append {source source' source'' rest following : List Char}
    {items : List (Except Failure Value)} (others : Yields ⟨source', following, false⟩ items) :
    ∀ {vs : List Value}, Yields ⟨source, rest, false⟩ (vs.map Except.ok) →
      Yields ⟨source'', rest ++ '\n' :: following, false⟩ (vs.map Except.ok ++ items) := by
  intro vs
  induction vs generalizing rest with
  | nil =>
    intro h
    exact others.of_same_start rfl rfl (skipSpace_append (h.blank rfl) following)
  | cons v vs ih =>
    intro h
    rw [List.map_cons] at h
    cases h with
    | more next more =>
    obtain ⟨after, read, rfl⟩ := of_next?_ok next
    -- what was read is the text before what is left
    have left := datum_left true maxNesting rest
    rw [read] at left
    obtain ⟨taken, rfl⟩ := left
    have again := datum_refollow read (delimited_append following)
    rw [← List.append_assoc] at again
    exact .more (next?_of_read rfl again) (ih more)

end Stream

/-! The items of the sources as errors are told. -/

/-- The kind of an error does not depend on the source around the failure. -/
theorem toError_kind (failure : Failure) (source source' : List Char) :
    (failure.toError source).kind = (failure.toError source').kind := by
  unfold Failure.toError
  cases failure.cause with
  | nesting => rfl
  | malformed =>
    simp only
    split <;> rfl

/-- Items without an error are those of a stream without a failure. -/
theorem items_of_successes {told : Failure → ParseError} : ∀ {items : List (Except Failure Value)}
    {vs : List Value}, items.map (Except.mapError told) = vs.map Except.ok → items = vs.map Except.ok
  | [], [], _ => rfl
  | .ok w :: items, v :: vs, h => by
    obtain ⟨same, others⟩ := List.cons.inj h
    cases same
    rw [items_of_successes others]
    rfl
  | .error _ :: _, v :: vs, h => by cases (List.cons.inj h).1

/-- Reading is a homomorphism on sources. If the first source has no failure, the two sources with
    a line feed between them have the expressions of the first and then the items of the second. A
    failure of the second is a failure of both: it leaves the same text, which is the end of the
    second source, it is an error of the same kind, and it lies as many bytes further on as there
    are before the second source. -/
theorem drain_append (first second : String) {vs : List Value}
    (read : readAll first = vs.map Except.ok) :
    (Stream.ofText (first ++ "\n" ++ second)).drain =
        vs.map Except.ok ++ (Stream.ofText second).drain ∧
    ∀ failure, .error failure ∈ (Stream.ofText second).drain →
      failure.rest <:+ second.toList ∧
      (failure.toError (first ++ "\n" ++ second).toList).kind =
        (failure.toError second.toList).kind ∧
      offset (first ++ "\n" ++ second).toList failure.rest =
        offset second.toList failure.rest + (Text.byteLength first.toList + 1) := by
  have joined : (first ++ "\n" ++ second).toList = first.toList ++ '\n' :: second.toList := by
    simp
  constructor
  · have items := Stream.yields_drain (Stream.ofText first)
    rw [readAll_eq] at read
    rw [items_of_successes read] at items
    have both : Stream.Yields ⟨(first ++ "\n" ++ second).toList,
        first.toList ++ '\n' :: second.toList, false⟩ _ :=
      Stream.Yields.append (Stream.yields_drain (Stream.ofText second)) items
    rw [← joined] at both
    exact (Stream.yields_drain _).unique both
  · intro failure known
    have left : failure.rest <:+ second.toList := (Stream.yields_drain _).suffix failure known
    refine ⟨left, toError_kind _ _ _, ?_⟩
    have before : Text.byteLength (first.toList ++ ['\n']) = Text.byteLength first.toList + 1 :=
      byteLength_append _ _
    calc offset (first ++ "\n" ++ second).toList failure.rest
        = offset ((first.toList ++ ['\n']) ++ second.toList) failure.rest := by simp
      _ = offset second.toList failure.rest + Text.byteLength (first.toList ++ ['\n']) :=
          offset_append _ left
      _ = offset second.toList failure.rest + (Text.byteLength first.toList + 1) := by rw [before]

/-- The first source ends in an atom, and in a comment without a line feed; the second one ends
    inside a list. -/
theorem drain_append_seams :
    (readAll "(a) b" = [Value.list [.symbol "a"], .symbol "b"].map Except.ok ∧
      (Stream.ofText "(a) b\n1 (").drain =
        [.ok (.list [.symbol "a"]), .ok (.symbol "b"), .ok (.number 1), .error ⟨.malformed, []⟩] ∧
      offset "(a) b\n1 (".toList [] = offset "1 (".toList [] + 6) ∧
    (readAll "1 ; one" = [Value.number 1].map Except.ok ∧
      (Stream.ofText "1 ; one\n2").drain = [.ok (.number 1), .ok (.number 2)]) := by
  have atom : readAll "(a) b" = [Value.list [.symbol "a"], .symbol "b"].map Except.ok := rfl
  have comment : readAll "1 ; one" = [Value.number 1].map Except.ok := rfl
  have list : (Stream.ofText "1 (").drain = [.ok (.number 1), .error ⟨.malformed, []⟩] := rfl
  have number : (Stream.ofText "2").drain = [.ok (.number 2)] := rfl
  obtain ⟨items, failures⟩ := drain_append "(a) b" "1 (" atom
  obtain ⟨items', -⟩ := drain_append "1 ; one" "2" comment
  rw [list] at items failures
  rw [number] at items'
  obtain ⟨-, -, shifted⟩ := failures ⟨.malformed, []⟩ (by simp)
  exact ⟨⟨atom, items, shifted⟩, comment, items'⟩

end MiniScheme.Reader
