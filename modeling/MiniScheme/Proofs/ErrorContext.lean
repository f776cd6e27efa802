import MiniScheme.Proofs.Viability

/- The text that an error shows. An excerpt of a source around a place is a run of
   at most a hundred characters that starts twenty characters before the place, or
   at the start, with the text before and the text after it (`Excerpt`). Its
   context is the run with a mark for each of the two that there is, put on one
   line. The window of an error is the context of the excerpt (`window_eq_context`),
   and the character at the place is in it (`shown_place`). The place is right
   because the text that is left is an end of the source whenever reading fails
   (`unread_suffix`), so it starts between two characters, where the characters
   before it can be counted. Main statement: every error of reading a text shows
   the place where the text that is left starts (`error_shows_place`). -/
namespace MiniScheme.Reader

/-- The text on one line: a line feed becomes a backslash and an `n`, carriage returns are left
    out. -/
def oneLine (text : List Char) : List Char :=
  (text.flatMap fun c => if c = '\n' then ['\\', 'n'] else [c]).filter (· ≠ '\r')

/-- A part of a source around the place that has `place` characters before it. -/
structure Excerpt (source : List Char) (place : Nat) where
  before : List Char
  shown : List Char
  after : List Char
  split : source = before ++ (shown ++ after)
  start : before.length = place - 20
  short : shown.length ≤ 100
  /-- Text is left out behind the excerpt only if the excerpt is full. -/
  full : after ≠ [] → shown.length = 100

/-- The excerpt on one line, with marks for the text that it leaves out. -/
def Excerpt.context {source : List Char} {place : Nat} (x : Excerpt source place) : List Char :=
  oneLine ((if 20 < place then "[...]".toList else []) ++ x.shown ++
    (if x.after ≠ [] then "[...]".toList else []))

/-- The error is about the place where the text that is left of a source starts, which is counted
    in whole characters, and its context is that of an excerpt around the place. The first
    character that is left, if there is one, is in the excerpt, and the context is one line. -/
def ShowsPlace (source left : List Char) (e : ParseError) : Prop :=
  ∃ read, source = read ++ left ∧
    e = .atOffset e.kind e.message source (offset source left) ∧
    ParseError.charsWithin? source (offset source left) = some read.length ∧
    ∃ x : Excerpt source read.length,
      e.context? = some (String.ofList x.context) ∧
      x.shown[min read.length 20]? = left.head? ∧
      '\n' ∉ x.context ∧ '\r' ∉ x.context

/-! Texts on one line. -/

theorem flatMap_onOneLine (text : List Char) :
    text.flatMap ParseError.onOneLine = oneLine text := by
  unfold oneLine
  rw [List.filter_flatMap]
  congr 1
  funext c
  unfold ParseError.onOneLine
  by_cases lineFeed : c = '\n'
  · simp [lineFeed]
  · by_cases return? : c = '\r' <;> simp [lineFeed, return?]

theorem not_mem_oneLine (text : List Char) : '\n' ∉ oneLine text ∧ '\r' ∉ oneLine text := by
  unfold oneLine
  constructor
  · intro broken
    obtain ⟨c, -, here⟩ := List.mem_flatMap.mp (List.mem_filter.mp broken).1
    by_cases lineFeed : c = '\n'
    · simp [lineFeed] at here
    · have same : '\n' = c := by simpa [lineFeed] using here
      exact lineFeed same.symm
  · intro returned
    simpa using (List.mem_filter.mp returned).2

/-! Excerpts. -/

namespace Excerpt

/-- The excerpt around a place of a source. -/
def around (source : List Char) {place : Nat} (inside : place ≤ source.length) :
    Excerpt source place where
  before := source.take (place - 20)
  shown := (source.drop (place - 20)).take 100
  after := (source.drop (place - 20)).drop 100
  split := by rw [List.take_append_drop, List.take_append_drop]
  start := by
    rw [List.length_take]
    omega
  short := List.length_take_le _ _
  full := by
    intro more
    have longer := List.length_pos_iff.mpr more
    rw [List.length_drop] at longer
    rw [List.length_take]
    omega

variable {source : List Char} {place : Nat}

/-- The excerpt is what a window shows. -/
theorem shown_eq (x : Excerpt source place) : (source.drop (place - 20)).take 100 = x.shown := by
  have behind : source.drop (place - 20) = x.shown ++ x.after :=
    calc source.drop (place - 20)
        = (x.before ++ (x.shown ++ x.after)).drop x.before.length := by rw [x.start, ← x.split]
      _ = x.shown ++ x.after := List.drop_left
  rw [behind]
  by_cases more : x.after = []
  · rw [more, List.append_nil, List.take_of_length_le x.short]
  · rw [← x.full more, List.take_left]

/-- Text is left out behind the excerpt exactly if the source goes on there. -/
theorem after_ne_nil_iff (x : Excerpt source place) :
    place - 20 + x.shown.length < source.length ↔ x.after ≠ [] := by
  have size : source.length = place - 20 + (x.shown.length + x.after.length) := by
    rw [← x.start, ← List.length_append, ← List.length_append, ← x.split]
  rw [← List.length_pos_iff]
  omega

theorem window_eq_context (x : Excerpt source place) :
    ParseError.window source place = x.context := by
  have start : 0 < place - 20 ↔ 20 < place := by omega
  show ((if 0 < place - 20 then "[...]".toList else []) ++ (source.drop (place - 20)).take 100 ++
    (if place - 20 + ((source.drop (place - 20)).take 100).length < source.length
      then "[...]".toList else [])).flatMap ParseError.onOneLine = _
  rw [flatMap_onOneLine, x.shown_eq]
  simp only [context, start, x.after_ne_nil_iff]

/-- The character at the place is in the excerpt, at most twenty characters behind its start. -/
theorem shown_place (x : Excerpt source place) : x.shown[min place 20]? = source[place]? := by
  have back : place = x.before.length + min place 20 := by
    rw [x.start]
    omega
  have whole : source[place]? = (x.shown ++ x.after)[min place 20]? :=
    calc source[place]?
        = (x.before ++ (x.shown ++ x.after))[x.before.length + min place 20]? := by
          rw [← back, ← x.split]
      _ = (x.shown ++ x.after)[min place 20]? := by
          rw [List.getElem?_append_right (Nat.le_add_right _ _), Nat.add_sub_cancel_left]
  rw [whole]
  by_cases inside : min place 20 < x.shown.length
  · rw [List.getElem?_append_left inside]
  · -- an excerpt as short as that is the end of the source
    have last : x.after = [] := by
      by_contra more
      have := x.full more
      omega
    rw [last, List.append_nil]

end Excerpt

/-! Where reading fails. -/

/-- What is left when reading a source fails is an end of the source. -/
theorem unread_suffix (comments : Bool) (source : List Char) :
    unread comments source <:+ source := by
  have behind := datum_left comments maxNesting source
  unfold unread
  cases read : datum comments maxNesting source with
  | error failure =>
    rw [read] at behind
    exact behind
  | ok result =>
    rw [read] at behind
    exact (skipSpace_suffix comments result.2).trans behind

/-- An error of reading one expression is about the place where the text that is left starts. -/
theorem parse_error_atOffset {comments : Bool} {source : List Char} {e : ParseError}
    (failed : parse comments source = .error e) :
    e = .atOffset e.kind e.message source (offset source (unread comments source)) := by
  unfold parse at failed
  unfold unread
  cases read : datum comments maxNesting source with
  | error failure =>
    rw [read] at failed
    cases failed
    exact failure.toError_atOffset source
  | ok result =>
    rw [read] at failed
    simp only at failed
    split at failed
    · cases failed
    · cases failed
      rfl

/-- An error about the place where an end of the source starts shows the place. -/
theorem showsPlace {source left : List Char} {e : ParseError} (behind : left <:+ source)
    (place : e = .atOffset e.kind e.message source (offset source left)) :
    ShowsPlace source left e := by
  obtain ⟨read, split⟩ := behind
  have counted : ParseError.charsWithin? source (offset source left) = some read.length := by
    rw [← split, offset_of_append, charsWithin?_byteLength]
  have inside : read.length ≤ source.length := by
    rw [← split, List.length_append]
    omega
  let x := Excerpt.around source inside
  have shown : e.context? = some (String.ofList x.context) := by
    rw [place, ParseError.atOffset, counted, Option.getD_some, x.window_eq_context]
  have first : x.shown[min read.length 20]? = left.head? := by
    rw [x.shown_place, List.head?_eq_getElem?]
    conv => lhs; rw [← split]
    rw [List.getElem?_append_right (Nat.le_refl _), Nat.sub_self]
  exact ⟨read, split.symm, place, counted, x, shown, first, not_mem_oneLine _⟩

/-- Every error of reading a text shows the place where the text that is left starts, both if the
    text is read as one expression and if its expressions are read one after the other. -/
theorem error_shows_place (source : String) :
    (∀ comments e, parse comments source.toList = .error e →
      ShowsPlace source.toList (unread comments source.toList) e) ∧
    ∀ e, .error e ∈ readAll source →
      ∃ failure, .error failure ∈ (Stream.ofText source).drain ∧
        e = failure.toError source.toList ∧ ShowsPlace source.toList failure.rest e := by
  constructor
  · intro comments e failed
    exact showsPlace (unread_suffix comments source.toList) (parse_error_atOffset failed)
  · intro e told
    rw [readAll_eq] at told
    obtain ⟨item, known, same⟩ := List.mem_map.mp told
    cases item with
    | ok v => cases same
    | error failure =>
      cases same
      have behind := (Stream.ofText source).yields_drain.suffix failure known
      exact ⟨failure, known, rfl, showsPlace behind (failure.toError_atOffset source.toList)⟩

/-- What is told of a text without its value: of an error, the kind and the context. -/
def told (result : Except ParseError Value) :
    Except (ParseError.Kind × Option String) Unit :=
  (result.map fun _ => ()).mapError fun e => (e.kind, e.context?)

theorem of_told_error {result : Except ParseError Value} {kind : ParseError.Kind}
    {context? : Option String} (h : told result = .error (kind, context?)) :
    ∃ e, result = .error e ∧ e.kind = kind ∧ e.context? = context? := by
  cases result with
  | ok v => cases h
  | error e =>
    cases h
    exact ⟨e, rfl, rfl, rfl⟩

/-- Trailing text behind letters of two bytes and a line end in a string: as one expression the
    source has text left over, and as a run of expressions it fails there. -/
theorem error_shows_place_trailing :
    let source := "(display \"ééééé\r\n\" 'x)) tail"
    let left := ") tail".toList
    let context := "[...]isplay \"ééééé\\n\" 'x)) tail"
    (∃ e, parse false source.toList = .error e ∧ ShowsPlace source.toList left e ∧
      e.kind = .trailingContent ∧ e.context? = some context) ∧
    ∃ e, .error e ∈ readAll source ∧
      (∃ failure, .error failure ∈ (Stream.ofText source).drain ∧
        e = failure.toError source.toList ∧ ShowsPlace source.toList failure.rest e) ∧
      e.kind = .invalidSyntax ∧ e.context? = some context := by
  intro source left context
  obtain ⟨whole, each⟩ := error_shows_place source
  have unreadLeft : unread false source.toList = left := by decide +kernel
  constructor
  · have shown : told (parse false source.toList) = .error (.trailingContent, some context) := by
      decide +kernel
    obtain ⟨e, failed, kind, same⟩ := of_told_error shown
    have place := whole false e failed
    rw [unreadLeft] at place
    exact ⟨e, failed, place, kind, same⟩
  · have shown : (readAll source)[1]?.map told = some (.error (.invalidSyntax, some context)) := by
      decide +kernel
    obtain ⟨item, found, last⟩ := Option.map_eq_some_iff.mp shown
    obtain ⟨e, rfl, kind, same⟩ := of_told_error last
    have known := List.mem_of_getElem? found
    exact ⟨e, known, each e known, kind, same⟩

end MiniScheme.Reader
