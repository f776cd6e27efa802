import MiniScheme.Reader.Datum

/- The expressions of a text one after the other. A stream knows the text that
   is left and whether it has failed; it gives one expression at a time, a
   failure at most once, and after that nothing. Comments are skipped. -/
namespace MiniScheme.Reader

/-- The expressions still to be read from a source. -/
structure Stream where
  source : List Char
  rest : List Char
  failed : Bool

namespace Stream

/-- A stream at the start of a text. -/
def ofText (text : String) : Stream := ⟨text.toList, text.toList, false⟩

/-- The next expression or failure, and the stream after it; none at the end of the text and
    after a failure. -/
def next? (s : Stream) : Option (Except Failure Value × Stream) :=
  if s.failed then none
  else
    match skipSpace true s.rest with
    | [] => none
    | start =>
      match datum true maxNesting start with
      | .ok (v, rest) => some (.ok v, { s with rest := rest })
      | .error failure => some (.error failure, { s with failed := true })

/-- At most `bound` further items of a stream. -/
def take : Nat → Stream → List (Except Failure Value)
  | 0, _ => []
  | bound + 1, s =>
    match s.next? with
    | none => []
    | some (item, s) => item :: take bound s

/-- All further items of a stream; each takes at least one character. -/
def drain (s : Stream) : List (Except Failure Value) := take (s.rest.length + 1) s

end Stream

/-- The expressions of a text in order, and at the end the error that stopped the reader, if
    any. -/
def readAll (text : String) : List (Except ParseError Value) :=
  (Stream.ofText text).drain.map fun
    | .ok v => .ok v
    | .error failure => .error (failure.toError text.toList)

/-- All expressions of a text, or the error that stopped the reader. -/
def parseAll (text : String) : Except ParseError (List Value) := (readAll text).mapM id

end MiniScheme.Reader
