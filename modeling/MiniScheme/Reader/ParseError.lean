/- Errors of the reader: their kind, a message, and a window of the text around
   the place of failure. The window starts at most twenty characters before the
   place and is at most a hundred characters long; it is put on one line. -/
namespace MiniScheme

/-- What is wrong with a text. -/
inductive ParseError.Kind where
  /-- A faulty token or expression. -/
  | invalidSyntax
  /-- The text ends before the expression does. -/
  | incomplete
  /-- Lists or quotations are nested too deeply. -/
  | tooDeeplyNested
  /-- More text follows a complete expression. -/
  | trailingContent
  deriving DecidableEq, Repr

structure ParseError where
  kind : ParseError.Kind
  message : String
  /-- The text around the place of failure. -/
  context? : Option String
  deriving DecidableEq, Repr

namespace ParseError

/-- The number of characters in the first `bytes` bytes, all of them if there are fewer; none if
    that would split a character. -/
def charsWithin? : List Char → Nat → Option Nat
  | _, 0 => some 0
  | [], _ + 1 => some 0
  | c :: rest, bytes =>
    if c.utf8Size ≤ bytes then (charsWithin? rest (bytes - c.utf8Size)).map (· + 1) else none

/-- How far a window reaches back from the place of failure. -/
def windowBefore : Nat := 20

def windowLength : Nat := 100

/-- Marks text left out before or after a window. -/
def ellipsis : List Char := "[...]".toList

/-- A character of a window that stands on one line: a line feed becomes a backslash and an `n`,
    a carriage return is left out. -/
def onOneLine (c : Char) : List Char :=
  if c = '\n' then ['\\', 'n'] else if c = '\r' then [] else [c]

/-- The window of a text around the place that has `before` characters before it. -/
def window (text : List Char) (before : Nat) : List Char :=
  let skipped := before - windowBefore
  let shown := (text.drop skipped).take windowLength
  let start := if 0 < skipped then ellipsis else []
  let stop := if skipped + shown.length < text.length then ellipsis else []
  (start ++ shown ++ stop).flatMap onOneLine

/-- An error at a byte offset of a text. An offset inside a character counts as the start of the
    text. -/
def atOffset (kind : Kind) (message : String) (text : List Char) (offset : Nat) : ParseError :=
  ⟨kind, message, some (String.ofList (window text ((charsWithin? text offset).getD 0)))⟩

def ofMessage (kind : Kind) (message : String) : ParseError := ⟨kind, message, none⟩

/-- The error in words, with its context on a second line. -/
def text (e : ParseError) : String :=
  match e.context? with
  | some context => e.message ++ "\nContext: " ++ context
  | none => e.message

end ParseError

end MiniScheme
