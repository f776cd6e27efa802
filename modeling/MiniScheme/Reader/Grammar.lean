import Mathlib.Algebra.Group.Nat.Defs
import MiniScheme.Reader.Atom

/- The language that the reader accepts, as a grammar. A source is an expression
   between two gaps. What a text derives depends on the text after it in two
   places: an atom needs a delimiter behind it, and a comment ends only before a
   line feed or at the end. So `Gap`, `Items` and `Datum` relate a text and the
   text that follows it. Nothing here says how a text is taken apart. -/
namespace MiniScheme.Reader.Grammar

/-- The characters that separate expressions. -/
def spaces : List Char := [' ', '\t', '\r', '\n']

/-- Text between expressions: spaces and, if they are allowed, comments. A comment runs from a
    semicolon to just before the next line feed or to the end of the source. -/
inductive Gap (comments : Bool) : (text following : List Char) → Prop
  | nil {following : List Char} : Gap comments [] following
  | space {c : Char} {text following : List Char} (hc : c ∈ spaces)
      (more : Gap comments text following) : Gap comments (c :: text) following
  | comment {body text following : List Char} (allowed : comments = true)
      (oneLine : '\n' ∉ body) (stops : ∀ c ∈ (text ++ following).head?, c = '\n')
      (more : Gap comments text following) : Gap comments (';' :: (body ++ text)) following

/-- An atom may end before this text. -/
def Delimited (following : List Char) : Prop :=
  ∀ c ∈ following.head?, Text.isBlank c = true ∨ c ∈ ['(', ')', '\'', ';', '"']

/-- The character is the digit for `k` in one of the given series of digits. -/
def Stands (series : List String) (c : Char) (k : Nat) : Prop :=
  ∃ digits ∈ series, digits.toList[k]? = some c

instance (series : List String) (c : Char) (k : Nat) : Decidable (Stands series c k) :=
  inferInstanceAs (Decidable (∃ digits ∈ series, digits.toList[k]? = some c))

/-- The digits of base ten. -/
def decimalSeries : List String := ["0123456789"]

/-- The digits of base sixteen, in either case. -/
def hexadecimalSeries : List String := ["0123456789abcdef", "0123456789ABCDEF"]

/-- A number in positional notation. -/
inductive Numeral (base : Nat) (series : List String) : List Char → Nat → Prop
  | one {c : Char} {k : Nat} (h : Stands series c k) : Numeral base series [c] k
  | more {c : Char} {k : Nat} {digits : List Char} {n : Nat} (h : Stands series c k)
      (rest : Numeral base series digits n) :
      Numeral base series (c :: digits) (k * base ^ digits.length + n)

/-- The atoms other than strings. A number is one that 64 bits can hold. -/
inductive Atom : List Char → Value → Prop
  | decimal {digits : List Char} {n : Nat} {x : Int64} (h : Numeral 10 decimalSeries digits n)
      (value : x.toInt = n) : Atom digits (.number x)
  | negative {digits : List Char} {n : Nat} {x : Int64} (h : Numeral 10 decimalSeries digits n)
      (value : x.toInt = -n) : Atom ('-' :: digits) (.number x)
  | hexadecimal {mark : Char} {digits : List Char} {n : Nat} {x : Int64} (hm : mark ∈ ['x', 'X'])
      (h : Numeral 16 hexadecimalSeries digits n) (value : x.toInt = n) :
      Atom ('#' :: mark :: digits) (.number x)
  | boolean (b : Bool) : Atom (if b then ['#', 't'] else ['#', 'f']) (.bool b)
  | symbol {name : List Char} (h : isSymbolName name = true) :
      Atom name (.symbol (String.ofList name))

/-- The letters that may follow a backslash in a string, and what they stand for. -/
def escapes : List (Char × Char) :=
  [('n', '\n'), ('t', '\t'), ('r', '\r'), ('\\', '\\'), ('"', '"')]

/-- The text between the quote marks of a string, and the characters of the string. -/
inductive Literal : (text content : List Char) → Prop
  | nil : Literal [] []
  | plain {c : Char} {text content : List Char} (quote : c ≠ '"') (backslash : c ≠ '\\')
      (rest : Literal text content) : Literal (c :: text) (c :: content)
  | escape {l c : Char} {text content : List Char} (h : (l, c) ∈ escapes)
      (rest : Literal text content) : Literal ('\\' :: l :: text) (c :: content)

/-- The items of a list, each after a gap; `item` tells what an item may be. -/
inductive Items (comments : Bool) (item : List Char → List Char → Value → Prop) :
    (text following : List Char) → List Value → Prop
  | nil {following : List Char} : Items comments item [] following []
  | cons {gap text others following : List Char} {v : Value} {vs : List Value}
      (hg : Gap comments gap (text ++ (others ++ following)))
      (first : item text (others ++ following) v) (rest : Items comments item others following vs) :
      Items comments item (gap ++ (text ++ others)) following (v :: vs)

/-- One level of an expression; `item` tells what may stand one level further down. -/
inductive Level (comments : Bool) (item : List Char → List Char → Value → Prop) :
    (text following : List Char) → Value → Prop
  | atom {text following : List Char} {v : Value} (h : Atom text v) (ends : Delimited following) :
      Level comments item text following v
  | string {text content following : List Char} (h : Literal text content) :
      Level comments item ('"' :: (text ++ ['"'])) following (.string (String.ofList content))
  | list {text gap following : List Char} {vs : List Value}
      (h : Items comments item text (gap ++ ')' :: following) vs)
      (hg : Gap comments gap (')' :: following)) :
      Level comments item ('(' :: (text ++ (gap ++ [')']))) following (.list vs)
  | quotation {gap text following : List Char} {v : Value}
      (hg : Gap comments gap (text ++ following)) (h : item text following v) :
      Level comments item ('\'' :: (gap ++ text)) following (.quoted v)

/-- A text derives a value before the text `following`, with at most `nesting` lists and
    quotations around any expression inside. -/
def Datum (comments : Bool) : (nesting : Nat) → (text following : List Char) → Value → Prop
  | 0 => Level comments fun _ _ _ => False
  | nesting + 1 => Level comments (Datum comments nesting)

/-- A whole source: an expression between two gaps. -/
def Source (comments : Bool) (source : List Char) (v : Value) : Prop :=
  ∃ before text after, source = before ++ (text ++ after) ∧
    Gap comments before (text ++ after) ∧ Datum comments 63 text after v ∧ Gap comments after []

end MiniScheme.Reader.Grammar
