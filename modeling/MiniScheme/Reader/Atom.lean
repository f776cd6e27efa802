import MiniScheme.Number
import MiniScheme.Text.Alphanumeric
import MiniScheme.Text.Blank
import MiniScheme.Text.Decimal
import MiniScheme.Value.Basic

/- Atoms without delimiters of their own: decimal and hexadecimal numbers,
   booleans and symbols. Each takes the longest run of its characters and then
   wants a delimiter or the end of the text. -/
namespace MiniScheme.Reader

/-- The characters besides letters and numerals that a symbol may have. -/
def symbolMarks : List Char := "+-*/<>=!?_$%&:^~.".toList

/-- A character that a symbol may have. -/
def isSymbolChar (c : Char) : Bool := Text.isAlphanumeric c || symbolMarks.contains c

/-- A run of characters starts like a number: with a digit, or with a minus sign and a digit. -/
def startsLikeNumber : List Char → Bool
  | '-' :: c :: _ => Text.isDigit c
  | c :: _ => Text.isDigit c
  | [] => false

/-- The name of a symbol: not empty, made of symbol characters, and not starting like a number. -/
def isSymbolName (name : List Char) : Bool :=
  !name.isEmpty && !startsLikeNumber name && name.all isSymbolChar

/-- The characters other than blanks that may follow an atom. -/
def delimiters : List Char := ['(', ')', '\'', ';', '"']

/-- An atom may end before this text. -/
def atDelimiter : List Char → Bool
  | [] => true
  | c :: _ => Text.isBlank c || delimiters.contains c

/-- Reads the digits of a decimal number and applies the sign. -/
def digits? (negative : Bool) (input : List Char) : Option (Value × List Char) :=
  let digits := input.takeWhile Text.isDigit
  let rest := input.dropWhile Text.isDigit
  let magnitude : Int := Text.natOfDigits digits
  if digits.isEmpty || !atDelimiter rest then none
  else (Number.ofInt? (if negative then -magnitude else magnitude)).map fun n => (.number n, rest)

def decimal? : List Char → Option (Value × List Char)
  | '-' :: rest => digits? true rest
  | input => digits? false input

/-- Reads a hexadecimal number whose `#` has been read. -/
def hexadecimal? : List Char → Option (Value × List Char)
  | [] => none
  | mark :: input =>
    let digits := input.takeWhile Text.isHexDigit
    let rest := input.dropWhile Text.isHexDigit
    if (mark != 'x' && mark != 'X') || digits.isEmpty || !atDelimiter rest then none
    else (Number.ofInt? (Text.natOfHex digits)).map fun n => (.number n, rest)

/-- Reads a boolean whose `#` has been read. -/
def boolean? : List Char → Option (Value × List Char)
  | 't' :: rest => if atDelimiter rest then some (.bool true, rest) else none
  | 'f' :: rest => if atDelimiter rest then some (.bool false, rest) else none
  | _ => none

def symbol? (input : List Char) : Option (Value × List Char) :=
  let name := input.takeWhile isSymbolChar
  let rest := input.dropWhile isSymbolChar
  if isSymbolName name && atDelimiter rest then some (.symbol (String.ofList name), rest) else none

/-- Reads an atom other than a string. -/
def atom? : List Char → Option (Value × List Char)
  | '#' :: rest => (hexadecimal? rest).or (boolean? rest)
  | input => (decimal? input).or (symbol? input)

end MiniScheme.Reader
