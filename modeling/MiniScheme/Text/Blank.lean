import MiniScheme.Text.Range

/- Blank characters: the property White_Space, which has ten ranges. The reader
   uses it to see where an atom ends and to tell an unfinished text from a
   faulty one; the command loop uses it to trim a line. -/
namespace MiniScheme.Text

/-- The ranges of White_Space. -/
def blankRanges : List Range := ofPairs [
  (0x9, 0xD), (0x20, 0x20), (0x85, 0x85), (0xA0, 0xA0), (0x1680, 0x1680), (0x2000, 0x200A),
  (0x2028, 0x2029), (0x202F, 0x202F), (0x205F, 0x205F), (0x3000, 0x3000)]

/-- A character that only takes up space. -/
def isBlank (c : Char) : Bool := within blankRanges c

/-- The text without the blank characters at its two ends. -/
def trim (s : String) : String :=
  String.ofList ((s.toList.dropWhile isBlank).reverse.dropWhile isBlank).reverse

end MiniScheme.Text
