import MiniScheme.Text.Decimal
import MiniScheme.Text.Quoted
import MiniScheme.Value.Basic

/- The printed form of a value: what the reader would read for numbers, symbols,
   strings, booleans and lists of these, with `(quote x)` as `'x`, and a form in
   `#<` and `>` for everything else. -/
namespace MiniScheme.Value

mutual

/-- The characters of a value's printed form. -/
def printed : Value → List Char
  | number n => Text.intDigits n.toInt
  | symbol name => name.toList
  | string text => Text.Quoted.literal text.toList
  | bool true => ['#', 't']
  | bool false => ['#', 'f']
  | list [symbol head, v] =>
    if head = "quote" then '\'' :: printed v
    else '(' :: head.toList ++ ' ' :: printed v ++ [')']
  | list items => '(' :: printedItems items ++ [')']
  | primitive p => "#<primitive:".toList ++ p.name.toList ++ ['>']
  | procedure _ params _ _ =>
    "#<procedure (".toList ++ (" ".intercalate params).toList ++ ")>".toList
  | unspecified => "#<unspecified>".toList

/-- The printed forms of the items of a list, with one space between them. -/
def printedItems : List Value → List Char
  | [] => []
  | [v] => printed v
  | v :: w :: rest => printed v ++ ' ' :: printedItems (w :: rest)

end

theorem printed_number (n : Int64) : (number n).printed = Text.intDigits n.toInt := by
  rw [printed.eq_def]

theorem printed_symbol (name : String) : (symbol name).printed = name.toList := by
  rw [printed.eq_def]

theorem printed_string (text : String) :
    (string text).printed = Text.Quoted.literal text.toList := by
  rw [printed.eq_def]

theorem printed_bool (b : Bool) :
    (bool b).printed = if b then ['#', 't'] else ['#', 'f'] := by
  cases b <;> rfl

/-- A quotation prints as a quote mark and what is quoted. -/
theorem printed_quoted (v : Value) : (quoted v).printed = '\'' :: v.printed := by
  rw [quoted, printed.eq_def]
  exact if_pos rfl

/-- A list prints as its items in parentheses unless it is a quotation. -/
theorem printed_list {items : List Value} (h : ∀ v, items ≠ [.symbol "quote", v]) :
    (list items).printed = '(' :: printedItems items ++ [')'] := by
  rw [printed.eq_def]
  split
  · next same => cases same
  · next same => cases same
  · next same => cases same
  · next same => cases same
  · next same => cases same
  · -- a symbol and one more item, but not a quotation
    next head v same =>
    cases same
    have other : head ≠ "quote" := fun same => h v (by rw [same])
    rw [if_neg other, printedItems, printedItems, printed_symbol]
    simp
  · next same => cases same; rfl
  · next same => cases same
  · next same => cases same
  · next same => cases same

def display (v : Value) : String := String.ofList v.printed

/-- The text that `display` writes: a string as it is, anything else as printed. -/
def shown : Value → String
  | string text => text
  | v => v.display

end MiniScheme.Value
