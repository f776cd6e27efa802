import MiniScheme.Text.Decimal
import MiniScheme.Text.Escaped
import MiniScheme.Value.Basic

/- The described form of a value, for diagnostics: the kind of the value and, in
   parentheses, its parts. The text of a string stands between quote marks as it
   is; parameter names are escaped. -/
namespace MiniScheme.Value

mutual

/-- The characters of a value's described form. -/
def described : Value → List Char
  | number n => "Number(".toList ++ Text.intDigits n.toInt ++ [')']
  | symbol name => "Symbol(".toList ++ name.toList ++ [')']
  | string text => "String(\"".toList ++ text.toList ++ "\")".toList
  | bool true => "Bool(true)".toList
  | bool false => "Bool(false)".toList
  | list items => "List(".toList ++ describedItems items ++ [')']
  | primitive p => "Primitive(".toList ++ p.name.toList ++ [')']
  | procedure _ params body _ =>
    "Procedure(params=".toList ++ Text.escapedNames params ++ ", body=[".toList
      ++ describedItems body ++ "])".toList
  | unspecified => "Unspecified".toList

/-- The described forms of the items of a list, with commas between them. -/
def describedItems : List Value → List Char
  | [] => []
  | [v] => described v
  | v :: w :: rest => described v ++ ',' :: ' ' :: describedItems (w :: rest)

end

def debug (v : Value) : String := String.ofList v.described

end MiniScheme.Value
