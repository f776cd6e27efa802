import MiniScheme.Text.Unprintable

/- Names as diagnostics show them: in quote marks, with the usual short escapes,
   and with every unprintable character written by its code point. -/
namespace MiniScheme.Text

/-- One character inside a name shown in a diagnostic. -/
def escapedChar (c : Char) : List Char :=
  if c = '\x00' then ['\\', '0']
  else if c = '\t' then ['\\', 't']
  else if c = '\r' then ['\\', 'r']
  else if c = '\n' then ['\\', 'n']
  else if c = '"' then ['\\', '"']
  else if c = '\\' then ['\\', '\\']
  else if isUnprintable c then
    ['\\', 'u', '\x7b'] ++ Nat.toDigits 16 c.toNat ++ ['\x7d']
  else [c]

/-- A name in quote marks. -/
def escapedName (name : String) : List Char :=
  '"' :: name.toList.flatMap escapedChar ++ ['"']

/-- Names in quote marks, with commas between them and brackets around them. -/
def escapedNames (names : List String) : List Char :=
  '[' :: [',', ' '].intercalate (names.map escapedName) ++ [']']

end MiniScheme.Text
