import PickupGame.Text.Printable
import PickupGame.Numeral.Decimal

/-!
# Quoted text

A text between double quotes in which quotes, backslashes and every character that cannot be shown
are escaped.
-/

namespace PickupGame.Text

/-- The form of a character between double quotes. -/
def quotedChar (c : Char) : List Char :=
  if c = '\x00' then ['\\', '0']
  else if c = '\t' then ['\\', 't']
  else if c = '\r' then ['\\', 'r']
  else if c = '\n' then ['\\', 'n']
  else if c = '"' then ['\\', '"']
  else if c = '\\' then ['\\', '\\']
  else if isPrintable c then [c]
  else ['\\', 'u', '{'] ++ Numeral.hexDigits c.toNat ++ ['}']

/-- A text in double quotes. -/
def quoted (s : String) : String :=
  String.ofList ('"' :: s.toList.flatMap quotedChar ++ ['"'])

end PickupGame.Text
