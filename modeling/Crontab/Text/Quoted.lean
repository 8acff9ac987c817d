import Crontab.Text.Hidden

/-!
# Texts in quotes

A text is written between double quotes so that everything in it shows.

* `quotedChar` : how a character is written between quotes.
* `quoted` : a text in quotes.
-/

set_option autoImplicit false

namespace Crontab.Text

/-- A character between quotes.  One that does not show is written as its code point. -/
def quotedChar (c : Char) : List Char :=
  if c = '"' then ['\\', '"']
  else if c = '\\' then ['\\', '\\']
  else if c = '\n' then ['\\', 'n']
  else if c = '\r' then ['\\', 'r']
  else if c = '\t' then ['\\', 't']
  else if c = '\x00' then ['\\', '0']
  else if isHidden c then "\\u\x7b".toList ++ Nat.toDigits 16 c.toNat ++ ['\x7d']
  else [c]

/-- A text in quotes. -/
def quoted (s : String) : String := String.ofList ('"' :: s.toList.flatMap quotedChar ++ ['"'])

end Crontab.Text
