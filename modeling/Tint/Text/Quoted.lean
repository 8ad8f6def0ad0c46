import Tint.Text.Hidden

/-!
# Quoted text

Text between double quotes, as diagnostics show it: a quote, a backslash and the
usual controls are written with a backslash, and a character that does not show by
itself is written as its number.
-/

namespace Tint.Text

/-- The digits of `n` to the base sixteen, in lower case. -/
def hex (n : Nat) : List Char := Nat.toDigits 16 n

/-- A character between quotes. -/
def quotedChar (c : Char) : List Char :=
  if c = '\x00' then ['\\', '0']
  else if c = '\t' then ['\\', 't']
  else if c = '\r' then ['\\', 'r']
  else if c = '\n' then ['\\', 'n']
  else if c = '\\' then ['\\', '\\']
  else if c = '"' then ['\\', '"']
  else if isHidden c then ['\\', 'u', '\x7b'] ++ hex c.toNat ++ ['\x7d']
  else [c]

/-- The text between double quotes. -/
def quoted (s : List Char) : List Char := ['"'] ++ s.flatMap quotedChar ++ ['"']

end Tint.Text
