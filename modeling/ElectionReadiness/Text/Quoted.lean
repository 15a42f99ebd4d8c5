import ElectionReadiness.Text.Hexadecimal
import ElectionReadiness.Unicode.Hidden

/-!
# Quoted text

Free text inside a message stands between quotation marks.  Quotation marks and
backslashes in it are escaped, and so is every character that would not show:
line ends, tabs and null by a letter, the others by their code point in
hexadecimal.  All other characters stand for themselves.
-/

set_option autoImplicit false

namespace ElectionReadiness.Quoted

/-- A character as it stands between quotation marks. -/
def escape (c : Char) : List Char :=
  if c = '"' then ['\\', '"']
  else if c = '\\' then ['\\', '\\']
  else if c = '\t' then ['\\', 't']
  else if c = '\r' then ['\\', 'r']
  else if c = '\n' then ['\\', 'n']
  else if c.toNat = 0 then ['\\', '0']
  else if Unicode.hidden.has c then ['\\', 'u', '\x7b'] ++ Hexadecimal.digits c.toNat ++ ['\x7d']
  else [c]

/-- A text between quotation marks. -/
def quote (text : List Char) : List Char :=
  '"' :: (text.flatMap escape ++ ['"'])

/-- A string between quotation marks. -/
def text (value : String) : String := String.ofList (quote value.toList)

end ElectionReadiness.Quoted
