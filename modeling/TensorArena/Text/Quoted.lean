import TensorArena.Text.Invisible

/-!
Quoted texts: a text between double quotes in which every character can be seen.

Tabs, line ends, quotes, backslashes and the null character have short escapes. Any other
character without a visible form is written by its code point in hexadecimal. Single
quotes and all visible characters stand for themselves.
-/

namespace TensorArena.Text.Quoted

/-- A code point in braces. -/
def codePoint (c : Char) : List Char :=
  ['\\', 'u', '\x7b'] ++ Nat.toDigits 16 c.toNat ++ ['\x7d']

/-- One character inside quotes. -/
def escape (c : Char) : List Char :=
  if c = '\x00' then ['\\', '0']
  else if c = '\t' then ['\\', 't']
  else if c = '\r' then ['\\', 'r']
  else if c = '\n' then ['\\', 'n']
  else if c = '"' then ['\\', '"']
  else if c = '\\' then ['\\', '\\']
  else if isInvisible c then codePoint c
  else [c]

/-- A text in quotes. -/
def quote (s : String) : String :=
  String.ofList ('"' :: s.toList.flatMap escape ++ ['"'])

end TensorArena.Text.Quoted
