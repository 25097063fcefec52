/-
  Quoted text, as messages show it.

  A text is put in single quotes, or in double quotes if it holds a single quote and no double one.
  Within, the quote in use and the backslash are escaped, line breaks and tabs are written `\n`,
  `\r` and `\t`, and every other character that is not printable is written by its code in two, four
  or eight hexadecimal digits, whichever is enough.
-/
import Muster.Text.Printable

namespace Muster.Text

/-- The low hexadecimal digits of a number, lower case, most significant first. -/
def hexDigits (n : Nat) : Nat → List Char
  | 0 => []
  | k + 1 => Nat.digitChar (n / Nat.pow 16 k % 16) :: hexDigits n k

/-- A character within a quoted text. -/
def showChar (quote c : Char) : List Char :=
  if c == quote || c == '\\' then ['\\', c]
  else if c == '\n' then ['\\', 'n']
  else if c == '\r' then ['\\', 'r']
  else if c == '\t' then ['\\', 't']
  else if isPrintable c then [c]
  else if c.toNat < 0x100 then '\\' :: 'x' :: hexDigits c.toNat 2
  else if c.toNat < 0x10000 then '\\' :: 'u' :: hexDigits c.toNat 4
  else '\\' :: 'U' :: hexDigits c.toNat 8

/-- The quote that a text is put in. -/
def quoteFor (s : List Char) : Char := if s.contains '\'' && !s.contains '"' then '"' else '\''

/-- A text in quotes. -/
def quotedText (s : List Char) : List Char :=
  let q := quoteFor s
  q :: (s.flatMap (showChar q) ++ [q])

end Muster.Text
