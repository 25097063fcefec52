/-
  Blanks: the characters that separate words.

  The class is wider than ASCII white space in both directions a reader may forget: it holds the
  no-break and em spaces, which rule texts copied from a page contain, and the four information
  separators U+001C to U+001F, which no modern text contains on purpose.  A zero-width space
  (U+200B) is NOT blank.

  Trimming takes blanks off both ends; every name that enters a loadout is trimmed.
-/
import Muster.Text.Interval

namespace Muster.Text

/-- Blanks beyond ASCII (Unicode 14.0), as closed intervals. -/
def blankIntervals : List (Nat × Nat) := [
  (0x85, 0x85), (0xA0, 0xA0), (0x1680, 0x1680), (0x2000, 0x200A), (0x2028, 0x2029),
  (0x202F, 0x202F), (0x205F, 0x205F), (0x3000, 0x3000)]

/-- White space, line breaks and separators. -/
def isBlank (c : Char) : Bool :=
  if c.toNat < 0x80 then c.toNat == 0x20 || (0x09 ≤ c.toNat && c.toNat ≤ 0x0D)
    || (0x1C ≤ c.toNat && c.toNat ≤ 0x1F)
  else inIntervals blankIntervals c

/-- White space around a numeral: blanks, the information separators left out. -/
def isSpacing (c : Char) : Bool := isBlank c && !(0x1C ≤ c.toNat && c.toNat ≤ 0x1F)

/-- A text without the blanks before it. -/
def trimStart (s : List Char) : List Char := s.dropWhile isBlank

/-- A text without the blanks after it. -/
def trimEnd (s : List Char) : List Char := (s.reverse.dropWhile isBlank).reverse

/-- A text without the blanks around it. -/
def trim (s : List Char) : List Char := trimEnd (trimStart s)

end Muster.Text
