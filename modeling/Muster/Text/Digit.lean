/-
  Decimal digits of every script, and the numbers they write.

  A decimal digit stands in a block of ten, from its script's zero on, so the table lists the zeros
  (Unicode 14.0).  Option text may use any of them where a digit is looked for; where a count is
  READ, only ASCII digits are accepted, so the two classes are kept apart: `isDecimal` for looking,
  `isAsciiDigit` for reading counts.  The parameters of weapon rules may be written in any script.

  A numeral that is READ has 4300 digits at most, leading zeros included; a longer one is an error
  of its own (`LongNumeral`), which tells the number of digits.
-/

namespace Muster.Text

/-- The zeros of the decimal digit blocks. -/
def zeros : List Nat := [
  0x30, 0x660, 0x6F0, 0x7C0, 0x966, 0x9E6, 0xA66, 0xAE6, 0xB66, 0xBE6, 0xC66, 0xCE6, 0xD66, 0xDE6,
  0xE50, 0xED0, 0xF20, 0x1040, 0x1090, 0x17E0, 0x1810, 0x1946, 0x19D0, 0x1A80, 0x1A90, 0x1B50,
  0x1BB0, 0x1C40, 0x1C50, 0xA620, 0xA8D0, 0xA900, 0xA9D0, 0xA9F0, 0xAA50, 0xABF0, 0xFF10, 0x104A0,
  0x10D30, 0x11066, 0x110F0, 0x11136, 0x111D0, 0x112F0, 0x11450, 0x114D0, 0x11650, 0x116C0,
  0x11730, 0x118E0, 0x11950, 0x11C50, 0x11D50, 0x11DA0, 0x16A60, 0x16AC0, 0x16B50, 0x1D7CE,
  0x1D7D8, 0x1D7E2, 0x1D7EC, 0x1D7F6, 0x1E140, 0x1E2F0, 0x1E950, 0x1FBF0]

/-- The value of a decimal digit. -/
def digitValue? (c : Char) : Option Nat :=
  if c.toNat < 0x80 then if '0' ≤ c && c ≤ '9' then some (c.toNat - 0x30) else none
  else (zeros.find? fun z => z ≤ c.toNat && c.toNat < z + 10).map (c.toNat - ·)

/-- A decimal digit of any script. -/
def isDecimal (c : Char) : Bool := (digitValue? c).isSome

/-- One of `0` to `9`. -/
def isAsciiDigit (c : Char) : Bool := '0' ≤ c && c ≤ '9'

/-- The number a run of decimal digits writes, most significant first; other characters count as
    zero, and callers pass none. -/
def decimalValue (s : List Char) : Nat :=
  s.foldl (fun n c => 10 * n + (digitValue? c).getD 0) 0

/-- The decimal numeral of a number. -/
def numeral (n : Nat) : List Char := Nat.toDigits 10 n

/-- The decimal numeral of an integer, with a minus sign if it is negative. -/
def signed (n : Int) : List Char := if n < 0 then '-' :: numeral n.natAbs else numeral n.natAbs

/-! ## Reading -/

/-- The most digits of a numeral that is read. -/
def mostDigits : Nat := 4300

/-- A numeral of more digits than are read. -/
structure LongNumeral where
  digits : Nat
deriving Repr, DecidableEq

/-- What to say about a numeral of too many digits. -/
def LongNumeral.message (e : LongNumeral) : String :=
  "Exceeds the limit (" ++ String.ofList (numeral mostDigits)
    ++ " digits) for integer string conversion: value has " ++ String.ofList (numeral e.digits)
    ++ " digits; use sys.set_int_max_str_digits() to increase the limit"

/-- Reads a run of decimal digits. -/
def readNumeral (ds : List Char) : Except LongNumeral Nat :=
  if ds.length > mostDigits then .error ⟨ds.length⟩ else .ok (decimalValue ds)

end Muster.Text
