/-
  Numbers with a fractional part: binary floating point of 64 bits, in exact integer arithmetic.

  A documents' number such as `2.5` stands for the double nearest to it, and two such numbers are
  compared by the values of their doubles.  A finite double is `± m · 2^e` with `m < 2^53` and
  `-1074 ≤ e ≤ 971`; every question about it is one about the integers `m` and `e`, so nothing here
  computes with machine floats.

  (1) **`ofDecimal`** rounds a decimal to the nearest double, a tie to the even `m`.
  (2) **`compareRational`** compares a double with a quotient of integers; integers are the case of
      denominator one, and two doubles are compared through it.
  (3) **`add` and `mul`** compute exactly and round once.
  (4) **`digits`** finds the fewest decimal digits that round back to the double: on the decimal
      grids of 1, 2, … 17 digits it tests the value's two neighbours, and the first grid with a hit
      wins.  `render` writes them positionally below 10^16 and from 10^-4 on, else with an exponent.
-/
import Muster.Text.Digit

namespace Muster

/-- A binary floating-point number of 64 bits. -/
inductive Double where
  /-- The number `m · 2^e`, negated if asked. -/
  | finite (negative : Bool) (m : Nat) (e : Int)
  | infinite (negative : Bool)
  | nan
deriving Repr, DecidableEq

namespace Double

/-! ## Rounding a decimal -/

/-- The quotient to the nearest integer, a tie to the even one. -/
def roundDiv (num den : Nat) : Nat :=
  let q := num / den
  let r := 2 * (num % den)
  if r > den || (r == den && q % 2 == 1) then q + 1 else q

/-- The quotient `num / (den · 2^e)`, rounded. -/
def scaled (num den : Nat) (e : Int) : Nat :=
  if e ≥ 0 then roundDiv num (den * Nat.pow 2 e.toNat)
  else roundDiv (num * Nat.pow 2 (-e).toNat) den

/-- The exponent of the greatest power of two that is not above a positive quotient. -/
def binade (num den : Nat) : Int :=
  let k : Int := (Nat.log2 num : Int) - (Nat.log2 den : Int)
  let reached := if k ≥ 0 then den * Nat.pow 2 k.toNat ≤ num else den ≤ num * Nat.pow 2 (-k).toNat
  if reached then k else k - 1

/-- The double nearest to `num / den`, for a positive quotient.  Below a power of two the grid of
    doubles is finer than above it, so the grid is that of the quotient's own binade, even where
    the nearest point is the power of two at its end. -/
def ofRatio (negative : Bool) (num den : Nat) : Double :=
  let e : Int := max (-1074) (binade num den - 52)
  let m := scaled num den e
  let (m, e) := if m ≥ Nat.pow 2 53 then (m / 2, e + 1) else (m, e)
  if e > 971 then .infinite negative else .finite negative m e

/-- The double nearest to `digits · 10^exponent`. -/
def ofDecimal (negative : Bool) (digits : Nat) (exponent : Int) : Double :=
  let size : Int := (Text.numeral digits).length + exponent
  if digits == 0 || size < -400 then .finite negative 0 (-1074)
  else if size > 400 then .infinite negative
  else if exponent ≥ 0 then ofRatio negative (digits * Nat.pow 10 exponent.toNat) 1
  else ofRatio negative digits (Nat.pow 10 (-exponent).toNat)

/-! ## Comparing -/

/-- A finite double as a quotient. -/
def ratio (negative : Bool) (m : Nat) (e : Int) : Int × Nat :=
  let n : Int := if e ≥ 0 then (m * Nat.pow 2 e.toNat : Nat) else m
  (if negative then -n else n, if e ≥ 0 then 1 else Nat.pow 2 (-e).toNat)

/-- How a double compares with `num / den`; nothing for a number that is none. -/
def compareRational (x : Double) (num : Int) (den : Nat) : Option Ordering :=
  match x with
  | .nan => none
  | .infinite negative => some (if negative then .lt else .gt)
  | .finite negative m e =>
    let (n, d) := ratio negative m e
    some (compare (n * den) (num * d))

/-- How two doubles compare. -/
def compare? (x y : Double) : Option Ordering :=
  match y with
  | .nan => none
  | .infinite negative =>
    match x with
    | .nan => none
    | .infinite other => some (compare (!other).toNat (!negative).toNat)
    | .finite .. => some (if negative then .gt else .lt)
  | .finite negative m e =>
    let (n, d) := ratio negative m e
    x.compareRational n d

/-- The integer a double stands for, if it stands for one. -/
def toInt? : Double → Option Int
  | .finite negative m e =>
    let (n, d) := ratio negative m e
    if n % d == 0 then some (n / d) else none
  | _ => none

/-! ## Arithmetic -/

/-- The number with the other sign. -/
def neg : Double → Double
  | .finite negative m e => .finite (!negative) m e
  | .infinite negative => .infinite !negative
  | .nan => .nan

/-- The double nearest to `num / den`; zero takes the sign given. -/
def ofQuotient (negativeZero : Bool) (num : Int) (den : Nat) : Double :=
  if num == 0 then .finite negativeZero 0 (-1074) else ofRatio (num < 0) num.natAbs den

/-- The sum, rounded. -/
def add : Double → Double → Double
  | .nan, _ => .nan
  | _, .nan => .nan
  | .infinite a, .infinite b => if a == b then .infinite a else .nan
  | .infinite a, .finite .. => .infinite a
  | .finite .., .infinite b => .infinite b
  | .finite a m e, .finite b n f =>
    let (x, p) := ratio a m e
    let (y, q) := ratio b n f
    ofQuotient (a && b) (x * q + y * p) (p * q)

/-- The product, rounded. -/
def mul : Double → Double → Double
  | .nan, _ => .nan
  | _, .nan => .nan
  | .infinite a, .infinite b => .infinite (a != b)
  | .infinite a, .finite b n _ => if n == 0 then .nan else .infinite (a != b)
  | .finite a m _, .infinite b => if m == 0 then .nan else .infinite (a != b)
  | .finite a m e, .finite b n f =>
    let (x, p) := ratio a m e
    let (y, q) := ratio b n f
    ofQuotient (a != b) (x * y) (p * q)

/-- The double nearest to a natural number. -/
def ofNat (n : Nat) : Double := ofQuotient false n 1

/-! ## Fewest digits -/

/-- The number of digits before the decimal point, zero or less for small numbers. -/
def pointPlace (num den : Nat) : Int :=
  let guess : Int := (Text.numeral (num / den)).length
  if num ≥ den then guess
  else 1 - ((Text.numeral ((den + num - 1) / num)).length : Int)
    + (if num * Nat.pow 10 ((Text.numeral ((den + num - 1) / num)).length - 1) ≥ den then 1 else 0)

/-- The neighbours of `num / den` on the grid of `10^p`, nearest first. -/
def neighbours (num den : Nat) (p : Int) : List Nat :=
  let (n, d) :=
    if p ≥ 0 then (num, den * Nat.pow 10 p.toNat) else (num * Nat.pow 10 (-p).toNat, den)
  let q := n / d
  let r := 2 * (n % d)
  if r > d || (r == d && q % 2 == 1) then [q + 1, q] else [q, q + 1]

/-- Whether `q · 10^p` rounds to the double `m · 2^e`. -/
def roundsTo (m : Nat) (e : Int) (q : Nat) (p : Int) : Bool :=
  ofDecimal false q p == .finite false m e

/-- The shortest decimal that rounds to a positive double, as digits and the power of ten of the
    last one; of `fuel` grids from the one of `n` digits on. -/
def shortest (m : Nat) (e : Int) (place : Int) : Nat → Nat → Nat × Int
  | 0, _ => (0, 0)
  | fuel + 1, n =>
    let p := place - n
    let (num, den) := ratio false m e
    match (neighbours num.toNat den p).find? fun q => roundsTo m e q p with
    | some q => (q, p)
    | none => shortest m e place fuel (n + 1)

/-- The fewest digits that read back, and the place of the decimal point before them. -/
def digits (m : Nat) (e : Int) : List Char × Int :=
  let (num, den) := ratio false m e
  let (q, p) := shortest m e (pointPlace num.toNat den) 18 1
  let ds := Text.numeral q
  let kept := (ds.reverse.dropWhile (· == '0')).reverse
  (kept, ds.length + p)

/-! ## Writing -/

/-- Digits with the decimal point at a place, or with an exponent outside `-4 < place ≤ 16`. -/
def layOut (ds : List Char) (place : Int) : List Char :=
  if -4 < place && place ≤ 16 then
    if place ≤ 0 then '0' :: '.' :: (List.replicate (-place).toNat '0' ++ ds)
    else if place ≥ ds.length then
      ds ++ List.replicate (place.toNat - ds.length) '0' ++ ['.', '0']
    else ds.take place.toNat ++ '.' :: ds.drop place.toNat
  else
    let exponent := place - 1
    let mantissa := match ds with
      | d :: r => if r.isEmpty then [d] else d :: '.' :: r
      | [] => []
    let size := Text.numeral exponent.natAbs
    mantissa ++ ['e', if exponent < 0 then '-' else '+']
      ++ (if size.length < 2 then '0' :: size else size)

/-- A double as text. -/
def render : Double → List Char
  | .nan => "nan".toList
  | .infinite negative => (if negative then "-inf" else "inf").toList
  | .finite negative m e =>
    let body := if m == 0 then "0.0".toList else layOut (digits m e).1 (digits m e).2
    if negative then '-' :: body else body

end Double

end Muster
