/-
  Bytes written as text: four characters for three bytes, each character standing for six bits.

  Characters outside the alphabet are passed over.  The equals sign pads: where it completes a
  group of which at least two characters came, the bytes end there and the rest is not looked at;
  elsewhere it is passed over too.  A group that is begun must be completed.
-/

namespace Muster.Document.Yaml

/-- The six bits that a character stands for. -/
def sixBits? (c : Char) : Option Nat :=
  if 'A' ≤ c && c ≤ 'Z' then some (c.toNat - 65)
  else if 'a' ≤ c && c ≤ 'z' then some (c.toNat - 71)
  else if '0' ≤ c && c ≤ '9' then some (c.toNat + 4)
  else if c == '+' then some 62
  else if c == '/' then some 63
  else none

/-- The bytes of a group of two, three or four characters, of which only whole bytes count. -/
def groupBytes : List Nat → List UInt8
  | [a, b] => [(4 * a + b / 16).toUInt8]
  | [a, b, c] => [(4 * a + b / 16).toUInt8, (16 * b + c / 4).toUInt8]
  | [a, b, c, d] => [(4 * a + b / 16).toUInt8, (16 * b + c / 4).toUInt8, (64 * c + d).toUInt8]
  | _ => []

/-- The bytes of a text from here on, given the group that is begun and the number of equals signs
    since its last character. -/
def bytesFrom (group : List Nat) (pads : Nat) : List Char → Option (List UInt8)
  | [] => if group.isEmpty then some [] else none
  | c :: r =>
    if c == '=' then
      if group.length < 2 then bytesFrom group pads r
      else if group.length + pads + 1 ≥ 4 then some (groupBytes group)
      else bytesFrom group (pads + 1) r
    else match sixBits? c with
      | none => bytesFrom group pads r
      | some n =>
        if group.length == 3 then
          (bytesFrom [] 0 r).map fun bs => groupBytes (group ++ [n]) ++ bs
        else bytesFrom (group ++ [n]) 0 r

/-- The bytes that a text of ASCII characters writes. -/
def bytesOf? (s : List Char) : Option (List UInt8) :=
  if s.all fun c => c.toNat < 0x80 then bytesFrom [] 0 s else none

end Muster.Document.Yaml
