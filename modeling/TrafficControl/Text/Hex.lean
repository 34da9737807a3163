import TrafficControl.Octets

/-!
# Octets in hexadecimal

Octet strings as text, two small digits for each octet.
-/
namespace TrafficControl.Text

def hexDigit (n : Nat) : Char := "0123456789abcdef".toList.getD n '0'

def hexValue? (c : Char) : Option Nat :=
  if '0' ≤ c ∧ c ≤ '9' then some (c.toNat - '0'.toNat)
  else if 'a' ≤ c ∧ c ≤ 'f' then some (c.toNat - 'a'.toNat + 10)
  else none

def hexDigits (d : Octets) : List Char :=
  d.flatMap fun b => [hexDigit (b.toNat / 16), hexDigit (b.toNat % 16)]

/-- The octets that digits write. -/
def ofHexDigits? : List Char → Option Octets
  | [] => some []
  | m :: n :: cs => do
    let b := UInt8.ofNat (16 * (← hexValue? m) + (← hexValue? n))
    return b :: (← ofHexDigits? cs)
  | _ => none

example : ofHexDigits? (hexDigits [0x00, 0x7f, 0xff]) = some [0x00, 0x7f, 0xff] := by decide

end TrafficControl.Text
