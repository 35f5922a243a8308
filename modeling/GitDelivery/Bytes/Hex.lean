import GitDelivery.Bytes.Utf8

set_option autoImplicit false

/-! Hexadecimal digits. -/

namespace GitDelivery.Bytes

def hexValue? (c : Char) : Option Nat :=
  if '0' ≤ c ∧ c ≤ '9' then some (c.toNat - '0'.toNat)
  else if 'a' ≤ c ∧ c ≤ 'f' then some (c.toNat - 'a'.toNat + 10)
  else if 'A' ≤ c ∧ c ≤ 'F' then some (c.toNat - 'A'.toNat + 10)
  else none

/-- The bytes that pairs of digits stand for. -/
def ofHex? : List Char → Option Bytes
  | [] => some []
  | high :: low :: rest => do
    let byte := 16 * (← hexValue? high) + (← hexValue? low)
    return byte.toUInt8 :: (← ofHex? rest)
  | [_] => none

end GitDelivery.Bytes
