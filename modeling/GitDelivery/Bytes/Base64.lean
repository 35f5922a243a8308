import GitDelivery.Bytes.Utf8

set_option autoImplicit false

/-! Bytes written in base 64, padded to groups of four characters. Bits that carry no data must be
zero, so every list of bytes has one written form. -/

namespace GitDelivery.Bytes

private def letters : List Char :=
  "ABCDEFGHIJKLMNOPQRSTUVWXYZabcdefghijklmnopqrstuvwxyz0123456789+/".toList

private def letter (value : Nat) : Char :=
  letters.getD (value % 64) 'A'

private def value? (c : Char) : Option Nat :=
  letters.findIdx? (· = c)

/-- Reads characters in groups of four; only the last group may be padded. -/
def ofBase64Chars : List Char → Option Bytes
  | [] => some []
  | [a, b, '=', '='] => do
    let a ← value? a
    let b ← value? b
    if b % 16 = 0 then some [(a * 4 + b / 16).toUInt8] else none
  | [a, b, c, '='] => do
    let a ← value? a
    let b ← value? b
    let c ← value? c
    if c % 4 = 0 then some [(a * 4 + b / 16).toUInt8, (b * 16 + c / 4).toUInt8] else none
  | a :: b :: c :: d :: rest => do
    let a ← value? a
    let b ← value? b
    let c ← value? c
    let d ← value? d
    let more ← ofBase64Chars rest
    some ((a * 4 + b / 16).toUInt8 :: (b * 16 + c / 4).toUInt8 :: (c * 64 + d).toUInt8 :: more)
  | _ => none

def ofBase64? (text : String) : Option Bytes :=
  ofBase64Chars text.toList

def base64Chars : Bytes → List Char
  | [] => []
  | [a] => [letter (a.toNat / 4), letter (a.toNat * 16), '=', '=']
  | [a, b] =>
    [letter (a.toNat / 4), letter (a.toNat * 16 + b.toNat / 16), letter (b.toNat * 4), '=']
  | a :: b :: c :: rest =>
    letter (a.toNat / 4) :: letter (a.toNat * 16 + b.toNat / 16)
      :: letter (b.toNat * 4 + c.toNat / 64) :: letter c.toNat :: base64Chars rest

def base64 (bytes : Bytes) : String :=
  String.ofList (base64Chars bytes)

end GitDelivery.Bytes
