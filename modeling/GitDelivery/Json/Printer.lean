import GitDelivery.Json.Basic
import GitDelivery.Decimal.Double

set_option autoImplicit false

/-! The compact text of a value: no blanks, fields in their order, the shortest digits for doubles. -/

namespace GitDelivery

private def hexDigit (digit : Nat) : Char :=
  if digit < 10 then Char.ofNat (48 + digit) else Char.ofNat (87 + digit)

/-- How one character stands between quotes: quotes, backslashes and control characters are
escaped, everything else stands for itself. -/
def Json.escapeChar (c : Char) : List Char :=
  let code := c.toNat
  if c = '"' then ['\\', '"']
  else if c = '\\' then ['\\', '\\']
  else if code = 8 then ['\\', 'b']
  else if code = 9 then ['\\', 't']
  else if code = 10 then ['\\', 'n']
  else if code = 12 then ['\\', 'f']
  else if code = 13 then ['\\', 'r']
  else if code < 32 then ['\\', 'u', '0', '0', hexDigit (code / 16), hexDigit (code % 16)]
  else [c]

def Json.quote (text : String) : String :=
  String.ofList ('"' :: text.toList.flatMap Json.escapeChar ++ ['"'])

private def digitText (digits : List Nat) : String :=
  String.ofList (digits.map fun digit => Char.ofNat (48 + digit))

/-- Doubles from 10⁻⁵ up to 10¹⁶ are written with a point and at least one digit on either side of
it; all others as one digit, the remaining digits after a point, and a power of ten. -/
def Decimal.Digits.render (number : Decimal.Digits) : String :=
  let count : Int := number.digits.length
  let zeros (n : Int) : List Nat := List.replicate n.toNat 0
  if count ≤ number.point ∧ number.point ≤ 16 then
    digitText (number.digits ++ zeros (number.point - count)) ++ ".0"
  else if 0 < number.point ∧ number.point ≤ 16 then
    digitText (number.digits.take number.point.toNat) ++ "."
      ++ digitText (number.digits.drop number.point.toNat)
  else if -5 < number.point ∧ number.point ≤ 0 then
    "0." ++ digitText (zeros (-number.point) ++ number.digits)
  else
    let power := toString (number.point - 1)
    match number.digits with
    | [] => "0.0"
    | [digit] => digitText [digit] ++ "e" ++ power
    | digit :: rest => digitText [digit] ++ "." ++ digitText rest ++ "e" ++ power

def Decimal.renderDouble (value : Float) : String :=
  let sign := if Decimal.isNegative value then "-" else ""
  if value == 0 then sign ++ "0.0" else sign ++ (Decimal.shortest value).render

namespace Number

def render : Number → String
  | int value => toString value
  | float value => Decimal.renderDouble value

end Number

namespace Json

mutual

def renderChars : Json → List Char
  | null => "null".toList
  | bool true => "true".toList
  | bool false => "false".toList
  | number value => value.render.toList
  | text value => (quote value).toList
  | array items => '[' :: renderItems items ++ [']']
  | object fields => '\x7b' :: renderFields fields ++ ['\x7d']

def renderItems : List Json → List Char
  | [] => []
  | [item] => renderChars item
  | item :: next :: rest => renderChars item ++ ',' :: renderItems (next :: rest)

def renderFields : List (String × Json) → List Char
  | [] => []
  | [(key, value)] => (quote key).toList ++ ':' :: renderChars value
  | (key, value) :: next :: rest =>
    (quote key).toList ++ ':' :: renderChars value ++ ',' :: renderFields (next :: rest)

end

def render (value : Json) : String :=
  String.ofList (renderChars value)

end Json

end GitDelivery
