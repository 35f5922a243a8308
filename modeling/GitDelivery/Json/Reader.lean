import GitDelivery.Bytes.Hex
import GitDelivery.Decimal.Double
import GitDelivery.Json.Basic

set_option autoImplicit false

/-! Reading structured values from text. A number is whole if it is written without a point and
without a power of ten and fits 64 bits; other numbers are doubles. -/

namespace GitDelivery.Json

/-- What is read, and the characters after it. -/
abbrev Reader (α : Type) := List Char → Option (α × List Char)

namespace Reader

def isGap (c : Char) : Bool :=
  c = ' ' || c = '\t' || c = '\n' || c = '\r'

def skipGaps (text : List Char) : List Char :=
  text.dropWhile isGap

/-- Digits up to 64 bits: their value, how many count, how many after these do not, and the rest. -/
structure DigitRun where
  value : Nat
  used : Nat
  dropped : Nat
  rest : List Char

def digitRun (value : Nat) (full : Bool) : List Char → DigitRun
  | [] => ⟨value, 0, 0, []⟩
  | c :: rest =>
    if !c.isDigit then ⟨value, 0, 0, c :: rest⟩
    else
      let next := 10 * value + (c.toNat - '0'.toNat)
      if full || Nat.pow 2 64 ≤ next then
        let run := digitRun value true rest
        { run with dropped := run.dropped + 1 }
      else
        let run := digitRun next false rest
        { run with used := run.used + 1 }

/-- A number of 64 bits times a power of ten, which is rounded itself before it is multiplied or
divided by. Very small powers are divided by in steps of 308. -/
def scaledDouble : Nat → Float → Int → Option Float
  | 0, value, _ => some value
  | steps + 1, value, power =>
    if value == 0 then some value
    else if power.natAbs ≤ 308 then do
      let scale ← Decimal.ofDecimal? 1 power.natAbs
      let scaled := if 0 ≤ power then value * scale else value / scale
      if scaled.isInf then none else return scaled
    else if 0 < power then none
    else scaledDouble steps (value / 1e308) (power + 308)

def double (negative : Bool) (value : Nat) (power : Int) : Option Float :=
  (scaledDouble 40 value.toUInt64.toFloat power).map fun result =>
    if negative then -result else result

/-- The power of ten after an `e`, held below a hundred thousand. -/
def power : Reader Int
  | c :: rest =>
    if c ≠ 'e' && c ≠ 'E' then none
    else
      let (sign, digits) : Int × List Char :=
        match rest with
        | '-' :: digits => (-1, digits)
        | '+' :: digits => (1, digits)
        | digits => (1, digits)
      let run := digits.takeWhile Char.isDigit
      let value := run.foldl (fun total c => min (10 * total + (c.toNat - '0'.toNat)) 100000) 0
      if run.isEmpty then none else some (sign * value, digits.dropWhile Char.isDigit)
  | [] => none

def number (negative : Bool) : Reader Json := fun text => do
  let whole := digitRun 0 false text
  if whole.used = 0 then none
  let (value, shift, isDouble, rest) : Nat × Int × Bool × List Char ←
    match whole.rest with
    | '.' :: digits =>
      let run := digitRun whole.value false digits
      if run.used + run.dropped = 0 then none
      else some (run.value, (whole.dropped : Int) - run.used, true, run.rest)
    | rest => some (whole.value, (whole.dropped : Int), whole.dropped ≠ 0, rest)
  let (shift, isDouble, rest) :=
    match power rest with
    | some (power, rest) => (shift + power, true, rest)
    | none => (shift, isDouble, rest)
  if isDouble || (negative && (value = 0 || Nat.pow 2 63 < value)) then
    return (.number (.float (← double negative value shift)), rest)
  else return (.number (.int (if negative then -(value : Int) else value)), rest)

private def unit? (a b c d : Char) : Option Nat := do
  let digits := [← Bytes.hexValue? a, ← Bytes.hexValue? b, ← Bytes.hexValue? c, ← Bytes.hexValue? d]
  return digits.foldl (fun total digit => 16 * total + digit) 0

private def escaped (c : Char) : Char :=
  if c = 'n' then '\n'
  else if c = 't' then '\t'
  else if c = 'r' then '\r'
  else if c = 'b' then '\x08'
  else if c = 'f' then '\x0c'
  else c

private def prepend (c : Char) (read : Option (List Char × List Char)) :
    Option (List Char × List Char) :=
  read.map fun (letters, rest) => (c :: letters, rest)

/-- Text after its opening quote. Characters beyond 16 bits may be escaped in two halves. -/
def quoted : Reader (List Char)
  | '"' :: rest => some ([], rest)
  | '\\' :: 'u' :: a :: b :: c :: d :: '\\' :: 'u' :: e :: f :: g :: h :: rest => do
    let high ← unit? a b c d
    let low ← unit? e f g h
    if 0xD800 ≤ high ∧ high < 0xDC00 then
      prepend (Char.ofNat (0x10000 + (high - 0xD800) * 1024 + (low - 0xDC00))) (quoted rest)
    else prepend (Char.ofNat high) (quoted ('\\' :: 'u' :: e :: f :: g :: h :: rest))
  | '\\' :: 'u' :: a :: b :: c :: d :: rest => do
    prepend (Char.ofNat (← unit? a b c d)) (quoted rest)
  | '\\' :: c :: rest => prepend (escaped c) (quoted rest)
  | c :: rest => prepend c (quoted rest)
  | [] => none
termination_by input => input.length

def quotedText : Reader String := fun input =>
  (quoted input).map fun (letters, rest) => (String.ofList letters, rest)

mutual

def value : Nat → Reader Json
  | 0, _ => none
  | depth + 1, input =>
    match skipGaps input with
    | 'n' :: 'u' :: 'l' :: 'l' :: rest => some (.null, rest)
    | 't' :: 'r' :: 'u' :: 'e' :: rest => some (.bool true, rest)
    | 'f' :: 'a' :: 'l' :: 's' :: 'e' :: rest => some (.bool false, rest)
    | '"' :: rest => (quotedText rest).map fun (letters, rest) => (.text letters, rest)
    | '-' :: rest => number true rest
    | '[' :: rest =>
      match skipGaps rest with
      | ']' :: rest => some (.array [], rest)
      | rest => (items depth rest).map fun (items, rest) => (.array items, rest)
    | '\x7b' :: rest =>
      match skipGaps rest with
      | '\x7d' :: rest => some (.object [], rest)
      | rest => (fields depth rest).map fun (fields, rest) => (.ofFields fields, rest)
    | rest => number false rest

def items : Nat → Reader (List Json)
  | 0, _ => none
  | depth + 1, input => do
    let (item, rest) ← value depth input
    match skipGaps rest with
    | ',' :: rest =>
      let (others, rest) ← items depth rest
      return (item :: others, rest)
    | ']' :: rest => return ([item], rest)
    | _ => none

def fields : Nat → Reader (List (String × Json))
  | 0, _ => none
  | depth + 1, input =>
    match skipGaps input with
    | '"' :: rest => do
      let (key, rest) ← quotedText rest
      match skipGaps rest with
      | ':' :: rest =>
        let (item, rest) ← value depth rest
        match skipGaps rest with
        | ',' :: rest =>
          let (others, rest) ← fields depth rest
          return ((key, item) :: others, rest)
        | '\x7d' :: rest => return ([(key, item)], rest)
        | _ => none
      | _ => none
    | _ => none

end

end Reader

/-- The value that a text holds, and nothing after it but blanks. -/
def ofText? (input : String) : Option Json := do
  let (value, rest) ← Reader.value (input.length + 1) input.toList
  if (Reader.skipGaps rest).isEmpty then return value else none

end GitDelivery.Json
