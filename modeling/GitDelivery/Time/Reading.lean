import GitDelivery.Text.Basic

set_option autoImplicit false

/-! Reading the pieces of written times from the front of a text: numbers of limited width, letters,
and distances from Greenwich. Each reader returns what it read and the rest. -/

namespace GitDelivery.Time.Reading

abbrev Reader (α : Type) := List Char → Option (α × List Char)

def digit? (c : Char) : Option Nat :=
  if '0' ≤ c ∧ c ≤ '9' then some (c.toNat - '0'.toNat) else none

/-- The digits at the front, at most `width` of them. -/
def digits : Nat → List Char → List Nat × List Char
  | 0, rest => ([], rest)
  | _ + 1, [] => ([], [])
  | width + 1, c :: rest =>
    match digit? c with
    | none => ([], c :: rest)
    | some value =>
      let (more, left) := digits width rest
      (value :: more, left)

def numberOf (digits : List Nat) : Nat :=
  digits.foldl (fun total digit => 10 * total + digit) 0

/-- A number of one to `width` digits, after any blanks. -/
def number (width : Nat) : Reader Nat := fun text =>
  match digits width (text.dropWhile Text.isBlank) with
  | ([], _) => none
  | (found, rest) => some (numberOf found, rest)

/-- A year of up to four digits, or of any length after a sign. -/
def year : Reader Int := fun text =>
  match text.dropWhile Text.isBlank with
  | '-' :: rest => (unsigned rest).map fun (value, left) => (-(value : Int), left)
  | '+' :: rest => (unsigned rest).map fun (value, left) => ((value : Int), left)
  | rest => (number 4 rest).map fun (value, left) => ((value : Int), left)
where
  unsigned (rest : List Char) : Option (Nat × List Char) :=
    match digits rest.length rest with
    | ([], _) => none
    | (found, left) => some (numberOf found, left)

/-- One given character. -/
def mark (expected : Char) : Reader Unit
  | c :: rest => if c = expected then some ((), rest) else none
  | [] => none

/-- One given character, with any blanks before it. -/
def spacedMark (expected : Char) : Reader Unit := fun text =>
  mark expected (text.dropWhile Text.isBlank)

/-- A fraction of a second in nanoseconds; digits after the ninth do not count. -/
def fraction : Reader Nat
  | '.' :: rest =>
    match digits 9 rest with
    | ([], _) => none
    | (found, left) =>
      some (numberOf found * Nat.pow 10 (9 - found.length), left.dropWhile fun c => (digit? c).isSome)
  | rest => some (0, rest)

/-- What may stand between hours and minutes. -/
def isSeparator (c : Char) : Bool :=
  c = ':' || Text.isBlank c

/-- A distance from Greenwich in seconds: a sign, two digits of hours, colons or blanks if any, and
two digits of minutes below sixty. -/
def offset : Reader Int
  | [] => none
  | sign :: rest =>
    let direction : Option Int :=
      if sign = '+' then some 1
      else if sign = '-' || sign = '\u2212' then some (-1)
      else none
    match direction, digits 2 rest with
    | some direction, ([h, i], afterHours) =>
      match digits 2 (afterHours.dropWhile isSeparator) with
      | ([m, n], left) =>
        if m < 6 then some (direction * ((10 * h + i : Nat) * 3600 + (10 * m + n : Nat) * 60), left)
        else none
      | _ => none
    | _, _ => none

/-- Distances of a day or more are no distances. -/
def isOffset (seconds : Int) : Bool :=
  -86400 < seconds && seconds < 86400

end GitDelivery.Time.Reading
