set_option autoImplicit false

/-! Cutting text: blanks and trimming, splitting at a character, lines, and comparison without
regard to ASCII case. Every operation is stated on the list of characters of the text. -/

namespace GitDelivery.Text

/-- The characters with the Unicode property White_Space. -/
def isBlank (c : Char) : Bool :=
  let code := c.toNat
  (0x9 ≤ code && code ≤ 0xD) || code == 0x20 || code == 0x85 || code == 0xA0 || code == 0x1680 ||
    (0x2000 ≤ code && code ≤ 0x200A) || code == 0x2028 || code == 0x2029 || code == 0x202F ||
    code == 0x205F || code == 0x3000

/-- The list without its longest ending that satisfies `drop`. -/
def dropEndWhile {α : Type} (drop : α → Bool) (items : List α) : List α :=
  (items.reverse.dropWhile drop).reverse

def trimStart (text : String) : String :=
  String.ofList (text.toList.dropWhile isBlank)

def trimEnd (text : String) : String :=
  String.ofList (dropEndWhile isBlank text.toList)

/-- The text without the blanks at its two ends. -/
def trim (text : String) : String :=
  String.ofList (dropEndWhile isBlank (text.toList.dropWhile isBlank))

/-- The text without the copies of `c` at its two ends. -/
def trimChar (c : Char) (text : String) : String :=
  String.ofList (dropEndWhile (· == c) (text.toList.dropWhile (· == c)))

def trimEndChar (c : Char) (text : String) : String :=
  String.ofList (dropEndWhile (· == c) text.toList)

/-- What stands before and after the first separator, if there is one. -/
def cutAt (separator : Char) : List Char → Option (List Char × List Char)
  | [] => none
  | c :: rest =>
    if c = separator then some ([], rest)
    else (cutAt separator rest).map fun (before, after) => (c :: before, after)

/-- What stands before and after the first separator of a text, if there is one. -/
def splitOnce (separator : Char) (text : String) : Option (String × String) :=
  (cutAt separator text.toList).map fun (before, after) =>
    (String.ofList before, String.ofList after)

/-- The pieces between separators; never empty, since a text without one is its own piece. -/
def pieces (separator : Char) : List Char → List (List Char)
  | [] => [[]]
  | c :: rest =>
    if c = separator then [] :: pieces separator rest
    else
      match pieces separator rest with
      | [] => [[c]]
      | piece :: more => (c :: piece) :: more

/-- All pieces of a text between separators, empty ones included. -/
def splitAll (separator : Char) (text : String) : List String :=
  (pieces separator text.toList).map String.ofList

/-- One line without the carriage return that may end it. -/
def dropCarriageReturn (line : List Char) : List Char :=
  if line.getLast? = some '\r' then line.dropLast else line

/-- The lines of a text: a line feed ends a line, a carriage return before it belongs to it, and
what follows the last line feed is a line only if it is not empty. -/
def lines (text : String) : List String :=
  let parts := pieces '\n' text.toList
  let ended := if parts.getLast? = some [] then parts.dropLast else parts
  match ended.reverse with
  | [] => []
  | final :: earlier =>
    let last := if parts.getLast? = some [] then dropCarriageReturn final else final
    ((earlier.reverse.map dropCarriageReturn) ++ [last]).map String.ofList

def dropLeading? (leading text : String) : Option String :=
  if leading.toList.isPrefixOf text.toList then
    some (String.ofList (text.toList.drop leading.toList.length))
  else none

def dropTrailing? (trailing text : String) : Option String :=
  if trailing.toList.isSuffixOf text.toList then
    some (String.ofList (text.toList.take (text.toList.length - trailing.toList.length)))
  else none

/-- Does one list stand somewhere inside the other without a gap? -/
def occursIn (part : List Char) : List Char → Bool
  | [] => part.isEmpty
  | c :: rest => part.isPrefixOf (c :: rest) || occursIn part rest

def containsText (part text : String) : Bool :=
  occursIn part.toList text.toList

def lowerAscii (text : String) : String :=
  String.ofList (text.toList.map Char.toLower)

def upperAscii (text : String) : String :=
  String.ofList (text.toList.map Char.toUpper)

/-- Equality that takes ASCII capitals and small letters for the same. -/
def sameIgnoringCase (left right : String) : Bool :=
  left.toList.map Char.toLower == right.toList.map Char.toLower

def nonEmpty? (text : String) : Option String :=
  if text.isEmpty then none else some text

/-- At most `limit` characters from the start. -/
def truncate (limit : Nat) (text : String) : String :=
  String.ofList (text.toList.take limit)

end GitDelivery.Text
