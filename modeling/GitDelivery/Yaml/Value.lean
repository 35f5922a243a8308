import GitDelivery.Decimal.Double
import GitDelivery.Json.Printer
import GitDelivery.Text.Basic
import GitDelivery.Yaml.Document

set_option autoImplicit false

/-! What documents mean: null, truth values, numbers, texts, lists and mappings, and values that carry
a tag of their own. References stand for copies of what they refer to. -/

namespace GitDelivery.Yaml

inductive Value where
  | null
  | bool (value : Bool)
  | int (value : Int)
  | float (value : Float)
  | text (value : String)
  | sequence (items : List Value)
  | mapping (entries : List (Value × Value))
  | tagged (tag : String) (value : Value)

namespace Plain

def isNull (text : String) : Bool :=
  text = "" || text = "null" || text = "Null" || text = "NULL" || text = "~"

def bool? (text : String) : Option Bool :=
  if text = "true" || text = "True" || text = "TRUE" then some true
  else if text = "false" || text = "False" || text = "FALSE" then some false
  else none

private def digitOf? (base : Nat) (c : Char) : Option Nat :=
  (Bytes.hexValue? c).filter (· < base)

/-- The number that digits of a base write; there must be at least one. -/
private def digits? (base : Nat) (text : List Char) : Option Nat :=
  if text.isEmpty then none
  else text.foldl (fun total c => do
    let total ← total
    let digit ← digitOf? base c
    return base * total + digit) (some 0)

private def dropSign (text : List Char) : List Char :=
  match text with
  | '+' :: rest => rest
  | '-' :: rest => rest
  | _ => text

/-- A zero followed by more digits: such a text is no number. -/
def hasLeadingZero (text : List Char) : Bool :=
  match dropSign text with
  | '0' :: c :: rest => (c :: rest).all Char.isDigit
  | _ => false

/-- Hexadecimal, octal and binary digits after their marks. -/
private def marked? : List Char → Option Nat
  | '0' :: 'x' :: rest => digits? 16 rest
  | '0' :: 'o' :: rest => digits? 8 rest
  | '0' :: 'b' :: rest => digits? 2 rest
  | _ => none

/-- A whole number of any size. -/
def wholeNumber? (text : String) : Option Int :=
  let chars := text.toList
  match chars with
  | '-' :: rest =>
    match marked? rest with
    | some value => some (-(value : Int))
    | none =>
      if hasLeadingZero chars then none else (digits? 10 rest).map fun value => -(value : Int)
  | _ =>
    let unsigned := if chars.head? = some '+' then chars.drop 1 else chars
    match marked? unsigned with
    | some value => some value
    | none =>
      if hasLeadingZero chars then none else (digits? 10 unsigned).map fun value => (value : Int)

/-- Whole numbers that fit 64 bits, with sign or without. -/
def fits64 (value : Int) : Bool := -(Nat.pow 2 63) ≤ value && value < Nat.pow 2 64

/-- Whole numbers that fit 128 bits, with sign or without. -/
def fits128 (value : Int) : Bool := -(Nat.pow 2 127) ≤ value && value < Nat.pow 2 128

/-- A power of ten after its letter; an empty text is the power zero. -/
private def power? : List Char → Option Int
  | [] => some 0
  | mark :: rest =>
    if mark = 'e' || mark = 'E' then
      let negative := rest.head? = some '-'
      let digits := if negative || rest.head? = some '+' then rest.drop 1 else rest
      (digits? 10 digits).map fun value => if negative then -(value : Int) else value
    else none

/-- A finite decimal number with a point or a power of ten, or without. -/
private def decimal? (text : List Char) : Option Float := do
  let negative := text.head? = some '-'
  let unsigned := if negative then text.drop 1 else text
  let whole := unsigned.takeWhile Char.isDigit
  let afterWhole := unsigned.dropWhile Char.isDigit
  let (fraction, rest) :=
    match afterWhole with
    | '.' :: more => (more.takeWhile Char.isDigit, more.dropWhile Char.isDigit)
    | _ => ([], afterWhole)
  let mantissa ← digits? 10 (whole ++ fraction)
  let power ← power? rest
  let value ← Decimal.ofDecimal? mantissa (power - fraction.length)
  return if negative then -value else value

/-- A double, or one of the names of the infinities and of what is not a number. -/
def float? (text : String) : Option Float :=
  let chars := text.toList
  let signed := chars.head? = some '+'
  let unsigned := if signed then chars.drop 1 else chars
  let name := String.ofList unsigned
  if signed && (unsigned.head? = some '+' || unsigned.head? = some '-') then none
  else if name = ".inf" || name = ".Inf" || name = ".INF" then some (1 / 0)
  else if text = "-.inf" || text = "-.Inf" || text = "-.INF" then some (-1 / 0)
  else if text = ".nan" || text = ".NaN" || text = ".NAN" then some (0 / 0)
  else decimal? unsigned

/-- A whole number as a value. One that fits 128 bits but not 64 is refused; an even larger one is
not read as a whole number. -/
def int? (text : String) : Except Failure (Option Value) :=
  match wholeNumber? text with
  | some value =>
    if fits64 value then .ok (some (.int value))
    else if fits128 value then .error (.typedScalar "a 64-bit number")
    else .ok none
  | none => .ok none

def value (text : String) : Except Failure Value := do
  if isNull text then return .null
  match bool? text with
  | some value => return .bool value
  | none =>
    match ← int? text with
    | some value => return value
    | none =>
      if hasLeadingZero text.toList then return .text text
      match float? text with
      | some value => return .float value
      | none => return .text text

end Plain

/-- The name in a tag that begins with an exclamation mark. -/
def localTag? (tag : Option String) : Option String :=
  match tag.map String.toList with
  | some ['!'] => some "!"
  | some ('!' :: rest) => some (String.ofList rest)
  | _ => none

/-- What a scalar means. Some tags ask for a type, whatever the style; a tag of its own has been taken
off before. -/
def scalarValue (text : String) (isPlain : Bool) (tag : Option String) : Except Failure Value :=
  match tag with
  | some "tag:yaml.org,2002:bool" =>
    match Plain.bool? text with
    | some value => .ok (.bool value)
    | none => .error (.typedScalar "a truth value")
  | some "tag:yaml.org,2002:int" =>
    match Plain.int? text with
    | .ok (some value) => .ok value
    | .ok none => .error (.typedScalar "a whole number")
    | .error failure => .error failure
  | some "tag:yaml.org,2002:float" =>
    match Plain.float? text with
    | some value => .ok (.float value)
    | none => .error (.typedScalar "a number")
  | some "tag:yaml.org,2002:null" =>
    if text ≠ "" && Plain.isNull text then .ok .null else .error (.typedScalar "null")
  | some _ => .ok (.text text)
  | none => if isPlain then Plain.value text else .ok (.text text)

mutual

/-- Equality of keys. Not-a-number equals itself, and the order of entries does not count. -/
def Value.same : Value → Value → Bool
  | .null, .null => true
  | .bool left, .bool right => left = right
  | .int left, .int right => left = right
  | .float left, .float right => left == right || (left.isNaN && right.isNaN)
  | .text left, .text right => left = right
  | .sequence left, .sequence right => sameItems left right
  | .mapping left, .mapping right => left.length = right.length && sameEntries left right
  | .tagged leftTag left, .tagged rightTag right => leftTag = rightTag && left.same right
  | _, _ => false

def sameItems : List Value → List Value → Bool
  | [], [] => true
  | left :: lefts, right :: rights => left.same right && sameItems lefts rights
  | _, _ => false

def sameEntries : List (Value × Value) → List (Value × Value) → Bool
  | [], _ => true
  | (key, value) :: rest, others =>
    (others.any fun (name, other) => key.same name && value.same other) && sameEntries rest others

end

/-- The number of marks that a reader meets on its way through a tree. -/
def Node.size : Node → Nat
  | .scalar _ _ _ => 1
  | .reference _ => 1
  | .sequence items _ => 2 + sizeOfItems items
  | .mapping entries _ => 2 + sizeOfEntries entries
where
  sizeOfItems : List Node → Nat
    | [] => 0
    | item :: rest => item.size + sizeOfItems rest
  sizeOfEntries : List (Node × Node) → Nat
    | [] => 0
    | (key, value) :: rest => key.size + value.size + sizeOfEntries rest

namespace Document

/-- How deep collections may stand in each other. -/
def depthLimit : Nat := 128

/-- Reading counts the references it follows; a document of `n` marks may have `100 n` followed. -/
abbrev Reading := StateT Nat (Except Failure)

/-- The node itself, or what it refers to. -/
def follow (document : Document) (limit : Nat) (node : Node) : Reading Node :=
  match node with
  | .reference number => do
    let followed := (← get) + 1
    set followed
    if limit < followed then throw .tooManyAliases
    match document.anchors.lookup number with
    | some target => return target
    | none => throw (.unknownAnchor "")
  | node => return node

def limitOf (document : Document) : Nat :=
  100 * (document.root.map Node.size).getD 1

def distinctEntries (seen : List (Value × Value)) :
    List (Node × Node) → (Node → Reading Value) → Reading (List (Value × Value))
  | [], _ => return seen.reverse
  | (keyNode, valueNode) :: rest, read => do
    let key ← read keyNode
    if seen.any fun entry => entry.1.same key then throw .duplicateKey
    let value ← read valueNode
    distinctEntries ((key, value) :: seen) rest read

/-- One level of a tree, with a reader for the levels below unless the depth is used up. -/
def valueLevel (below : Option (Node → Reading Value)) (node : Node) : Reading Value :=
  match node with
  | .reference _ => throw (.unknownAnchor "")
  | .scalar text isPlain tag =>
    match localTag? tag with
    | some name => return .tagged name (← (scalarValue text isPlain none : Except Failure Value))
    | none => (scalarValue text isPlain tag : Except Failure Value)
  | .sequence items tag =>
    match below with
    | none => throw .tooDeep
    | some read => do
      let values ← items.mapM read
      return wrap tag (.sequence values)
  | .mapping entries tag =>
    match below with
    | none => throw .tooDeep
    | some read => do
      let values ← distinctEntries [] entries read
      return wrap tag (.mapping values)
where
  wrap (tag : Option String) (value : Value) : Value :=
    match localTag? tag with
    | some name => .tagged name value
    | none => value

def readValue (document : Document) (limit : Nat) : Nat → Node → Reading Value
  | 0, node => do valueLevel none (← document.follow limit node)
  | depth + 1, node => do
    valueLevel (some (readValue document limit depth)) (← document.follow limit node)

/-- What the document means. A document without content means null. -/
def value (document : Document) : Except Failure Value :=
  match document.root with
  | none => .ok .null
  | some root => (document.readValue document.limitOf depthLimit root).run' 0

/-- A double as a structured value, in which there are only finite ones. -/
def jsonOfFloat (value : Float) : Json :=
  if value.isFinite then .number (.float value) else .null

/-- The written text of a key; its tag and style do not count. -/
private def keyText (document : Document) (limit : Nat) (node : Node) : Reading String := do
  match ← document.follow limit node with
  | .scalar text _ _ => return text
  | _ => throw (.shape "a text as key")

private def scalarJson (text : String) (isPlain : Bool) (tag : Option String) :
    Except Failure Json := do
  match ← scalarValue text isPlain tag with
  | .null => return .null
  | .bool value => return .bool value
  | .int value => return .ofInt value
  | .float value => return jsonOfFloat value
  | .text value => return .text value
  | _ => throw (.shape "a scalar")

private def jsonFields (document : Document) (limit : Nat) :
    List (Node × Node) → (Node → Reading Json) → Reading (List (String × Json))
  | [], _ => return []
  | (keyNode, valueNode) :: rest, read => do
    let key ← document.keyText limit keyNode
    let value ← read valueNode
    return (key, value) :: (← document.jsonFields limit rest read)

/-- One level of a tree as a structured value, in which there are no tags. -/
private def jsonLevel (document : Document) (limit : Nat) (below : Option (Node → Reading Json))
    (node : Node) : Reading Json :=
  match node with
  | .reference _ => throw (.unknownAnchor "")
  | .scalar text isPlain tag => do
    if (localTag? tag).isSome then throw (.shape "a value without a tag")
    (scalarJson text isPlain tag : Except Failure Json)
  | .sequence items tag =>
    match below with
    | none => throw .tooDeep
    | some read => do
      if (localTag? tag).isSome then throw (.shape "a value without a tag")
      return .array (← items.mapM read)
  | .mapping entries tag =>
    match below with
    | none => throw .tooDeep
    | some read => do
      if (localTag? tag).isSome then throw (.shape "a value without a tag")
      return .ofFields (← document.jsonFields limit entries read)

private def readJson (document : Document) (limit : Nat) : Nat → Node → Reading Json
  | 0, node => do document.jsonLevel limit none (← document.follow limit node)
  | depth + 1, node => do
    document.jsonLevel limit (some (readJson document limit depth)) (← document.follow limit node)

/-- The document read directly as a structured value: keys are taken as they are written, and of two
entries with one key the last counts. -/
def json (document : Document) : Except Failure Json :=
  match document.root with
  | none => .ok .null
  | some root => (document.readJson document.limitOf depthLimit root).run' 0

end Document

namespace Value

def untagged : Value → Value
  | .tagged _ value => value.untagged
  | value => value

def text? (value : Value) : Option String :=
  match value.untagged with
  | .text written => some written
  | _ => none

def entries? (value : Value) : Option (List (Value × Value)) :=
  match value.untagged with
  | .mapping entries => some entries
  | _ => none

def isKey (name : String) : Value → Bool
  | .text written => written = name
  | _ => false

/-- The value of a key that is a text; tags around the mapping do not count. -/
def get? (name : String) (value : Value) : Option Value :=
  ((value.entries?.getD []).find? fun entry => isKey name entry.1).map Prod.snd

/-- How a number is written when it stands for text. -/
def floatText (value : Float) : String :=
  if value.isNaN then ".nan"
  else if value.isInf then if value < 0 then "-.inf" else ".inf"
  else Decimal.renderDouble value

def scalarText? : Value → Option String
  | .null => some ""
  | .bool value => some (if value then "true" else "false")
  | .int value => some (toString value)
  | .float value => some (floatText value)
  | .text value => some value
  | _ => none

def keyName (key : Value) : Except Failure String :=
  match key with
  | .text value => .ok value
  | .bool value => .ok (if value then "true" else "false")
  | .int value => .ok (toString value)
  | .float value =>
    if value.isFinite then .ok (Decimal.renderDouble value) else .error (.shape "a finite key")
  | _ => .error (.shape "a text as key")

def tagText (tag : String) : String := "!" ++ tag

mutual

/-- The structured value: a tag becomes the only key of an object, and keys become texts. -/
def toJson : Value → Except Failure Json
  | .null => .ok .null
  | .bool value => .ok (.bool value)
  | .int value => .ok (.ofInt value)
  | .float value => .ok (Document.jsonOfFloat value)
  | .text value => .ok (.text value)
  | .sequence items => (itemsToJson items).map .array
  | .mapping entries => (entriesToJson entries).map .ofFields
  | .tagged tag value => value.toJson.map fun inner => .ofFields [(tagText tag, inner)]

def itemsToJson : List Value → Except Failure (List Json)
  | [] => .ok []
  | item :: rest => do
    let first ← item.toJson
    return first :: (← itemsToJson rest)

def entriesToJson : List (Value × Value) → Except Failure (List (String × Json))
  | [] => .ok []
  | (key, value) :: rest => do
    let name ← keyName key
    let inner ← value.toJson
    return (name, inner) :: (← entriesToJson rest)

end

end Value

def parse (text : String) : Except Failure Value := do
  (← Document.ofText text).value

/-- The structured value that a text means, read directly. -/
def parseJson (text : String) : Except Failure Json := do
  (← Document.ofText text).json

end GitDelivery.Yaml
