import GitDelivery.Table

set_option autoImplicit false

/-! Structured values: null, truth values, numbers, text, lists and objects. An object is a table of
fields in ascending key order. Numbers keep the difference between whole numbers and doubles. -/

namespace GitDelivery

/-- A whole number between -2⁶³ and 2⁶⁴ - 1, or a finite double. -/
inductive Number where
  | int (value : Int)
  | float (value : Float)

inductive Json where
  | null
  | bool (value : Bool)
  | number (value : Number)
  | text (value : String)
  | array (items : List Json)
  | object (fields : List (String × Json))

namespace Json

instance : Inhabited Json := ⟨null⟩

def fields? : Json → Option (Table Json)
  | object fields => some fields
  | _ => none

def text? : Json → Option String
  | text value => some value
  | _ => none

def items? : Json → Option (List Json)
  | array items => some items
  | _ => none

def isObject : Json → Bool
  | object _ => true
  | _ => false

def isNull : Json → Bool
  | null => true
  | _ => false

/-- The value of a field; nothing for a value that is not an object. -/
def get? (key : String) : Json → Option Json
  | object fields => Table.get? key fields
  | _ => none

def textAt? (key : String) (value : Json) : Option String :=
  (value.get? key).bind text?

def ofFields (pairs : List (String × Json)) : Json :=
  object (Table.ofList pairs)

def ofNat (value : Nat) : Json := number (.int value)

def ofInt (value : Int) : Json := number (.int value)

def texts (values : List String) : Json := array (values.map text)

/-- Null for a missing value. -/
def ofOption {α : Type} (encode : α → Json) : Option α → Json
  | none => null
  | some value => encode value

mutual

/-- Lays a patch over a value. Two objects merge field by field; of any other two values the patch
stays. -/
def merge (base : Json) : Json → Json
  | object patch =>
    match base with
    | object fields => object (mergeFields fields patch)
    | _ => object patch
  | null => null
  | bool value => bool value
  | number value => number value
  | text value => text value
  | array items => array items

/-- Lays the fields of a patch over the fields of an object. -/
def mergeFields (base : List (String × Json)) : List (String × Json) → List (String × Json)
  | [] => base
  | (key, value) :: rest =>
    let merged :=
      match Table.get? key base with
      | some old => merge old value
      | none => value
    Table.insert key merged (mergeFields base rest)

end

def at? : List String → Json → Option Json
  | [], value => some value
  | key :: path, value => (value.get? key).bind (at? path)

end Json

end GitDelivery
