import GitDelivery.Json.Basic

set_option autoImplicit false

/-! Reading typed values out of structured values, and writing records back. A field that may be
missing may also be null; a field with a default may only be missing. -/

namespace GitDelivery

/-- Why a value is not of the type that is read. -/
inductive DecodeError where
  | missing (field : String)
  | expected (shape : String)
  deriving DecidableEq

def DecodeError.message : DecodeError → String
  | missing field => "missing field '" ++ field ++ "'"
  | expected shape => "expected " ++ shape

abbrev Decoder (α : Type) := Json → Except DecodeError α

namespace Decoder

variable {α : Type}

def text : Decoder String
  | .text value => .ok value
  | _ => .error (.expected "text")

def bool : Decoder Bool
  | .bool value => .ok value
  | _ => .error (.expected "a truth value")

/-- Whole numbers of 64 bits with sign. -/
def integer : Decoder Int
  | .number (.int value) =>
    if -(Nat.pow 2 63) ≤ value ∧ value < Nat.pow 2 63 then .ok value else .error (.expected "a 64-bit number")
  | _ => .error (.expected "a whole number")

def json : Decoder Json := .ok

def each (decode : Decoder α) : List Json → Except DecodeError (List α)
  | [] => .ok []
  | item :: rest => do
    let value ← decode item
    let values ← each decode rest
    return value :: values

def list (decode : Decoder α) : Decoder (List α)
  | .array items => each decode items
  | _ => .error (.expected "a list")

def eachField (decode : Decoder α) : List (String × Json) → Except DecodeError (Table α)
  | [] => .ok []
  | (key, item) :: rest => do
    let value ← decode item
    let values ← eachField decode rest
    return (key, value) :: values

def table (decode : Decoder α) : Decoder (Table α)
  | .object fields => eachField decode fields
  | _ => .error (.expected "an object")

def fields : Decoder (Table Json)
  | .object fields => .ok fields
  | _ => .error (.expected "an object")

/-- The fields of a record, which is written as an object or as the list of its fields in order. -/
def record (names : List String) : Decoder (Table Json)
  | .object fields => .ok fields
  | .array items =>
    if items.length ≤ names.length then .ok (names.zip items) else .error (.expected "fewer fields")
  | _ => .error (.expected "an object")

def required (decode : Decoder α) (name : String) (fields : Table Json) : Except DecodeError α :=
  match Table.get? name fields with
  | some value => decode value
  | none => .error (.missing name)

def optional (decode : Decoder α) (name : String) (fields : Table Json) :
    Except DecodeError (Option α) :=
  match Table.get? name fields with
  | none | some .null => .ok none
  | some value => (decode value).map some

def defaulted (absent : α) (decode : Decoder α) (name : String) (fields : Table Json) :
    Except DecodeError α :=
  match Table.get? name fields with
  | some value => decode value
  | none => .ok absent

end Decoder

namespace Json

/-- An object of those fields that have a value. -/
def ofPresent (fields : List (String × Option Json)) : Json :=
  ofFields (fields.filterMap fun (key, value) => value.map (key, ·))

def ofTable {α : Type} (encode : α → Json) (table : Table α) : Json :=
  object (table.map fun (key, value) => (key, encode value))

/-- A list that is left out when it is empty. -/
def listUnlessEmpty {α : Type} (encode : α → Json) (items : List α) : Option Json :=
  if items.isEmpty then none else some (array (items.map encode))

/-- A table that is left out when it is empty. -/
def tableUnlessEmpty {α : Type} (encode : α → Json) (table : Table α) : Option Json :=
  if table.isEmpty then none else some (ofTable encode table)

end Json

end GitDelivery
