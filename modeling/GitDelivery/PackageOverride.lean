import GitDelivery.Json.Printer
import GitDelivery.Text.Basic

set_option autoImplicit false

/-! Package overrides: values that a subscription lays over the fields of a resource before it is
deployed. A field is named by the keys that lead to it, joined by points. -/

namespace GitDelivery

/-- Why a field path cannot be followed: the value that should hold the next key is no object. -/
inductive PathError where
  | blockedAt (segment : String)
  | blockedAtLeaf (leaf : String)
  deriving DecidableEq

/-- Writes a value at the end of a path, in place: the value as it is left, and whether the path could
be followed. Objects that are missing on the way are made when the path comes to them; where objects
meet at the end they merge, and anything else is replaced. -/
def Json.write (value : Json) : List String → Json → Json × Except PathError Unit
  | [], _ => (value, .ok ())
  | [leaf], target =>
    match target.fields? with
    | none => (target, .error (.blockedAtLeaf leaf))
    | some fields =>
      let written :=
        match Table.get? leaf fields with
        | some old => old.merge value
        | none => value
      (.object (Table.insert leaf written fields), .ok ())
  | segment :: next :: path, target =>
    match target.fields? with
    | none => (target, .error (.blockedAt segment))
    | some fields =>
      let (child, outcome) :=
        write value (next :: path) ((Table.get? segment fields).getD (.object []))
      (.object (Table.insert segment child fields), outcome)

/-- Overrides for the package of one name. Each entry is an object with a path and a value, or, for
a kustomization, the fields to lay over it. -/
structure PackageOverride where
  name : String
  displayName : Option String
  entries : List Json

namespace PackageOverride

inductive Failure where
  | noPath (entry : Json)
  | noValue (path : String)
  | blocked (path : String) (error : PathError)

def Failure.message : Failure → String
  | noPath entry => "override entry has no path: " ++ entry.render
  | noValue path => "override entry for '" ++ path ++ "' has no value"
  | blocked path (.blockedAt segment) =>
    "cannot override '" ++ path ++ "': '" ++ segment ++ "' has a non-object parent"
  | blocked path (.blockedAtLeaf leaf) =>
    "cannot override '" ++ path ++ "': parent of '" ++ leaf ++ "' is not an object"

/-- Writes a value at a path given as text, in place. -/
def writePath (path : String) (value target : Json) : Json × Except Failure Unit :=
  let (written, outcome) := Json.write value (Text.splitAll '.' path) target
  (written, outcome.mapError (.blocked path))

/-- The value that a path is written in, if all goes well. -/
def setPath (path : String) (value target : Json) : Except Failure Json :=
  let (written, outcome) := writePath path value target
  outcome.map fun _ => written

def applyEntry (entry target : Json) : Json × Except Failure Unit :=
  match (entry.textAt? "path").bind fun path => Text.nonEmpty? (Text.trim path) with
  | none => (target, .error (.noPath entry))
  | some path =>
    match entry.get? "value" with
    | none => (target, .error (.noValue path))
    | some value => writePath path value target

/-- Applies entries in order up to the first that fails, each to what the one before it left. -/
def applyEntries : List Json → Json → Json × Except Failure Nat
  | [], target => (target, .ok 0)
  | entry :: rest, target =>
    match applyEntry entry target with
    | (left, .error failure) => (left, .error failure)
    | (written, .ok ()) =>
      let (final, result) := applyEntries rest written
      (final, result.map (· + 1))

/-- The entries for one package, in the order of the list. -/
def entriesFor (name : String) (overrides : List PackageOverride) : List Json :=
  (overrides.filter (·.name = name)).flatMap entries

/-- Applies all overrides for a name: the value as it is left, and the number of entries applied. -/
def apply (overrides : List PackageOverride) (name : String) (target : Json) :
    Json × Except Failure Nat :=
  applyEntries (entriesFor name overrides) target

end PackageOverride

end GitDelivery
