import GitDelivery.Yaml.Value

set_option autoImplicit false

/-! Records of optional texts read straight from a document. Any scalar gives its text as it was
written, unless it is plainly null. -/

namespace GitDelivery.Yaml.Document

private def scalarText (text : String) (isPlain : Bool) (tag : Option String) :
    Except Failure (Option String) :=
  if !isPlain then .ok (some text)
  else
    match tag with
    | some "tag:yaml.org,2002:null" =>
      if text ≠ "" && Plain.isNull text then .ok none else .error (.typedScalar "null")
    | some _ => .ok (some text)
    | none => .ok (if Plain.isNull text then none else some text)

private def readText (document : Document) (node : Node) : Reading (Option String) := do
  match ← document.follow document.limitOf node with
  | .scalar text isPlain tag => (scalarText text isPlain tag : Except Failure (Option String))
  | _ => throw (.shape "a text")

private def keyOf (document : Document) (node : Node) : Reading String := do
  match ← document.follow document.limitOf node with
  | .scalar text _ _ => return text
  | _ => throw (.shape "a text as key")

private def readFields (document : Document) (names : List String) :
    List (Node × Node) → List (String × Option String) →
      Reading (List (String × Option String))
  | [], found => return found
  | (keyNode, valueNode) :: rest, found => do
    let key ← document.keyOf keyNode
    if !names.contains key then document.readFields names rest found
    else if found.any fun entry => entry.1 = key then throw .duplicateKey
    else document.readFields names rest ((key, ← document.readText valueNode) :: found)

private def readRecord (document : Document) (names : List String) :
    Reading (List (Option String)) :=
  match document.root with
  | none | some (.scalar "" true _) => return names.map fun _ => none
  | some (.mapping entries _) => do
    let found ← document.readFields names entries []
    return names.map fun name => (found.lookup name).join
  | some (.sequence items _) =>
    if items.length = names.length then items.mapM document.readText
    else throw (.shape "a list of the right length")
  | some _ => throw (.shape "a mapping")

/-- The texts of the named fields. Other fields do not count; a document without content has none of
them, and a list gives the fields in order. -/
def textFields (document : Document) (names : List String) :
    Except Failure (List (Option String)) :=
  (document.readRecord names).run' 0

end GitDelivery.Yaml.Document
