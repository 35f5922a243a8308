import GitDelivery.Text.Basic

set_option autoImplicit false

/-! Identities of namespaced objects and the texts that refer to them. -/

namespace GitDelivery

/-- A namespace and a name in it, written `namespace/name`. -/
structure ObjectKey where
  space : String
  name : String
  deriving DecidableEq

namespace ObjectKey

def text (key : ObjectKey) : String :=
  key.space ++ "/" ++ key.name

/-- Reads a reference in which the namespace may be left out. What stands before the first slash is
the namespace, unless it is empty. -/
def ofReference (home reference : String) : ObjectKey :=
  match Text.splitOnce '/' reference with
  | none => ⟨home, reference⟩
  | some (space, name) => if space.isEmpty then ⟨home, name⟩ else ⟨space, name⟩

/-- Reads a reference in which neither part may be empty. -/
def ofText? (reference : String) : Option ObjectKey :=
  match Text.splitOnce '/' reference with
  | none => none
  | some (space, name) => if space.isEmpty || name.isEmpty then none else some ⟨space, name⟩

/-- What is said of a text that is not a full reference. -/
def invalidMessage (reference : String) : String :=
  "invalid object reference '" ++ reference ++ "', expected namespace/name"

end ObjectKey

end GitDelivery
