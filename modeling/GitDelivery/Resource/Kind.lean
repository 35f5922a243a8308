import GitDelivery.Json.Basic
import GitDelivery.Resource.Vocabulary
import GitDelivery.Text.Basic

set_option autoImplicit false

/-! The kinds of objects: an API group, a version of it, and a name. -/

namespace GitDelivery

structure ResourceKind where
  group : String
  version : String
  kind : String
  deriving DecidableEq

namespace ResourceKind

/-- Group and version in one text; objects of the core group name the version only. -/
def apiVersion (kind : ResourceKind) : String :=
  if kind.group.isEmpty then kind.version else kind.group ++ "/" ++ kind.version

def ofTexts (apiVersion kind : String) : ResourceKind :=
  match Text.splitOnce '/' apiVersion with
  | some (group, version) => ⟨group, version, kind⟩
  | none => ⟨"", apiVersion, kind⟩

/-- The kind that an object declares by two texts, neither of them empty. -/
def declared? (object : Json) : Option ResourceKind := do
  let apiVersion ← (object.textAt? "apiVersion").bind Text.nonEmpty?
  let kind ← (object.textAt? "kind").bind Text.nonEmpty?
  return ofTexts apiVersion kind

def isSubscription (kind : ResourceKind) : Bool :=
  Text.sameIgnoringCase kind.group Vocabulary.appsGroup
    && Text.sameIgnoringCase kind.kind "Subscription"

end ResourceKind

end GitDelivery
