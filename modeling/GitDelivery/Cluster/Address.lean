import GitDelivery.Bytes.Utf8
import GitDelivery.Resource.Kind

set_option autoImplicit false

/-! Where kinds and their objects are found on an API server. -/

namespace GitDelivery.Cluster

/-- A kind of objects as a server offers it. -/
structure ServedKind where
  kind : ResourceKind
  plural : String
  isNamespaced : Bool
  deriving DecidableEq

namespace ServedKind

/-- The objects in one namespace, or all there are. -/
def address (space : Option String) (served : ServedKind) : String :=
  let base := if served.kind.group.isEmpty then "/api/" else "/apis/"
  let within := match space with
    | some space => "namespaces/" ++ space ++ "/"
    | none => ""
  base ++ served.kind.apiVersion ++ "/" ++ within ++ served.plural

/-! The kinds that delivery itself works with. -/

def subscriptions : ServedKind :=
  ⟨⟨Vocabulary.appsGroup, Vocabulary.appsVersion, "Subscription"⟩, "subscriptions", true⟩

def channels : ServedKind :=
  ⟨⟨Vocabulary.appsGroup, Vocabulary.appsVersion, "Channel"⟩, "channels", true⟩

def secrets : ServedKind := ⟨⟨"", "v1", "Secret"⟩, "secrets", true⟩

def configMaps : ServedKind := ⟨⟨"", "v1", "ConfigMap"⟩, "configmaps", true⟩

def hookJobs : ServedKind :=
  ⟨⟨Vocabulary.jobGroup, Vocabulary.jobVersion, Vocabulary.jobKind⟩, "ansiblejobs", true⟩

def placementRules : ServedKind :=
  ⟨⟨Vocabulary.appsGroup, Vocabulary.appsVersion, "PlacementRule"⟩, "placementrules", true⟩

def placementDecisions : ServedKind :=
  ⟨⟨Vocabulary.clusterGroup, "v1beta1", "PlacementDecision"⟩, "placementdecisions", true⟩

def managedClusters : ServedKind :=
  ⟨⟨Vocabulary.clusterGroup, "v1", "ManagedCluster"⟩, "managedclusters", false⟩

end ServedKind

/-- May a character stand in the path of an address? Controls and blanks may not, nor what ends a
path or encloses addresses in text. -/
def isPathChar (c : Char) : Bool :=
  0x21 ≤ c.toNat && c.toNat ≠ 0x60 && ['#', '<', '>', '?'].all (c ≠ ·)

/-- May a character stand among the parameters of an address? -/
def isParameterChar (c : Char) : Bool :=
  0x21 ≤ c.toNat && ['"', '#', '<', '>'].all (c ≠ ·)

/-- The parts of an address before and after the question mark. What follows a number sign belongs
to neither. -/
def splitAddress (address : String) : List Char × List Char :=
  let text := address.toList.takeWhile (· ≠ '#')
  (text.takeWhile (· ≠ '?'), (text.dropWhile (· ≠ '?')).tail)

/-- Can anything be sent to an address? -/
def isSendable (address : String) : Bool :=
  let (path, parameters) := splitAddress address
  path.all isPathChar && parameters.all isParameterChar

private def upperHex (digit : Nat) : Char := (Nat.digitChar digit).toUpper

private def parameterByte (byte : UInt8) : List Char :=
  let c := Char.ofNat byte.toNat
  if c = ' ' then ['+']
  else if c.isAlphanum || ['*', '-', '.', '_'].contains c then [c]
  else ['%', upperHex (byte.toNat / 16), upperHex (byte.toNat % 16)]

def parameterText (value : String) : String :=
  String.ofList ((Bytes.ofText value).flatMap parameterByte)

def withParameters (parameters : List (String × String)) (address : String) : String :=
  address ++ "?" ++ String.join
    (parameters.map fun (name, value) => "&" ++ name ++ "=" ++ parameterText value)

end GitDelivery.Cluster
