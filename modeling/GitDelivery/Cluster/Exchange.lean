import GitDelivery.Cluster.Address
import GitDelivery.Dialogue
import GitDelivery.Resource.Dynamic
import GitDelivery.Resource.Key

set_option autoImplicit false

/-! Requests to an API server, and what comes back. -/

namespace GitDelivery.Cluster

inductive Verb where
  | get | patch | delete
  deriving DecidableEq

def Verb.text : Verb → String
  | get => "GET"
  | patch => "PATCH"
  | delete => "DELETE"

/-- The answer of a server that does not do what it was asked. -/
structure Refusal where
  code : Nat
  reason : String
  message : String
  deriving DecidableEq

def Refusal.notFound : Refusal := ⟨404, "NotFound", "not found"⟩

inductive ApiError where
  | refused (refusal : Refusal)
  | unsendable
  | unreadable (error : DecodeError)
  deriving DecidableEq

def ApiError.message : ApiError → String
  | refused refusal => "ApiError: " ++ refusal.message ++ ": " ++ refusal.reason
  | unsendable => "Failed to build request"
  | unreadable error => "Error deserializing response: " ++ error.message

/-- Does the server give as its reason that there is no such object? -/
def ApiError.saysMissing : ApiError → Bool
  | refused refusal => refusal.reason = Refusal.notFound.reason
  | _ => false

def ApiError.hasCode (code : Nat) : ApiError → Bool
  | refused refusal => refusal.code = code
  | _ => false

/-- A server is asked which kinds it has in a version of a group, or something is sent to an
address. -/
inductive Request where
  | kinds (apiVersion : String)
  | send (verb : Verb) (address : String) (body : Option Json)

@[reducible] def Request.Reply : Request → Type
  | kinds _ => List ServedKind
  | send _ _ _ => Except Refusal Json

end Cluster

abbrev Exchange := Dialogue Cluster.Request Cluster.Request.Reply

namespace Exchange

open Cluster

def ask (request : Request) : Exchange request.Reply :=
  .request request

def known {ε α : Type} (result : Except ε α) : ExceptT ε Exchange α :=
  ExceptT.mk (pure result)

/-- Says of a failure what it means. -/
def explain {ε α : Type} (meaning : ApiError → ε) (work : ExceptT ApiError Exchange α) :
    ExceptT ε Exchange α :=
  ExceptT.adapt meaning work

/-- Nothing is sent to an address that cannot be written. -/
def send (verb : Verb) (address : String) (body : Option Json) : ExceptT ApiError Exchange Json :=
  ExceptT.mk do
    if isSendable address then
      return (← ask (.send verb address body)).mapError .refused
    else return .error .unsendable

def read {α : Type} (decode : Decoder α) (answer : Json) : ExceptT ApiError Exchange α :=
  known ((decode answer).mapError .unreadable)

/-- The address of an object; one without a name has none. -/
def addressOf (served : ServedKind) (space : Option String) (name : String) :
    ExceptT ApiError Exchange String :=
  known (if name.isEmpty then .error .unsendable else .ok (served.address space ++ "/" ++ name))

def find? {α : Type} (decode : Decoder α) (served : ServedKind) (key : ObjectKey) :
    ExceptT ApiError Exchange (Option α) := do
  let address ← addressOf served (some key.space) key.name
  try
    return some (← read decode (← send .get address none))
  catch error =>
    if error.saysMissing then return none else throw error

/-- The items of a list, which may be null if there are none. -/
def items : Decoder (List DynamicObject) := fun value => do
  let given ← Decoder.required Decoder.json "items" (← Decoder.fields value)
  if given.isNull then return [] else Decoder.list DynamicObject.decode given

/-- All objects of a kind, or those in a namespace, that have a label's value if one is given. -/
def list (served : ServedKind) (space : Option String) (label : Option (String × String)) :
    ExceptT ApiError Exchange (List DynamicObject) := do
  let wanted := label.map fun (name, value) => ("labelSelector", name ++ "=" ++ value)
  read items (← send .get (withParameters wanted.toList (served.address space)) none)

/-- Writes an object so that its fields are the controller's from then on, whoever had them. A dry
run writes nothing. -/
def apply (served : ServedKind) (space : Option String) (name : String) (dryRun : Bool)
    (object : Json) : ExceptT ApiError Exchange Json := do
  let address ← addressOf served space name
  let parameters :=
    (if dryRun then [("dryRun", "All")] else []) ++
      [("force", "true"), ("fieldManager", Vocabulary.fieldManager)]
  send .patch (withParameters parameters address) (some object)

/-- Adds what a status says to that of an object. -/
def patchStatus (served : ServedKind) (key : ObjectKey) (status : Json) :
    ExceptT ApiError Exchange Json := do
  let address ← addressOf served (some key.space) key.name
  send .patch (withParameters [("fieldManager", Vocabulary.fieldManager)] (address ++ "/status"))
    (some (.ofFields [("status", status)]))

/-- Deletes an object; what belongs to it is deleted later. One that is not there counts as
deleted. -/
def delete (served : ServedKind) (space : Option String) (name : String) :
    ExceptT ApiError Exchange Unit := do
  let address ← addressOf served space name
  let body := Json.ofFields [("propagationPolicy", .text "Background")]
  try
    let _ ← send .delete (withParameters [] address) (some body)
  catch error =>
    if error.hasCode Refusal.notFound.code then pure () else throw error

end Exchange

end GitDelivery
