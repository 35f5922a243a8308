import GitDelivery.Cluster.Engine
import GitDelivery.Cluster.Placement
import GitDelivery.Cluster.Store

set_option autoImplicit false

/-! An API server in memory, for trying out what works with a cluster, and an engine that deploys to
it. The server keeps objects by their paths and a record of what was sent to it. -/

namespace GitDelivery.Simulation

open Cluster

/-- Requests are refused whose path contains `fragment`, if they have the verb of that name or none
is named. -/
structure RefusalRule where
  verb : Option String
  fragment : String
  refusal : Refusal

/-- A request as the server sees it; parameters are in ascending order. -/
structure SentRequest where
  verb : Verb
  path : String
  parameters : List String
  body : Option Json

structure ApiServer where
  kinds : List ServedKind
  objects : Table Json
  engine : Engine
  rules : List RefusalRule := []
  sent : List SentRequest := []

namespace ApiServer

def refusal? (server : ApiServer) (verb : Verb) (path : String) : Option Refusal :=
  (server.rules.find? fun rule =>
    (rule.verb.getD verb.text) = verb.text && Text.containsText rule.fragment path).map
      RefusalRule.refusal

private def withStatus (patch object : Json) : Json :=
  let fields (value : Json) (name : String) := ((value.get? name).bind Json.fields?).getD []
  let status := (fields patch "status").foldl (fun status (name, value) =>
    Table.insert name value status) (fields object "status")
  .object (Table.insert "status" (.object status) ((object.fields?).getD []))

/-- What becomes of the objects when a request is granted. -/
def grant (verb : Verb) (path : String) (body : Option Json) (objects : Table Json) :
    Except Refusal (Json × Table Json) :=
  let missing := Except.error Refusal.notFound
  match verb with
  | .get => (Table.get? path objects).elim missing fun object => .ok (object, objects)
  | .delete => (Table.get? path objects).elim missing fun object => .ok (object, Table.erase path objects)
  | .patch =>
    let patch := body.getD .null
    match Text.dropTrailing? "/status" path with
    | none => .ok (patch, Table.insert path patch objects)
    | some path => (Table.get? path objects).elim missing fun object =>
      .ok (withStatus patch object, Table.insert path (withStatus patch object) objects)

def answer : (request : Request) → StateM ApiServer request.Reply
  | .kinds apiVersion => return (← get).kinds.filter (·.kind.apiVersion = apiVersion)
  | .send verb address body => do
    let (path, parameters) := splitAddress address
    let path := String.ofList path
    let parameters := (Text.splitAll '&' (String.ofList parameters)).filter (!·.isEmpty)
    modify fun server =>
      { server with sent := server.sent ++ [⟨verb, path, parameters.mergeSort, body⟩] }
    let server ← get
    match server.refusal? verb path with
    | some refusal => return .error refusal
    | none =>
      match grant verb path body server.objects with
      | .ok (object, objects) =>
        set { server with objects := objects }
        return .ok object
      | .error refusal => return .error refusal

def perform {α : Type} (work : Exchange α) : StateM ApiServer α :=
  Dialogue.runWith (M := StateM ApiServer) answer work

def deploy (batch : Batch) : StateM ApiServer (Option String) := do
  let (errors, engine) ← perform ((← get).engine.deploy batch)
  modify fun server => { server with engine := engine }
  return Engine.report? errors

def put (path : String) (object : Option Json) (server : ApiServer) : ApiServer :=
  { server with
    objects := match object with
      | some object => Table.insert path object server.objects
      | none => Table.erase path server.objects }

private def insertDeletion (deletion : SentRequest) : List SentRequest → List SentRequest
  | [] => [deletion]
  | first :: rest =>
    if first.verb = .delete && first.path < deletion.path then first :: insertDeletion deletion rest
    else deletion :: first :: rest

/-- The record, with deletions that follow one another in the order of their paths: what is stale is
a set. -/
def arranged : List SentRequest → List SentRequest
  | [] => []
  | first :: rest =>
    if first.verb = .delete then insertDeletion first (arranged rest) else first :: arranged rest

/-- What was sent since the record was taken last. -/
def takeRecord (server : ApiServer) : List SentRequest × ApiServer :=
  (arranged server.sent, { server with sent := [] })

end ApiServer

end GitDelivery.Simulation
