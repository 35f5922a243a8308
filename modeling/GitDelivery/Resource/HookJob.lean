import GitDelivery.Resource.Metadata
import GitDelivery.Resource.Vocabulary

set_option autoImplicit false

/-! Hook jobs: automation that runs before or after a deployment. Fields that have no meaning here are
kept as they are. -/

namespace GitDelivery

structure HookJobSpec where
  secret : Option String
  template : Option String
  extraVars : Option Json
  others : Table Json

structure HookJobResult where
  status : Option String
  others : Table Json

structure HookJobStatus where
  result : Option HookJobResult
  others : Table Json

structure HookJob where
  metadata : Metadata
  spec : HookJobSpec
  status : Option HookJobStatus

/-- The fields of an object other than the known ones. -/
def Table.without {α : Type} (names : List String) (table : Table α) : Table α :=
  table.filter fun (name, _) => !names.contains name

/-- An object of known fields that have a value, and of others. -/
def Json.ofExtended (known : List (String × Option Json)) (others : Table Json) : Json :=
  .ofFields ((known.filterMap fun (key, value) => value.map (key, ·)) ++ others)

namespace HookJobSpec

def decode : Decoder HookJobSpec := fun value => do
  let fields ← Decoder.fields value
  return {
    secret := ← Decoder.optional .text "tower_auth_secret" fields
    template := ← Decoder.optional .text "job_template_name" fields
    extraVars := ← Decoder.optional .json "extra_vars" fields
    others := fields.without ["tower_auth_secret", "job_template_name", "extra_vars"] }

def toJson (spec : HookJobSpec) : Json :=
  .ofExtended [
    ("tower_auth_secret", spec.secret.map .text),
    ("job_template_name", spec.template.map .text),
    ("extra_vars", spec.extraVars)] spec.others

end HookJobSpec

namespace HookJobResult

def decode : Decoder HookJobResult := fun value => do
  let fields ← Decoder.fields value
  return {
    status := ← Decoder.optional .text "status" fields
    others := fields.without ["status"] }

def toJson (result : HookJobResult) : Json :=
  .ofExtended [("status", result.status.map .text)] result.others

end HookJobResult

namespace HookJobStatus

def decode : Decoder HookJobStatus := fun value => do
  let fields ← Decoder.fields value
  return {
    result := ← Decoder.optional HookJobResult.decode "ansibleJobResult" fields
    others := fields.without ["ansibleJobResult"] }

def toJson (status : HookJobStatus) : Json :=
  .ofExtended [("ansibleJobResult", status.result.map HookJobResult.toJson)] status.others

end HookJobStatus

namespace HookJob

def decode : Decoder HookJob := fun value => do
  let fields ← Decoder.record ["metadata", "spec", "status"] value
  return {
    metadata := ← Decoder.required .metadata "metadata" fields
    spec := ← Decoder.required HookJobSpec.decode "spec" fields
    status := ← Decoder.optional HookJobStatus.decode "status" fields }

def toJson (job : HookJob) : Json :=
  Json.ofPresent [
    ("apiVersion", some (.text (Vocabulary.jobGroup ++ "/" ++ Vocabulary.jobVersion))),
    ("kind", some (.text Vocabulary.jobKind)),
    ("metadata", some job.metadata.toJson),
    ("spec", some job.spec.toJson),
    ("status", job.status.map HookJobStatus.toJson)]

def key (job : HookJob) : ObjectKey :=
  job.metadata.key

/-- What the job reports about its run. -/
def resultStatus? (job : HookJob) : Option String :=
  (job.status.bind HookJobStatus.result).bind HookJobResult.status

/-- Has the job reported success? -/
def hasSucceeded (job : HookJob) : Bool :=
  job.resultStatus?.any (Text.sameIgnoringCase · Vocabulary.jobSucceeded)

end HookJob

end GitDelivery
