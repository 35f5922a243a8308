import GitDelivery.Manifest.Classification
import GitDelivery.PackageOverride
import GitDelivery.Yaml.Printer

set_option autoImplicit false

/-! Kustomizations: overrides laid over their files before they are built, and the documents that a
build gives. -/

namespace GitDelivery.Manifest.Kustomization

inductive Failure where
  | noFile (directory : String)
  | unreadable (file : String) (error : FileTree.ReadError)
  | unparsable (file : String) (failure : Yaml.Failure)
  | notRepresentable (file : String) (failure : Yaml.Failure)
  | notAnObject (relative : String) (patch : Json)
  | missingBinary (binary : String)
  | notExecuted (reason : String)
  | buildFailed (directory output : String)
  | notText (output : Bytes)

def Failure.message : Failure → String
  | noFile directory => "no kustomization file in " ++ directory
  | unreadable file error => "failed to read " ++ file ++ ": " ++ error.message
  | unparsable file failure => "failed to parse " ++ file ++ ": " ++ failure.message
  | notRepresentable file failure =>
    file ++ " cannot be represented as JSON: " ++ failure.message
  | notAnObject relative patch =>
    "override for kustomization " ++ relative ++ " must be an object, got " ++ patch.render
  | missingBinary binary => "kustomize binary '" ++ binary ++ "' not found"
  | notExecuted reason => "failed to execute kustomize build: " ++ reason
  | buildFailed directory output => "kustomize build " ++ directory ++ " failed: " ++ output
  | notText output => "kustomize output is not valid UTF-8: " ++ Bytes.invalidMessage output

/-- The path without the name of a kustomization file at its end and the slashes before that. -/
def dropFileName (path : String) : List String → String
  | [] => path
  | file :: rest =>
    match Text.dropTrailing? file path with
    | some directory => Text.trimEndChar '/' directory
    | none => dropFileName path rest

/-- The path without each "./" that it starts with. -/
def dropHere : List Char → List Char
  | '.' :: '/' :: rest => dropHere rest
  | path => path

/-- The directory that the name of a package override means. -/
def directoryMeant (package : String) : String :=
  let path := dropFileName (Text.trimChar '/' (Text.trim package)) kustomizationFiles
  String.ofList (dropHere path.toList)

/-- Is the override meant for the kustomization in a directory of the repository? -/
def isMeantFor (relative : String) (override : PackageOverride) : Bool :=
  let meant := directoryMeant override.name
  meant = relative || (relative.isEmpty && meant = ".")

def file? (tree : FileTree) (directory : String) : Option String :=
  (kustomizationFiles.map (FilePath.push directory)).find? tree.isFile

/-- The fields that an entry lays over a kustomization: its value, or else the entry itself. -/
def patchOf (entry : Json) : Json :=
  (entry.get? "value").getD entry

/-- Lays patches over a value, all of which must be objects. -/
def mergePatches (relative : String) : List Json → Json → Except Failure Json
  | [], value => .ok value
  | patch :: rest, value =>
    if patch.isObject then mergePatches relative rest (value.merge patch)
    else .error (.notAnObject relative patch)

private def orEmptyObject (value : Json) : Json :=
  if value.isNull then .object [] else value

def content (tree : FileTree) (file : String) : Except Failure Json := do
  let text ← (tree.readText file).mapError (.unreadable file)
  let document ← (Yaml.parse text).mapError (.unparsable file)
  let value ← document.toJson.mapError (.notRepresentable file)
  return orEmptyObject value

/-- Lays the overrides meant for a kustomization over its file. The tree is changed only if there
are such overrides and all of them can be laid. -/
def override (overrides : List PackageOverride) (relative directory : String) (tree : FileTree) :
    Except Failure (Bool × FileTree) :=
  let relative := Text.trimChar '/' relative
  match overrides.filter (isMeantFor relative) with
  | [] => .ok (false, tree)
  | first :: rest =>
    match file? tree directory with
    | none => .error (.noFile directory)
    | some file => do
      let value ← content tree file
      let patches := ((first :: rest).flatMap PackageOverride.entries).map patchOf
      let merged ← mergePatches relative patches value
      return (true, tree.rewrite file (Bytes.ofText (Yaml.render merged)))

/-- How a build goes: the tool is not there, it cannot be started, or it runs to its end. -/
inductive Build where
  | missingBinary
  | notStarted (reason : String)
  | finished (exitCode : Nat) (output errors : Bytes)

def documents (binary directory : String) : Build → Except Failure (List String)
  | .missingBinary => .error (.missingBinary binary)
  | .notStarted reason => .error (.notExecuted reason)
  | .finished exitCode output errors =>
    if exitCode ≠ 0 then .error (.buildFailed directory (Text.trim errors.lossyText))
    else
      match output.text? with
      | some text => .ok (splitDocuments text)
      | none => .error (.notText output)

end GitDelivery.Manifest.Kustomization
