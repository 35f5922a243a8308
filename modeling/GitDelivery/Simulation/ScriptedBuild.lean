import GitDelivery.Manifest.Kustomization

set_option autoImplicit false

/-! A build tool that prints what files of the directory say. -/

namespace GitDelivery.Simulation.ScriptedBuild

/-- The only name it goes by. -/
def binary : String := "./bin/kustomize"

def outcome (tree : FileTree) (directory : String) : Manifest.Kustomization.Build :=
  let read (name : String) : Option Bytes :=
    (tree.readBytes (FilePath.push directory name)).toOption
  let exitCode := (((read "__exit").bind Bytes.text?).bind fun text => (Text.trim text).toNat?).getD 0
  .finished exitCode (((read "__stdout").or (read "kustomization.yaml")).getD [])
    ((read "__stderr").getD [])

def run (tool : String) (tree : FileTree) (directory : String) : Manifest.Kustomization.Build :=
  if tool = binary then outcome tree directory else .missingBinary

end GitDelivery.Simulation.ScriptedBuild
