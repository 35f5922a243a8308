import GitDelivery.Git.Client
import GitDelivery.Table

set_option autoImplicit false

/-! A git that answers from a script and keeps a record of what it was asked. -/

namespace GitDelivery.Simulation

/-- Runs stand in the order in which they were made; files by the path they were written to. -/
structure ScriptedGit where
  binary : String
  script : List Git.Outcome
  runs : List Git.Command := []
  files : Table String := []
  occupied : Bool := false
  deriving DecidableEq

namespace ScriptedGit

def noOutput : Git.Outcome := ⟨0, [], []⟩

/-- Runs after the end of the script go well and print nothing. -/
def answer : (request : Git.Request) → StateM ScriptedGit request.Reply
  | .write path content => modify fun git => { git with files := Table.insert path content git.files }
  | .clear _ => modify fun git => { git with occupied := false }
  | .locate binary => return decide ((← get).binary = binary)
  | .run command => do
    let git ← get
    set { git with runs := git.runs ++ [command], script := git.script.tail }
    return git.script.head?.getD noOutput

def serve {α : Type} (client : Git.Client α) (git : ScriptedGit) : α × ScriptedGit :=
  (Dialogue.runWith (M := StateM ScriptedGit) answer client).run git

end ScriptedGit

end GitDelivery.Simulation
