import GitDelivery.Bytes.Utf8
import GitDelivery.Dialogue
import GitDelivery.Git.Session

set_option autoImplicit false

/-! Fetching a revision and asking where it points, by running git. -/

namespace GitDelivery.Git

/-- One run of git: where, with which settings and environment, and its arguments. -/
structure Command where
  directory : Option String
  settings : List String
  environment : List (String × String)
  arguments : List String
  deriving DecidableEq

namespace Command

/-- Everything that stands on the command line after the program. -/
def line (command : Command) : List String :=
  (match command.directory with
    | some directory => ["-C", directory]
    | none => [])
    ++ command.settings.flatMap (fun setting => ["-c", setting]) ++ command.arguments

end Command

structure Outcome where
  exitCode : Nat
  output : Bytes
  errors : Bytes
  deriving DecidableEq

/-- What the client asks for: a private file, an empty place for the working copy, whether there is a
git at all, or a run of it. -/
inductive Request where
  | write (path content : String)
  | clear (directory : String)
  | locate (binary : String)
  | run (command : Command)
  deriving DecidableEq

@[reducible] def Request.Reply : Request → Type
  | write _ _ => Unit
  | clear _ => Unit
  | locate _ => Bool
  | run _ => Outcome

abbrev Client := Dialogue Request Request.Reply

namespace Client

def write (path content : String) : Client Unit :=
  .request (Request.write path content)

def clear (directory : String) : Client Unit :=
  .request (Request.clear directory)

def locate (binary : String) : Client Bool :=
  .request (Request.locate binary)

def run (command : Command) : Client Outcome :=
  .request (Request.run command)

end Client

inductive ClientError where
  | missingBinary (binary : String)
  | notExecuted (shown : String)
  | failed (shown errors : String)
  | noRevision (url pattern : String)
  deriving DecidableEq

def ClientError.message : ClientError → String
  | missingBinary binary => "git binary '" ++ binary ++ "' not found"
  | notExecuted shown =>
    "failed to execute git " ++ shown ++ ": nul byte found in provided data"
  | failed shown errors => "git " ++ shown ++ " failed: " ++ errors
  | noRevision url pattern => url ++ " has no " ++ pattern

namespace Client

def runGit (binary : String) (session : Session) (directory : Option String)
    (arguments : List String) : Client (Except ClientError String) := do
  if !(← locate binary) then return .error (.missingBinary binary)
  let command : Command :=
    { directory := directory, settings := session.settings
      environment := session.environment ++ [("GIT_TERMINAL_PROMPT", "0")], arguments := arguments }
  let shown := session.redact (" ".intercalate arguments)
  if command.line.any fun argument => argument.toList.contains '\x00' then
    return .error (.notExecuted shown)
  let outcome ← run command
  if outcome.exitCode = 0 then return .ok outcome.output.lossyText
  else return .error (.failed shown (session.redact (Text.trim outcome.errors.lossyText)))

def writeFiles : List (String × String) → Client Unit
  | [] => return ()
  | (path, content) :: rest => do
    write path content
    writeFiles rest

/-- Runs one command after the other up to the first that fails. -/
def runAll (binary : String) (session : Session) :
    List (Option String × List String) → Client (Except ClientError Unit)
  | [] => return .ok ()
  | (directory, arguments) :: rest => do
    match ← runGit binary session directory arguments with
    | .ok _ => runAll binary session rest
    | .error error => return .error error

/-- The commands that check out a revision. A commit cannot be cloned by name, so it is fetched into
an empty repository. -/
def checkoutCommands (options : CloneOptions) (url : String) : List (Option String × List String) :=
  let depth := toString (max options.depth 1)
  let directory := options.directory
  match options.revision with
  | .branch name | .tag name =>
    [(none, ["clone", "--depth", depth, "--single-branch", "--branch", name, url, directory])]
  | .standard => [(none, ["clone", "--depth", depth, url, directory])]
  | .commit id =>
    [(none, ["init", "--quiet", directory]),
      (some directory, ["remote", "add", "origin", url]),
      (some directory, ["fetch", "--depth", depth, "origin", id]),
      (some directory, ["checkout", "--quiet", "FETCH_HEAD"])]

/-- Checks a revision out into an empty directory and says which commit it is. -/
def clone (binary : String) (options : CloneOptions) (remote : Remote) :
    Client (Except ClientError String) := do
  let session := Session.prepare remote options.directory
  writeFiles session.files
  clear options.directory
  match ← runAll binary session (checkoutCommands options session.url) with
  | .error error => return .error error
  | .ok () =>
    match ← runGit binary session (some options.directory) ["rev-parse", "HEAD"] with
    | .ok output => return .ok (Text.trim output)
    | .error error => return .error error

/-- Commit and name of each line of a listing that has both. -/
def entries (listing : String) : List (String × String) :=
  (Text.lines listing).filterMap fun line =>
    (Text.splitOnce '\t' line).map fun (commit, name) => (Text.trim commit, Text.trim name)

/-- The commit that a name stands for in a listing. What a tag stands for goes before the tag. -/
def commitOf? (listing pattern : String) : Option String :=
  let found (name : String) : Option String :=
    ((entries listing).find? (·.2 = name)).map Prod.fst
  (found (pattern ++ "^\x7b\x7d")).or (found pattern)

/-- The full name by which a revision is listed. A commit is not listed: its name is its own. -/
def listedName : Revision → String
  | .commit id => id
  | .branch name => "refs/heads/" ++ name
  | .tag name => "refs/tags/" ++ name
  | .standard => "HEAD"

/-- Is the revision one commit for ever? -/
def isPinned : Revision → Bool
  | .commit _ => true
  | .branch _ | .tag _ | .standard => false

/-- The commit that a revision stands for remotely. -/
def head (binary : String) (options : CloneOptions) (remote : Remote) :
    Client (Except ClientError String) := do
  let session := Session.prepare remote options.directory
  writeFiles session.files
  let name := listedName options.revision
  if isPinned options.revision then return .ok name
  match ← runGit binary session none ["ls-remote", session.url, name] with
  | .error error => return .error error
  | .ok listing =>
    match commitOf? listing name with
    | some commit => return .ok commit
    | none => return .error (.noRevision (Git.redact remote.url) name)

end Client

end GitDelivery.Git
