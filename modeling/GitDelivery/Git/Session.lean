import GitDelivery.FilePath
import GitDelivery.Git.Url
import GitDelivery.Repository.Remote

set_option autoImplicit false

/-! How credentials reach git: in the address, in settings, in the environment, and in files beside the
working copy, so that they never end up inside it. -/

namespace GitDelivery.Git

structure Session where
  url : String
  settings : List String
  environment : List (String × String)
  secrets : List String
  files : List (String × String)
  deriving DecidableEq

/-- Every copy of a text replaced; `skipped` characters at the front belong to one. -/
def replaceFrom (part : List Char) (mark : List Char) : Nat → List Char → List Char
  | skipped + 1, _ :: rest => replaceFrom part mark skipped rest
  | 0, c :: rest =>
    if part.isPrefixOf (c :: rest) then mark ++ replaceFrom part mark (part.length - 1) rest
    else c :: replaceFrom part mark 0 rest
  | _, [] => []

namespace Session

/-- The directory for files beside a working copy. -/
def authDirectory (directory : String) : String :=
  let components := FilePath.components directory
  let parent := components.dropLast.map FilePath.Component.text
  let name := (components.getLast?.map FilePath.Component.text).getD ""
  match parent with
  | [] => name ++ ".auth"
  | first :: rest => FilePath.push (FilePath.pushAll first rest) (name ++ ".auth")

private def withLineEnd (text : String) : String :=
  if text.toList.getLast? = some '\n' then text else text ++ "\n"

private def sshCommand (keyFile : String) : String :=
  "ssh -i " ++ keyFile ++ " -o StrictHostKeyChecking=no -o UserKnownHostsFile=/dev/null"

/-- The session for a remote. A user and a token go into addresses of the web only, and a remote
whose certificate is not checked needs no certificates to check it by. -/
def prepare (remote : Remote) (directory : String) : Session :=
  let connection := remote.connection
  let file (name : String) : String := FilePath.push (authDirectory directory) name
  let signsIn := connection.hasBasicAuth && isWebUrl remote.url
  let usesKey := !connection.sshKey.isEmpty
  let usesAuthorities := !connection.caCerts.isEmpty && !connection.skipsVerification
  let usesPair := connection.hasClientPair
  { url :=
      if signsIn then withCredentials connection.user connection.token remote.url else remote.url
    settings :=
      (if connection.skipsVerification then ["http.sslVerify=false"] else [])
        ++ (if usesAuthorities then ["http.sslCAInfo=" ++ file "ca.crt"] else [])
        ++ (if usesPair then
            ["http.sslCert=" ++ file "client.crt", "http.sslKey=" ++ file "client.key"]
          else [])
    environment := if usesKey then [("GIT_SSH_COMMAND", sshCommand (file "id_key"))] else []
    secrets := if signsIn then [connection.token] else []
    files :=
      (if usesKey then [(file "id_key", withLineEnd connection.sshKey)] else [])
        ++ (if usesAuthorities then [(file "ca.crt", withLineEnd connection.caCerts)] else [])
        ++ (if usesPair then
            [(file "client.crt", withLineEnd connection.clientCert),
              (file "client.key", withLineEnd connection.clientKey)]
          else []) }

/-- The text without the user and password of any address and without the session's secrets. -/
def redact (session : Session) (text : String) : String :=
  session.secrets.foldl
    (fun shown secret =>
      if secret.isEmpty then shown
      else String.ofList (replaceFrom secret.toList ['*', '*', '*'] 0 shown.toList))
    (Git.redact text)

end Session

end GitDelivery.Git
