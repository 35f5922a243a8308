import GitDelivery.Resource.Secret
import GitDelivery.Text.Quoted

set_option autoImplicit false

/-! How to reach a channel's repository: credentials from its secret and certificates from its config
map. A channel without a secret is reached anonymously. -/

namespace GitDelivery

structure Connection where
  user : String := ""
  token : String := ""
  sshKey : String := ""
  passphrase : String := ""
  clientCert : String := ""
  clientKey : String := ""
  caCerts : String := ""
  skipsVerification : Bool := false
  deriving DecidableEq

inductive ConnectionError where
  | invalidEncoding (key : String)
  | incompletePair (present missing : String)
  | noUsableCredentials
  deriving DecidableEq

def ConnectionError.message : ConnectionError → String
  | invalidEncoding key => "secret key '" ++ key ++ "' is not valid UTF-8"
  | incompletePair present missing =>
    "channel secret provides '" ++ present ++ "' without '" ++ missing ++ "'"
  | noUsableCredentials =>
    "channel secret must provide 'user' and 'accessToken', 'sshKey', or a client certificate pair"

namespace Connection

def hasBasicAuth (connection : Connection) : Bool :=
  !connection.user.isEmpty && !connection.token.isEmpty

def hasClientPair (connection : Connection) : Bool :=
  !connection.clientCert.isEmpty && !connection.clientKey.isEmpty

/-- The trimmed text under a key of a secret; bytes win over text, and a missing key is empty. -/
def secretText (secret : Secret) (key : String) : Except ConnectionError String :=
  match secret.data.bind (Table.get? key) with
  | some bytes =>
    match Bytes.text? bytes with
    | some text => .ok (Text.trim text)
    | none => .error (.invalidEncoding key)
  | none => .ok (((secret.textData.bind (Table.get? key)).map Text.trim).getD "")

/-- Of two texts that belong together either both are given or none. -/
def checkPair (firstKey first secondKey second : String) : Except ConnectionError Unit :=
  match first.isEmpty, second.isEmpty with
  | false, true => .error (.incompletePair firstKey secondKey)
  | true, false => .error (.incompletePair secondKey firstKey)
  | _, _ => .ok ()

/-- A secret must give some way to sign in. A user without a token is refused only if there is no
other way. -/
def check (connection : Connection) : Except ConnectionError Unit := do
  checkPair "clientCert" connection.clientCert "clientKey" connection.clientKey
  if !connection.sshKey.isEmpty || connection.hasClientPair then return ()
  checkPair "user" connection.user "accessToken" connection.token
  if connection.hasBasicAuth then return () else throw .noUsableCredentials

def ofSecret (secret : Secret) : Except ConnectionError Connection := do
  let connection : Connection := {
    user := ← secretText secret "user"
    token := ← secretText secret "accessToken"
    sshKey := ← secretText secret "sshKey"
    passphrase := ← secretText secret "passphrase"
    clientCert := ← secretText secret "clientCert"
    clientKey := ← secretText secret "clientKey" }
  connection.check
  return connection

/-- The connection that a secret and a config map, either of which may be missing, describe. -/
def resolve (secret : Option Secret) (configMap : Option ConfigMap) :
    Except ConnectionError Connection := do
  let connection ←
    match secret with
    | some secret => ofSecret secret
    | none => pure {}
  let caCerts := ((configMap.bind (ConfigMap.get? "caCerts")).map Text.trim).getD ""
  return { connection with caCerts := caCerts }

private def hidden (text : String) : String :=
  if text.isEmpty then "\"\"" else "\"***\""

private def truth (value : Bool) : String :=
  if value then "true" else "false"

/-- One line that shows the user and which secrets are set, but none of the secrets. -/
def summary (connection : Connection) : String :=
  "ConnectionConfig \x7b user: " ++ Text.quoted connection.user
    ++ ", token: " ++ hidden connection.token
    ++ ", ssh_key: " ++ hidden connection.sshKey
    ++ ", passphrase: " ++ hidden connection.passphrase
    ++ ", client_cert: " ++ hidden connection.clientCert
    ++ ", client_key: " ++ hidden connection.clientKey
    ++ ", ca_certs: " ++ truth (!connection.caCerts.isEmpty)
    ++ ", insecure_skip_verify: " ++ truth connection.skipsVerification ++ " \x7d"

end Connection

end GitDelivery
