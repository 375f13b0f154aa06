import AppServiceOperator.Connection.Kubeconfig
import AppServiceOperator.Failure.OperatorError
import AppServiceOperator.Text.Base64
import AppServiceOperator.Text.Occurrence
import AppServiceOperator.Time.Rfc3339
/-!
# Reaching a cluster

A kubeconfig is given by its path, or else found through the environment or in the home directory.
From it come the address of the server, the default namespace and the credentials. Nothing is sent:
a failure here is one of the files and what they say. Programs that know credentials are not
started, so a user who needs one cannot be served, and certificates are not looked into.

| here | in the operator |
| --- | --- |
| `endpoint` | `create_client`, as far as it reads files and variables |
-/
namespace AppServiceOperator.Connection

/-- What lies outside: files, variables, the home directory and the clock. -/
structure Host where
  file : String → FileContent
  env : String → Option String
  home : Option String
  now : Instant

structure Endpoint where
  server : String
  defaultNamespace : String
  deriving DecidableEq, Repr

/-- Why the credentials and the address that were found are of no use. -/
inductive ClientFault where
  | proxy (address : String)
  | unsupportedProvider (name : String)
  /-- The provider has no token that it could give. -/
  | noToken (provider : String)
  | tokenFile (path : String)
  | program
  /-- The certificate of the user comes without its key, or neither is one. -/
  | identity
  deriving DecidableEq, Repr

def ClientFault.message : ClientFault → String
  | .proxy address => "configured proxy " ++ address ++ " uses an unsupported protocol"
  | .unsupportedProvider name =>
    "auth error: auth exec error: Authentication with provider " ++ name ++ " not supported"
  | .noToken provider => "auth error: auth exec error: no token for provider " ++ provider
  | .tokenFile path => "auth error: failed to read token file '" ++ Text.quoted path ++ "'"
  | .program => "auth error: failed to run the credential program"
  | .identity => "failed to read the client certificate and its key"

/-- The bytes of a material; none where they are not given or cannot be read. -/
def Material.bytes? (host : Host) (m : Material) : Option (List UInt8) :=
  match m.data, m.file with
  | some data, _ => Text.Base64.decodeChars data.toList
  | none, some path =>
    match host.file path with
    | .bytes bs => some bs
    | .directory | .missing => none
  | none, none => none

def Material.isGiven (m : Material) : Bool := m.data.isSome || m.file.isSome

/-! ## From a kubeconfig -/

/-- What a context leads to. -/
structure Target where
  cluster : Cluster
  user : User
  ns : Option String

namespace Kubeconfig

def lookup {α : Type} (entries : List (Named α)) (name : String) : Option α :=
  (entries.find? (·.name = name)).bind (·.value)

/-- What the current context leads to. A user that is not there has no credentials. -/
def target (k : Kubeconfig) : Except KubeconfigError Target := do
  let some name := k.currentContext | throw .noCurrentContext
  let some context := lookup k.contexts name | throw (.unknownContext name)
  let some cluster := lookup k.clusters context.cluster | throw (.unknownCluster context.cluster)
  let user := (context.user.bind (lookup k.users)).getD {}
  return { cluster, user, ns := context.ns }

end Kubeconfig

namespace Target

/-- The address of the proxy, which the environment may give as well. -/
def proxy? (host : Host) (t : Target) : Option String :=
  let given (s : Option String) := s.filter (· ≠ "")
  (given t.cluster.proxy).or <| (given (host.env "HTTP_PROXY")).or <|
    (given (host.env "http_proxy")).or <| (given (host.env "HTTPS_PROXY")).or <|
      given (host.env "https_proxy")

/-- The address of the server, once the cluster's entry is found to be complete. -/
def server (host : Host) (t : Target) : Except KubeconfigError String := do
  let some server := t.cluster.server | throw .noServer
  (Address.check server).mapError .invalidServer
  if t.cluster.authority.isGiven ∧ (t.cluster.authority.bytes? host).isNone then throw .noAuthority
  match t.proxy? host with
  | some proxy => (Address.check proxy).mapError .invalidProxy
  | none => pure ()
  return server

end Target

/-! ## Credentials -/

/-- A token that expires within so many seconds is not used any more. -/
def leewaySeconds : Nat := 60

/-- Whether a provider has a token at hand. -/
def AuthProvider.check (host : Host) (p : AuthProvider) : Except ClientFault Unit :=
  let hasToken := (Dictionary.get? p.config "id-token").isSome
  match p.name with
  | "oidc" => if hasToken then .ok () else .error (.noToken p.name)
  | "gcp" =>
    let expiry := (Dictionary.get? p.config "expiry").bind Timestamp.read?
    let limit : Instant := { host.now with seconds := host.now.seconds + leewaySeconds }
    let lasts := expiry.any fun t => !decide (t ≤ limit)
    let cached := (Dictionary.get? p.config "access-token").isSome && lasts
    if hasToken || cached then .ok () else .error (.noToken p.name)
  | name => .error (.unsupportedProvider name)

/-- Whether a text holds a block of this kind. -/
def hasBlock (kind : String) (bytes : List UInt8) : Bool :=
  Text.hasPart (kind ++ "-----").toList (Text.Utf8.decodeLossy bytes).toList

/-- Whether the certificate of a user can be shown, where it is given with its key. -/
def User.checkIdentity (host : Host) (u : User) : Except ClientFault Unit :=
  match u.certificate.bytes? host, u.key.bytes? host with
  | some certificate, some key =>
    let both := key ++ certificate
    if hasBlock "CERTIFICATE" both && hasBlock "PRIVATE KEY" both then .ok () else .error .identity
  | _, _ => .ok ()

/-- Whether the credentials of a user can be had. A provider comes first; a name with a password,
and then a token, come before a file and a program. -/
def User.check (host : Host) (u : User) : Except ClientFault Unit :=
  match u.provider with
  | some p => p.check host
  | none =>
    if (u.username.isSome && u.password.isSome) || u.token.isSome then .ok () else
    match u.tokenFile with
    | some path =>
      match (host.file path).text with
      | .ok _ => .ok ()
      | .error _ => .error (.tokenFile path)
    | none => if u.asksProgram then .error .program else .ok ()

/-- Whether the target can be reached: no proxy is in the way, and the credentials are there. -/
def Target.check (host : Host) (t : Target) : Except ClientFault Unit := do
  match t.proxy? host with
  | some proxy => throw (.proxy proxy)
  | none => pure ()
  t.user.check host
  t.user.checkIdentity host

/-! ## Finding the kubeconfig -/

/-- The paths that the environment names. -/
def namedPaths (host : Host) : List String :=
  ((host.env "KUBECONFIG").elim [] (·.splitOn ":")).filter (· ≠ "")

/-- The kubeconfig in the home directory. -/
def homePath (home : String) : String :=
  home ++ (if home.endsWith "/" then "" else "/") ++ ".kube/config"

/-- The paths of the kubeconfigs where none is given. -/
def foundPaths (host : Host) : List String :=
  match namedPaths host with
  | [] => (host.home.map homePath).toList
  | paths => paths

/-- The kubeconfig that is found where no path is given. -/
def inferred (host : Host) : Except KubeconfigError Kubeconfig :=
  match foundPaths host with
  | [] => .error .noPath
  | paths => paths.foldlM (fun k path => do k.merge (← Kubeconfig.ofFile path (host.file path))) {}

/-- Why there is nothing to connect to where no path is given: outside a cluster, only a kubeconfig
could say. -/
def inferenceMessage (e : KubeconfigError) : String :=
  "failed to infer config: in-cluster: (failed to read an incluster environment variable: " ++
    "environment variable not found), kubeconfig: (" ++ e.message ++ ")"

/-! ## The endpoint -/

def failure {α : Type} (message : String) : Except OperatorError α :=
  .error (.internal "create_client" message)

/-- The target and the server of the kubeconfig at a path, or of the one that is found. -/
def located (host : Host) (path : Option String) : Except OperatorError (Target × String) :=
  match path with
  | some path =>
    match Kubeconfig.ofFile path (host.file path) with
    | .error e => failure ("failed to read kubeconfig " ++ path ++ ": " ++ e.message)
    | .ok k =>
      match (do let t ← k.target; return (t, ← t.server host)) with
      | .ok r => .ok r
      | .error e => failure ("failed to load kubeconfig: " ++ e.message)
  | none =>
    match (do let t ← (← inferred host).target; return (t, ← t.server host)) with
    | .ok r => .ok r
    | .error e => failure ("failed to infer config: " ++ inferenceMessage e)

/-- The endpoint of the kubeconfig at a path, or of the one that is found. -/
def endpoint (host : Host) (path : Option String) : Except OperatorError Endpoint := do
  let (t, server) ← located host path
  match t.check host with
  | .ok () => return { server, defaultNamespace := t.ns.getD "default" }
  | .error e => failure ("failed to create client: " ++ e.message)

/-! ## What is looked at -/

/-- The variables that are looked at. -/
def variableNames : List String := ["KUBECONFIG", "HTTP_PROXY", "http_proxy", "HTTPS_PROXY", "https_proxy"]

/-- The files of a material. -/
def Material.files (m : Material) : List String := m.file.toList

/-- The files that a kubeconfig names. -/
def Kubeconfig.files (k : Kubeconfig) : List String :=
  (k.clusters.filterMap (·.value)).flatMap (·.authority.files) ++
    (k.users.filterMap (·.value)).flatMap fun u => u.certificate.files ++ u.key.files ++ u.tokenFile.toList

/-- The files that are looked at, as far as the kubeconfigs that can be read tell. -/
def files (host : Host) (path : Option String) : List String :=
  let paths := path.elim (foundPaths host) ([·])
  paths ++ paths.flatMap fun path =>
    match Kubeconfig.ofFile path (host.file path) with
    | .ok k => k.files
    | .error _ => []

end AppServiceOperator.Connection
