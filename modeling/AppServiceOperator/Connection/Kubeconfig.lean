import AppServiceOperator.Connection.Address
import AppServiceOperator.Json.Record
import AppServiceOperator.Migration.Script
import AppServiceOperator.Text.Quoted
import AppServiceOperator.Yaml.Reader
/-!
# Kubeconfigs

A kubeconfig names clusters, users and contexts; a context joins a cluster with a user and a
namespace. A file may hold several documents, and several files may be read: of two entries with
one name the earlier stays.
-/
namespace AppServiceOperator.Connection

/-- An entry of a list by name. -/
structure Named (α : Type) where
  name : String
  value : Option α
  deriving Repr

/-- Bytes that are given in base64 or in a file. -/
structure Material where
  data : Option String := none
  file : Option String := none
  deriving Repr

structure Cluster where
  server : Option String
  authority : Material
  proxy : Option String
  deriving Repr

/-- A plugin that knows a user's credentials. -/
structure AuthProvider where
  name : String
  config : Dictionary String
  deriving Repr

structure User where
  username : Option String := none
  password : Option String := none
  token : Option String := none
  tokenFile : Option String := none
  certificate : Material := {}
  key : Material := {}
  provider : Option AuthProvider := none
  /-- Whether a program is to be asked for the credentials. -/
  asksProgram : Bool := false
  deriving Repr

structure KubeContext where
  cluster : String
  user : Option String
  ns : Option String
  deriving Repr

structure Kubeconfig where
  clusters : List (Named Cluster) := []
  users : List (Named User) := []
  contexts : List (Named KubeContext) := []
  currentContext : Option String := none
  kind : Option String := none
  apiVersion : Option String := none
  deriving Repr

/-! ## Reading -/

/-- What is given for each of the named fields; an array has them all. -/
def allFields? (names : List String) (j : Json) : Option (List (Option Json)) :=
  if j.arr?.any (·.length ≠ names.length) then none else j.fields? names

def text? (field : Option Json) : Option (Option String) := Json.optional Json.str? field

def flag? (field : Option Json) : Option (Option Bool) := Json.optional Json.bool? field

/-- A list that may be absent or null. -/
def list? {α : Type} (read : Json → Option α) (field : Option Json) : Option (List α) :=
  (Json.optional (Json.list? read) field).map (·.getD [])

/-- Something under a name, which must be given. -/
def extension? (j : Json) : Option Unit := do
  let [name, value] ← allFields? ["name", "extension"] j | none
  discard (name.bind Json.str?)
  discard value

def Named.ofJson? {α : Type} (key : String) (read : Json → Option α) (j : Json) : Option (Named α) := do
  let [name, value] ← allFields? ["name", key] j | none
  return { name := ← name.bind Json.str?, value := ← Json.optional read value }

def Cluster.ofJson? (j : Json) : Option Cluster := do
  let [server, insecure, file, data, proxy, compression, serverName, extensions] ← allFields?
    ["server", "insecure-skip-tls-verify", "certificate-authority", "certificate-authority-data",
      "proxy-url", "disable-compression", "tls-server-name", "extensions"] j | none
  discard (flag? insecure)
  discard (flag? compression)
  discard (text? serverName)
  discard (list? extension? extensions)
  return {
    server := ← text? server
    authority := { data := ← text? data, file := ← text? file }
    proxy := ← text? proxy }

def AuthProvider.ofJson? (j : Json) : Option AuthProvider := do
  let [name, config] ← j.fields? ["name", "config"] | none
  return { name := ← name.bind Json.str?, config := ← Json.defaulted [] Json.texts? config }

/-- When a program may ask the user. -/
def isInteractiveMode (s : String) : Bool := s = "Never" || s = "IfAvailable" || s = "Always"

/-- A program that knows a user's credentials; of it only the form is read. -/
def program? (j : Json) : Option Unit := do
  let [version, command, args, env, mode, informed] ← j.fields?
    ["apiVersion", "command", "args", "env", "interactiveMode", "provideClusterInfo"] | none
  discard (text? version)
  discard (text? command)
  discard (Json.optional (Json.list? Json.str?) args)
  discard (Json.optional (Json.list? Json.texts?) env)
  if (← text? mode).any (!isInteractiveMode ·) then none
  discard (Json.defaulted false Json.bool? informed)

def User.ofJson? (j : Json) : Option User := do
  let [username, password, token, tokenFile, certificate, certificateData, key, keyData, imitated,
      groups, provider, program] ← allFields?
    ["username", "password", "token", "tokenFile", "client-certificate", "client-certificate-data",
      "client-key", "client-key-data", "as", "as-groups", "auth-provider", "exec"] j | none
  discard (text? imitated)
  discard (Json.optional (Json.list? Json.str?) groups)
  return {
    username := ← text? username
    password := ← text? password
    token := ← text? token
    tokenFile := ← text? tokenFile
    certificate := { data := ← text? certificateData, file := ← text? certificate }
    key := { data := ← text? keyData, file := ← text? key }
    provider := ← Json.optional AuthProvider.ofJson? provider
    asksProgram := (← Json.optional program? program).isSome }

def KubeContext.ofJson? (j : Json) : Option KubeContext := do
  let [cluster, user, ns, extensions] ← allFields? ["cluster", "user", "namespace", "extensions"] j | none
  discard (list? extension? extensions)
  return { cluster := ← cluster.bind Json.str?, user := ← text? user, ns := ← text? ns }

/-- Preferences of the command line tool, of which only the form is read. -/
def preferences? (j : Json) : Option Unit := do
  let [colors, extensions] ← allFields? ["colors", "extensions"] j | none
  discard (flag? colors)
  discard (list? extension? extensions)

def Kubeconfig.ofJson? (j : Json) : Option Kubeconfig := do
  let [preferences, clusters, users, contexts, current, extensions, kind, version] ← allFields?
    ["preferences", "clusters", "users", "contexts", "current-context", "extensions", "kind",
      "apiVersion"] j | none
  discard (Json.optional preferences? preferences)
  discard (list? extension? extensions)
  return {
    clusters := ← list? (Named.ofJson? "cluster" Cluster.ofJson?) clusters
    users := ← list? (Named.ofJson? "user" User.ofJson?) users
    contexts := ← list? (Named.ofJson? "context" KubeContext.ofJson?) contexts
    currentContext := ← text? current
    kind := ← text? kind
    apiVersion := ← text? version }

/-! ## Failures -/

inductive KubeconfigError where
  /-- There is no home directory to look in. -/
  | noPath
  | unreadable (path reason : String)
  | noYaml
  | invalidStructure
  | kindMismatch
  | versionMismatch
  | noCurrentContext
  | unknownContext (name : String)
  | unknownCluster (name : String)
  | noServer
  | invalidServer (fault : AddressFault)
  | invalidProxy (fault : AddressFault)
  /-- The certificates of the server's authority cannot be read. -/
  | noAuthority
  deriving DecidableEq, Repr

def KubeconfigError.message : KubeconfigError → String
  | .noPath => "failed to find the path of kubeconfig"
  | .unreadable path reason =>
    "failed to read kubeconfig from '" ++ Text.quoted path ++ "': " ++ reason
  | .noYaml => "failed to parse kubeconfig YAML"
  | .invalidStructure => "the structure of the parsed kubeconfig is invalid"
  | .kindMismatch => "kubeconfigs with mismatching kind cannot be merged"
  | .versionMismatch => "kubeconfigs with mismatching api version cannot be merged"
  | .noCurrentContext => "failed to determine current context"
  | .unknownContext name => "failed to load current context: " ++ name
  | .unknownCluster name => "failed to load the cluster of context: " ++ name
  | .noServer => "cluster url is missing on selected cluster"
  | .invalidServer fault => "failed to parse cluster url: " ++ fault.message
  | .invalidProxy fault => "failed to parse proxy url: " ++ fault.message
  | .noAuthority => "failed to load certificate authority"

/-! ## Several documents and files -/

/-- Add the entries whose names are not taken. -/
def Named.extend {α : Type} (first second : List (Named α)) : List (Named α) :=
  first ++ second.filter fun e => !first.any (·.name = e.name)

namespace Kubeconfig

/-- Two values that may both be given, but then must be equal. -/
def differ (a b : Option String) : Bool := a.isSome && b.isSome && a ≠ b

/-- The entries of both; what is said twice is taken from the first. -/
def merge (first second : Kubeconfig) : Except KubeconfigError Kubeconfig :=
  if differ first.kind second.kind then .error .kindMismatch
  else if differ first.apiVersion second.apiVersion then .error .versionMismatch
  else .ok {
    clusters := Named.extend first.clusters second.clusters
    users := Named.extend first.users second.users
    contexts := Named.extend first.contexts second.contexts
    currentContext := first.currentContext.or second.currentContext
    kind := first.kind.or second.kind
    apiVersion := first.apiVersion.or second.apiVersion }

/-- The kubeconfig of a document; none for an empty one. -/
def ofDocument (j : Json) : Except KubeconfigError (Option Kubeconfig) :=
  match j with
  | .null => .ok none
  | j =>
    match ofJson? j with
    | some k => .ok (some k)
    | none => .error .invalidStructure

/-- The kubeconfigs of a text, one for each document that is not empty. -/
def documents (text : String) : Except KubeconfigError (List Kubeconfig) :=
  match Yaml.documents? text with
  | none => .error .noYaml
  | some ds => (·.filterMap id) <$> ds.mapM ofDocument

/-- The path of a file that is named in a file of the directory. -/
def resolve (directory : String) (file : String) : String :=
  if file.startsWith "/" then file
  else if directory = "" then file
  else if directory.endsWith "/" then directory ++ file
  else directory ++ "/" ++ file

def Material.resolve (directory : String) (m : Material) : Material :=
  { m with file := m.file.map (Kubeconfig.resolve directory) }

/-- The same with the files that it names found from its own directory. -/
def located (directory : String) (k : Kubeconfig) : Kubeconfig :=
  { k with
    clusters := k.clusters.map fun e => { e with value := e.value.map fun c =>
      { c with authority := Material.resolve directory c.authority } }
    users := k.users.map fun e => { e with value := e.value.map fun u =>
      { u with
        certificate := Material.resolve directory u.certificate
        key := Material.resolve directory u.key
        tokenFile := u.tokenFile.map (Kubeconfig.resolve directory) } } }

/-- The directory of a path. -/
def directory (path : String) : String :=
  String.ofList (path.toList.reverse.dropWhile (· ≠ '/')).reverse

/-- The kubeconfig of a file. An empty file is an empty kubeconfig. -/
def ofFile (path : String) (content : FileContent) : Except KubeconfigError Kubeconfig := do
  let text ← content.text.mapError (.unreadable path)
  match ← documents text with
  | [] => return {}
  | first :: others =>
    others.foldlM (fun k next => k.merge (next.located (directory path))) (first.located (directory path))

end Kubeconfig

end AppServiceOperator.Connection
