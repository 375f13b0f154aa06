import AppServiceOperator.Desired.Container
import AppServiceOperator.Text.Base64
/-!
# The events database

The credentials, the scripts, the storage and the deployment of the database.

| here | in the operator |
| --- | --- |
| `Credentials` | `DatabaseCredentials` |
| `secret`, `scripts`, `claim` | `database_secret`, `scripts_config_map`, `persistent_volume_claim` |
| `DatabaseNeeds` | `DatabaseRefs` |
| `databaseDeployment`, `databasePod` | `database_deployment`: the deployment and its container |
-/
namespace AppServiceOperator.Desired

/-- The container that runs the database. -/
def databaseContainer : String := "postgresql"

def databasePort : Int := 5432

def databaseImage : String := "image-registry.openshift-image-registry.svc:5000/openshift/postgresql:10"

/-- Where the scripts are found in the database container. -/
def scriptsPath : String := "/operator/scripts"

def dataPath : String := "/var/lib/pgsql/data"

/-! ## Credentials -/

structure Credentials where
  database : String := "eventsdb"
  user : String := "luke"
  password : String := "secret"
  deriving DecidableEq, Repr

def databaseNameKey : String := "database-name"

def databasePasswordKey : String := "database-password"

def databaseUserKey : String := "database-user"

/-- A secret with the credentials. -/
def secret (ctx : Context) (name : String) (credentials : Credentials) : ManagedResource where
  kind := .secret
  metadata := ctx.metadata name (ctx.labels name) []
  body := [("data", .ofTexts [(databaseNameKey, Text.Base64.ofText credentials.database),
      (databasePasswordKey, Text.Base64.ofText credentials.password),
      (databaseUserKey, Text.Base64.ofText credentials.user)]),
    ("type", .str "Opaque")]
  nullFree_body := by
    simp [Json.nullFreeMembers_iff, (Json.settable_ofTexts _).1, (Json.settable_ofTexts _).2, Json.nullFree]

/-! ## Scripts and storage -/

/-- The script by the name of its file. Without a script there are no data at all, as a server
drops empty maps. -/
def scripts (ctx : Context) (name : String) (script : Option Script) : ManagedResource where
  kind := .configMap
  metadata := ctx.metadata name (ctx.labels name) []
  body := match script with
    | some s => [("data", .ofTexts [(s.name, s.body)])]
    | none => []
  nullFree_body := by
    cases script <;>
      simp [Json.nullFreeMembers_iff, (Json.settable_ofTexts _).1, (Json.settable_ofTexts _).2]

/-- A claim on storage that one node may write to. -/
def claim (ctx : Context) (name size : String) : ManagedResource where
  kind := .claim
  metadata := ctx.metadata name (ctx.labels name) []
  body := [("spec", .obj [("accessModes", texts ["ReadWriteOnce"]),
    ("resources", .obj [("requests", .obj [("storage", .str size)])])])]
  nullFree_body := by simp [Json.nullFreeMembers_iff, Json.nullFree, texts]

/-! ## Deployment -/

/-- The names of what the database deployment mounts and reads. -/
structure DatabaseNeeds where
  secret : String
  scripts : String
  claim : String
  deriving DecidableEq, Repr

def databasePod (dataVolume scriptsVolume : String) (needs : DatabaseNeeds) : Json :=
  .obj [
    ("env", .arr ([EnvVar.ofSecret "POSTGRESQL_USER" needs.secret databaseUserKey,
      .ofSecret "POSTGRESQL_PASSWORD" needs.secret databasePasswordKey,
      .ofSecret "POSTGRESQL_DATABASE" needs.secret databaseNameKey].map (·.toJson))),
    ("image", .str databaseImage),
    ("imagePullPolicy", .str "IfNotPresent"),
    ("livenessProbe", execProbe ["/usr/libexec/check-container", "--live"] 120 10),
    ("name", .str databaseContainer),
    ("ports", .arr [containerPort "postgresql" databasePort]),
    ("readinessProbe", execProbe ["/usr/libexec/check-container"] 5 1),
    ("resources", memory "512Mi" "512Mi"),
    ("volumeMounts", .arr [
      .obj [("mountPath", .str dataPath), ("name", .str dataVolume)],
      .obj [("mountPath", .str scriptsPath), ("name", .str scriptsVolume), ("readOnly", .bool true)]])]

/-- The database with its storage and scripts. A new pod waits for the end of the old one, since
two of them must never share the storage. -/
def databaseDeployment (ctx : Context) (name : String) (needs : DatabaseNeeds) : ManagedResource :=
  let dataVolume := name ++ "-data"
  let scriptsVolume := name ++ "-scripts"
  deployment ctx name ((ctx.labels name).add Labels.runtimeKey "postgresql") [] "Recreate"
    [databasePod dataVolume scriptsVolume needs]
    (some [
      .obj [("name", .str dataVolume),
        ("persistentVolumeClaim", .obj [("claimName", .str needs.claim)])],
      .obj [("configMap", .obj [("name", .str needs.scripts)]), ("name", .str scriptsVolume)]])

end AppServiceOperator.Desired
