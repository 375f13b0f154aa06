import AppServiceOperator.Proofs.Desired.Generated
/-!
# What the generated manifests say

What can be read off a manifest about the objects that belong together: the objects and keys that
containers read, the volumes that they mount, the ports that they listen on, the labels that pods are
found by, and the addresses of services. For each generator there is a lemma on what its manifest says.
-/
namespace AppServiceOperator

/-! ## Values along a path -/

namespace Json

/-- The value at the end of a path of keys. -/
def along? (j : Json) : List String → Option Json
  | [] => some j
  | key :: path => (j.get? key).bind (·.along? path)

def textAlong? (j : Json) (path : List String) : Option String := (j.along? path).bind str?

def textsAlong? (j : Json) (path : List String) : Option (Dictionary String) := (j.along? path).bind texts?

/-- The items of the array at the end of a path; none where there is no array. -/
def itemsAlong (j : Json) (path : List String) : List Json := ((j.along? path).bind arr?).getD []

/-- The whole numbers that the items of an array have at a key. -/
def numbersAlong (j : Json) (path : List String) (key : String) : List Int :=
  (j.itemsAlong path).filterMap fun item => (item.get? key).bind int?

theorem ofMembers_pair {k l : String} {a b : Json} (h : k < l) :
    ofMembers [(k, a), (l, b)] = .obj [(k, a), (l, b)] := by
  have hlt : ¬ l < k := fun h' => String.lt_irrefl k (String.lt_trans h h')
  have hne : l ≠ k := by
    rintro rfl
    exact String.lt_irrefl l h
  simp only [ofMembers, Dictionary.ofList, List.foldl_cons, List.foldl_nil, Dictionary.insert, if_neg hlt,
    if_neg hne]

theorem texts?_ofTexts (texts : Dictionary String) : (ofTexts texts).texts? = some texts := by
  change (texts.map fun t => (t.1, Json.str t.2)).mapM (fun m => m.2.str?.map fun s => (m.1, s)) = _
  induction texts with
  | nil => rfl
  | cons t texts ih =>
    rw [List.map_cons, List.mapM_cons, ih]
    rfl

end Json

/-! ## Readings -/

/-- Where something names an object of a kind. -/
abbrev Naming := List (Kind × List String)

/-- The objects that are named in a value. -/
def Naming.named (naming : Naming) (j : Json) : List (Kind × String) :=
  naming.filterMap fun entry => (j.textAlong? entry.2).map (entry.1, ·)

/-- A variable of a container takes its value from a secret or a config map. -/
def Naming.env : Naming :=
  [(.secret, ["valueFrom", "secretKeyRef", "name"]), (.configMap, ["valueFrom", "configMapKeyRef", "name"])]

/-- A container takes all its variables from a secret or a config map. -/
def Naming.envFrom : Naming := [(.secret, ["secretRef", "name"]), (.configMap, ["configMapRef", "name"])]

def Naming.volume : Naming :=
  [(.secret, ["secret", "secretName"]), (.configMap, ["configMap", "name"]),
    (.claim, ["persistentVolumeClaim", "claimName"])]

namespace Container

def env (c : Json) : List Json := c.itemsAlong ["env"]

/-- The name and the value of a variable that has a value of its own. -/
def value? (e : Json) : Option (String × String) :=
  (e.textAlong? ["name"]).bind fun name => (e.textAlong? ["value"]).map (name, ·)

/-- The secret and the key that a variable takes its value from. -/
def secretKey? (e : Json) : Option (String × String) :=
  (e.textAlong? ["valueFrom", "secretKeyRef", "name"]).bind fun secret =>
    (e.textAlong? ["valueFrom", "secretKeyRef", "key"]).map (secret, ·)

def values (c : Json) : List (String × String) := (env c).filterMap value?

def secretKeys (c : Json) : List (String × String) := (env c).filterMap secretKey?

/-- The objects that variables are taken from. -/
def reads (c : Json) : List (Kind × String) :=
  (env c).flatMap Naming.env.named ++ (c.itemsAlong ["envFrom"]).flatMap Naming.envFrom.named

def mounts (c : Json) : List Json := c.itemsAlong ["volumeMounts"]

def ports (c : Json) : List Int := c.numbersAlong ["ports"] "containerPort"

end Container

namespace ManagedResource

/-- The manifest without what every manifest begins with. -/
def content (r : ManagedResource) : Json := .obj r.body

/-- The containers of the pods, those that run first among them. -/
def containers (r : ManagedResource) : List Json :=
  r.content.itemsAlong ["spec", "template", "spec", "initContainers"] ++
    r.content.itemsAlong ["spec", "template", "spec", "containers"]

def volumes (r : ManagedResource) : List Json := r.content.itemsAlong ["spec", "template", "spec", "volumes"]

def containerPorts (r : ManagedResource) : List Int := r.containers.flatMap Container.ports

/-- The objects that pods read or mount. -/
def references (r : ManagedResource) : List (Kind × String) :=
  r.containers.flatMap Container.reads ++ r.volumes.flatMap Naming.volume.named

def podLabels? (r : ManagedResource) : Option (Dictionary String) :=
  r.content.textsAlong? ["spec", "template", "metadata", "labels"]

/-- The labels by which a deployment finds its pods. -/
def matchLabels? (r : ManagedResource) : Option (Dictionary String) :=
  r.content.textsAlong? ["spec", "selector", "matchLabels"]

/-- The labels by which a service finds its pods. -/
def selector? (r : ManagedResource) : Option (Dictionary String) := r.content.textsAlong? ["spec", "selector"]

def servicePorts (r : ManagedResource) : List Int := r.content.numbersAlong ["spec", "ports"] "port"

/-- The data of a secret or a config map. -/
def data? (r : ManagedResource) : Option (Dictionary String) := r.content.textsAlong? ["data"]

/-- The service that a console draws an arrow to. -/
def connectsTo? (r : ManagedResource) : Option String :=
  r.metadata.annotations.bind fun annotations => annotations.get? connectsToKey

end ManagedResource

namespace Desired

variable {ctx : Context} {name : String}

theorem toJson_plain (name value : String) :
    (EnvVar.plain name value).toJson = .obj [("name", .str name), ("value", .str value)] :=
  Json.ofMembers_pair (by decide)

theorem toJson_ofSecret (name secret key : String) :
    (EnvVar.ofSecret name secret key).toJson = .obj [("name", .str name),
      ("valueFrom", .obj [("secretKeyRef", .obj [("key", .str key), ("name", .str secret)])])] :=
  Json.ofMembers_pair (by decide)

theorem podSpec_eq (containers : List Json) (volumes : Option (List Json)) :
    podSpec containers volumes =
      .obj (("containers", .arr containers) :: (volumes.map fun vs => ("volumes", .arr vs)).toList) := by
  cases volumes with
  | none => rfl
  | some vs => exact Json.ofMembers_pair (by decide)

theorem servicePorts_service (ports : List (String × Int)) :
    (service ctx name ports).servicePorts = ports.map (·.2) := by
  change (ports.map fun p => servicePort p.1 p.2).filterMap _ = _
  rw [List.filterMap_map, ← List.filterMap_eq_map]
  rfl

theorem content_route {target : String} {port : Int} : (route ctx name target port).content =
    .obj [("spec", .obj [("port", .obj [("targetPort", .int port)]),
      ("to", .obj [("kind", .str "Service"), ("name", .str target)])])] := by
  simp only [ManagedResource.content, route, ManagedResource.ofRoute, toJson_routeSpec]

section Deployment

variable {labels : Labels} {annotations : Dictionary String} {strategy : String} {containers : List Json}
  {volumes : Option (List Json)}

@[simp] theorem containers_deployment :
    (deployment ctx name labels annotations strategy containers volumes).containers = containers := by
  simp only [deployment, podSpec_eq, ManagedResource.containers]
  cases volumes <;> rfl

@[simp] theorem volumes_deployment :
    (deployment ctx name labels annotations strategy containers volumes).volumes = volumes.getD [] := by
  simp only [deployment, podSpec_eq, ManagedResource.volumes]
  cases volumes <;> rfl

@[simp] theorem matchLabels?_deployment :
    (deployment ctx name labels annotations strategy containers volumes).matchLabels? =
      some labels.selector :=
  Json.texts?_ofTexts _

@[simp] theorem podLabels?_deployment :
    (deployment ctx name labels annotations strategy containers volumes).podLabels? = some labels.toMap :=
  Json.texts?_ofTexts _

end Deployment

section Variables

variable {value secret key : String}

@[simp] theorem named_plain : Naming.env.named (EnvVar.plain name value).toJson = [] := by
  rw [toJson_plain]
  rfl

@[simp] theorem named_ofSecret :
    Naming.env.named (EnvVar.ofSecret name secret key).toJson = [(.secret, secret)] := by
  rw [toJson_ofSecret]
  rfl

@[simp] theorem value?_plain : Container.value? (EnvVar.plain name value).toJson = some (name, value) := by
  rw [toJson_plain]
  rfl

@[simp] theorem value?_ofSecret : Container.value? (EnvVar.ofSecret name secret key).toJson = none := by
  rw [toJson_ofSecret]
  rfl

@[simp] theorem secretKey?_plain : Container.secretKey? (EnvVar.plain name value).toJson = none := by
  rw [toJson_plain]
  rfl

@[simp] theorem secretKey?_ofSecret :
    Container.secretKey? (EnvVar.ofSecret name secret key).toJson = some (secret, key) := by
  rw [toJson_ofSecret]
  rfl

end Variables

/-! What the workloads say -/

/-- What containers read of the credentials. -/
def credentialKeys : List String := [databaseUserKey, databasePasswordKey, databaseNameKey]

section Database

variable {dataVolume scriptsVolume : String} {needs : DatabaseNeeds}

theorem env_databasePod : Container.env (databasePod dataVolume scriptsVolume needs) =
    [EnvVar.ofSecret "POSTGRESQL_USER" needs.secret databaseUserKey,
      .ofSecret "POSTGRESQL_PASSWORD" needs.secret databasePasswordKey,
      .ofSecret "POSTGRESQL_DATABASE" needs.secret databaseNameKey].map (·.toJson) := rfl

theorem mounts_databasePod : Container.mounts (databasePod dataVolume scriptsVolume needs) =
    [.obj [("mountPath", .str dataPath), ("name", .str dataVolume)],
      .obj [("mountPath", .str scriptsPath), ("name", .str scriptsVolume), ("readOnly", .bool true)]] := rfl

theorem secretKeys_databasePod : Container.secretKeys (databasePod dataVolume scriptsVolume needs) =
    credentialKeys.map (needs.secret, ·) := by
  simp [credentialKeys, Container.secretKeys, env_databasePod]

theorem values_databasePod : Container.values (databasePod dataVolume scriptsVolume needs) = [] := by
  simp [Container.values, env_databasePod]

theorem containers_databaseDeployment : (databaseDeployment ctx name needs).containers =
    [databasePod (name ++ "-data") (name ++ "-scripts") needs] := containers_deployment

theorem volumes_databaseDeployment : (databaseDeployment ctx name needs).volumes =
    [.obj [("name", .str (name ++ "-data")),
        ("persistentVolumeClaim", .obj [("claimName", .str needs.claim)])],
      .obj [("configMap", .obj [("name", .str needs.scripts)]), ("name", .str (name ++ "-scripts"))]] :=
  volumes_deployment

theorem references_databaseDeployment : (databaseDeployment ctx name needs).references =
    [(.secret, needs.secret), (.secret, needs.secret), (.secret, needs.secret), (.claim, needs.claim),
      (.configMap, needs.scripts)] := by
  rw [ManagedResource.references, containers_databaseDeployment, volumes_databaseDeployment]
  simp only [List.flatMap_cons, Container.reads, env_databasePod, List.map_cons, named_ofSecret]
  rfl

theorem containerPorts_databaseDeployment :
    (databaseDeployment ctx name needs).containerPorts = [databasePort] := by
  rw [ManagedResource.containerPorts, containers_databaseDeployment]
  rfl

end Database

section Web

variable {w : WebWorkload}

theorem env_webContainer : Container.env (webContainer w) = w.env.map (·.toJson) := rfl

theorem containers_webDeployment : (webDeployment ctx w).containers = [webContainer w] :=
  containers_deployment

theorem volumes_webDeployment : (webDeployment ctx w).volumes = [] := volumes_deployment

theorem references_webDeployment : (webDeployment ctx w).references =
    w.env.flatMap fun e => Naming.env.named e.toJson := by
  rw [ManagedResource.references, containers_webDeployment, volumes_webDeployment, List.flatMap_singleton,
    Container.reads, env_webContainer, List.flatMap_map]
  simp only [List.flatMap_nil, List.append_nil]
  exact List.append_nil _

theorem containerPorts_webDeployment : (webDeployment ctx w).containerPorts = [httpPort] := by
  rw [ManagedResource.containerPorts, containers_webDeployment]
  rfl

theorem connectsTo?_webDeployment : (webDeployment ctx w).connectsTo? = w.connectsTo := by
  rw [ManagedResource.connectsTo?, webDeployment, deployment, Context.metadata]
  cases w.connectsTo <;> rfl

end Web

end Desired

end AppServiceOperator
