import AppServiceOperator.Migration.Script
import AppServiceOperator.Proofs.Desired.Contents
import Mathlib.Data.List.Nodup
/-!
# The topology is closed

Whatever the generated objects say about each other is true, and is about objects that come earlier in
the order (`Closed`), so that nothing is brought about before what it needs. Services are in front of the
pods of one deployment each (`Serves`), and the script is found where the migration runs it
(`FindsFile`). All of it is `topology_closed`.
-/
namespace AppServiceOperator

/-! ## What has to be true -/

section

variable (objects : List ManagedResource)

/-- Among the objects there is one of the kind and the name. -/
def Has (kind : Kind) (name : String) : Prop := ∃ q ∈ objects, q.kind = kind ∧ q.name = name

/-- Among the objects there is the secret, and it has the key. -/
def HasKey (secret key : String) : Prop :=
  ∃ q ∈ objects, q.kind = .secret ∧ q.name = secret ∧ ∃ data, q.data? = some data ∧ key ∈ data.map (·.1)

/-- Among the objects there is the service, and it has the port. -/
def HasPort (service : String) (port : Int) : Prop :=
  ∃ q ∈ objects, q.kind = .service ∧ q.name = service ∧ port ∈ q.servicePorts

end

/-- The labels have all pairs of the selector. -/
def Matches (selector labels : Dictionary String) : Prop :=
  ∀ m ∈ selector, labels.get? m.1 = some m.2

/-- Two variables that give the name and the port of a service. -/
def AddressVars (host port : String) : Prop :=
  (∃ stem, host = stem ++ "_HOST" ∧ port = stem ++ "_PORT") ∨
    host = "DB_SERVICE_NAME" ∧ port = "DB_SERVICE_PORT"

/-- The route leads to the port of the service. -/
structure LeadsTo (r : ManagedResource) (service : String) (port : Int) : Prop where
  kind : r.content.textAlong? ["spec", "to", "kind"] = some Kind.service.name
  name : r.content.textAlong? ["spec", "to", "name"] = some service
  port : r.content.along? ["spec", "port", "targetPort"] = some (.int port)

/-- What an object says about others is true of the objects before it. -/
structure Closed (before : List ManagedResource) (r : ManagedResource) : Prop where
  reads : ∀ ref ∈ r.references, Has before ref.1 ref.2
  keys : ∀ c ∈ r.containers, ∀ key ∈ Container.secretKeys c, HasKey before key.1 key.2
  mounts : ∀ c ∈ r.containers, ∀ m ∈ Container.mounts c,
    ∃ v ∈ r.volumes, ∃ name, m.textAlong? ["name"] = some name ∧ v.textAlong? ["name"] = some name
  finds : r.kind = .deployment → ∃ selector labels,
    r.matchLabels? = some selector ∧ r.podLabels? = some labels ∧ Matches selector labels
  connects : ∀ name, r.connectsTo? = some name → Has before .service name
  addresses : ∀ c ∈ r.containers, ∀ x ∈ Container.values c, ∀ y ∈ Container.values c, AddressVars x.1 y.1 →
    ∃ port, y.2 = toString port ∧ HasPort before x.2 port
  routes : r.kind = .route → ∃ service port, LeadsTo r service port ∧ HasPort before service port

/-- The service finds the pods of the deployment. -/
def Serves (service deployment : ManagedResource) : Prop :=
  ∃ selector labels, service.selector? = some selector ∧ deployment.podLabels? = some labels ∧
    Matches selector labels

/-- A container finds a file with a text where it mounts a volume with the data of a config map. -/
inductive FindsFile (before : List ManagedResource) (d : ManagedResource) (c : Json) :
    String → String → Prop where
  | mounted {m v : Json} {q : ManagedResource} {volume directory file text : String}
      {data : Dictionary String} (mount : m ∈ Container.mounts c)
      (mountName : m.textAlong? ["name"] = some volume)
      (mountPath : m.textAlong? ["mountPath"] = some directory) (whole : m.get? "subPath" = none)
      (declared : v ∈ d.volumes)
      (volumeName : v.textAlong? ["name"] = some volume)
      (source : v.textAlong? ["configMap", "name"] = some q.name)
      (all : v.along? ["configMap", "items"] = none)
      (earlier : q ∈ before) (kind : q.kind = .configMap) (stored : q.data? = some data)
      (entry : data.get? file = some text) : FindsFile before d c (directory ++ "/" ++ file) text

theorem HasKey.has {objects : List ManagedResource} {secret key : String} (h : HasKey objects secret key) :
    Has objects .secret secret := by
  obtain ⟨q, hq, kind, name, -⟩ := h
  exact ⟨q, hq, kind, name⟩

theorem HasPort.has {objects : List ManagedResource} {service : String} {port : Int}
    (h : HasPort objects service port) : Has objects .service service := by
  obtain ⟨q, hq, kind, name, -⟩ := h
  exact ⟨q, hq, kind, name⟩

/-! ## Addresses -/

theorem suffix_eq {a b s t : String} (length : s.length = t.length) (h : a ++ s = b ++ t) : s = t := by
  have hlists : a.toList ++ s.toList = b.toList ++ t.toList := by
    rw [← String.toList_append, ← String.toList_append, h]
  have hlength : s.toList.length = t.toList.length := by
    rw [String.length_toList, String.length_toList, length]
  exact String.toList_injective (List.append_inj' hlists hlength).2

theorem AddressVars.host_suffix {a s port : String} (h : AddressVars (a ++ s) port) (length : s.length = 5) :
    s = "_HOST" ∨ s = "_NAME" := by
  rcases h with ⟨stem, host, -⟩ | ⟨host, -⟩
  · exact .inl (suffix_eq length host)
  · have split : "DB_SERVICE_NAME" = "DB_SERVICE" ++ "_NAME" := by decide
    exact .inr (suffix_eq length (host.trans split))

theorem AddressVars.port_suffix {a s host : String} (h : AddressVars host (a ++ s)) (length : s.length = 5) :
    s = "_PORT" := by
  rcases h with ⟨stem, -, port⟩ | ⟨-, port⟩
  · exact suffix_eq length port
  · have split : "DB_SERVICE_PORT" = "DB_SERVICE" ++ "_PORT" := by decide
    exact suffix_eq length (port.trans split)

/-- If the name of the variable is that of a host or of a port, the value is that of the service. -/
structure Addresses (service : String) (port : Int) (x : String × String) : Prop where
  host : ∀ y, AddressVars x.1 y → x.2 = service
  port : ∀ y, AddressVars y x.1 → x.2 = toString port

/-- The last five characters of its name tell whether a variable is that of a host or of a port. -/
theorem addresses_append {service value a s : String} {port : Int} (length : s.length = 5)
    (host : s = "_HOST" ∨ s = "_NAME" → value = service) (number : s = "_PORT" → value = toString port) :
    Addresses service port (a ++ s, value) :=
  ⟨fun _ h => host (h.host_suffix length), fun _ h => number (h.port_suffix length)⟩

namespace Desired

variable {ctx : Context} {name : String} {before : List ManagedResource}

/-! ## Objects without pods -/

theorem closed_of_podless {r : ManagedResource} (containers : r.containers = []) (volumes : r.volumes = [])
    (connects : r.connectsTo? = none) (other : r.kind ≠ .deployment)
    (routes : r.kind = .route → ∃ service port, LeadsTo r service port ∧ HasPort before service port) :
    Closed before r where
  reads := by simp [ManagedResource.references, containers, volumes]
  keys := by simp [containers]
  mounts := by simp [containers]
  finds h := absurd h other
  connects := by simp [connects]
  addresses := by simp [containers]
  routes := routes

theorem closed_secret (credentials : Credentials) : Closed before (secret ctx name credentials) :=
  closed_of_podless rfl rfl rfl nofun nofun

theorem closed_scripts (script : Option Script) : Closed before (scripts ctx name script) := by
  cases script <;> exact closed_of_podless rfl rfl rfl nofun nofun

theorem closed_claim (size : String) : Closed before (claim ctx name size) :=
  closed_of_podless rfl rfl rfl nofun nofun

theorem closed_service (ports : List (String × Int)) : Closed before (service ctx name ports) :=
  closed_of_podless rfl rfl rfl nofun nofun

/-- A route is closed where its service comes before it. -/
theorem closed_route {target : String} {port : Int} (served : HasPort before target port) :
    Closed before (route ctx name target port) := by
  refine closed_of_podless ?_ ?_ rfl nofun fun _ => ⟨target, port, ⟨?_, ?_, ?_⟩, served⟩
  · rw [ManagedResource.containers, content_route]
    rfl
  · rw [ManagedResource.volumes, content_route]
    rfl
  all_goals
    rw [content_route]
    rfl

/-! ## Deployments -/

theorem matches_selector (l : Labels) : Matches l.selector l.toMap := by
  simp +decide [Matches, Labels.selector, Labels.get?_toMap, Labels.wellKnown, Dictionary.get?_cons,
    Labels.componentKey, Labels.instanceKey, Labels.partOfKey]

/-- The database is closed where its secret, its scripts and its claim come before it. -/
theorem closed_databaseDeployment {needs : DatabaseNeeds}
    (keys : ∀ key ∈ credentialKeys, HasKey before needs.secret key)
    (scripts : Has before .configMap needs.scripts) (claim : Has before .claim needs.claim) :
    Closed before (databaseDeployment ctx name needs) where
  reads := by
    have secret : Has before .secret needs.secret := (keys _ List.mem_cons_self).has
    rw [references_databaseDeployment]
    simp [secret, scripts, claim]
  keys := by
    rw [containers_databaseDeployment, List.forall_mem_singleton, secretKeys_databasePod, List.forall_mem_map]
    exact keys
  mounts := by
    rw [containers_databaseDeployment, List.forall_mem_singleton, mounts_databasePod,
      volumes_databaseDeployment, List.forall_mem_cons, List.forall_mem_singleton]
    refine ⟨⟨_, List.mem_cons_self, name ++ "-data", rfl, rfl⟩, ?_⟩
    exact ⟨_, List.mem_cons_of_mem _ List.mem_cons_self, name ++ "-scripts", rfl, rfl⟩
  finds _ := ⟨_, _, matchLabels?_deployment, podLabels?_deployment, matches_selector _⟩
  connects := nofun
  addresses := by
    rw [containers_databaseDeployment, List.forall_mem_singleton, values_databasePod]
    nofun
  routes := nofun

/-- A web tier that calls one service is closed where all that its variables name comes before it. -/
theorem closed_webDeployment {w : WebWorkload} {service : String} {port : Int}
    (reads : ∀ e ∈ w.env, ∀ ref ∈ Naming.env.named e.toJson, Has before ref.1 ref.2)
    (keys : ∀ key ∈ Container.secretKeys (webContainer w), HasKey before key.1 key.2)
    (connects : w.connectsTo = some service) (served : HasPort before service port)
    (addresses : ∀ x ∈ Container.values (webContainer w), Addresses service port x) :
    Closed before (webDeployment ctx w) where
  reads := by
    rw [references_webDeployment]
    intro ref href
    obtain ⟨e, he, hnamed⟩ := List.mem_flatMap.1 href
    exact reads e he ref hnamed
  keys := by
    rw [containers_webDeployment, List.forall_mem_singleton]
    exact keys
  mounts := by
    rw [containers_webDeployment, List.forall_mem_singleton]
    nofun
  finds _ := ⟨_, _, matchLabels?_deployment, podLabels?_deployment, matches_selector _⟩
  connects := by
    rw [connectsTo?_webDeployment, connects]
    rintro _ ⟨⟩
    exact served.has
  addresses := by
    rw [containers_webDeployment, List.forall_mem_singleton]
    intro x hx y hy pair
    rw [(addresses x hx).host _ pair]
    exact ⟨port, (addresses y hy).port _ pair, served⟩
  routes := nofun

/-- The events backend is closed where the secret and the service of the database come before it. -/
theorem closed_eventsDeployment {needs : EventsNeeds}
    (keys : ∀ key ∈ credentialKeys, HasKey before needs.secret key)
    (database : HasPort before needs.databaseService needs.databasePort) :
    Closed before (eventsDeployment ctx name needs) := by
  have secret : Has before .secret needs.secret := (keys _ List.mem_cons_self).has
  refine closed_webDeployment ?reads ?keys rfl database ?addresses
  case reads => simp [eventsWorkload, secret]
  case keys => simpa [Container.secretKeys, env_webContainer, eventsWorkload, credentialKeys] using keys
  case addresses =>
    have values : Container.values (webContainer (eventsWorkload name needs)) =
        [("DB_SERVICE" ++ "_NAME", needs.databaseService),
          ("DB_SERVICE" ++ "_PORT", toString needs.databasePort),
          ("JAVA_OP" ++ "TIONS", "-Dspring.profiles.active=openshift")] := by
      simp [Container.values, env_webContainer, eventsWorkload]
    rw [values]
    simp only [List.forall_mem_cons]
    exact ⟨addresses_append rfl (fun _ => rfl) (by simp), addresses_append rfl (by simp) fun _ => rfl,
      addresses_append rfl (by simp) (by simp), by simp⟩

/-- A node tier is closed where the service that it calls comes before it. -/
theorem closed_nodeWorkload {image stem : String} {backend : Backend}
    (served : HasPort before backend.service backend.port) :
    Closed before (webDeployment ctx (nodeWorkload name image stem backend)) := by
  refine closed_webDeployment ?reads ?keys rfl served ?addresses
  case reads => simp [nodeWorkload]
  case keys => simp [Container.secretKeys, env_webContainer, nodeWorkload]
  case addresses =>
    have values : Container.values (webContainer (nodeWorkload name image stem backend)) =
        [("NOD" ++ "E_ENV", "production"), (stem ++ "_HOST", backend.service),
          (stem ++ "_PORT", toString backend.port)] := by
      simp [Container.values, env_webContainer, nodeWorkload]
    rw [values]
    simp only [List.forall_mem_cons]
    exact ⟨addresses_append rfl (by simp) (by simp), addresses_append rfl (fun _ => rfl) (by simp),
      addresses_append rfl (by simp) fun _ => rfl, by simp⟩

/-! ## Groups -/

/-- Objects that are brought about in order, after others. -/
def ClosedAfter (before rs : List ManagedResource) : Prop :=
  ∀ front r back, rs = front ++ r :: back → Closed (before ++ front) r

theorem ClosedAfter.nil : ClosedAfter before [] := by
  intro front r back h
  simp at h

theorem ClosedAfter.cons {r : ManagedResource} {rs : List ManagedResource} (first : Closed before r)
    (rest : ClosedAfter (before ++ [r]) rs) : ClosedAfter before (r :: rs) := by
  intro front q back h
  cases front with
  | nil =>
    obtain ⟨rfl, -⟩ := List.cons.inj h
    rwa [List.append_nil]
  | cons p front =>
    obtain ⟨rfl, hrest⟩ := List.cons.inj h
    rw [List.append_cons]
    exact rest front q back hrest

theorem ClosedAfter.append {rs qs : List ManagedResource} (first : ClosedAfter before rs)
    (rest : ClosedAfter (before ++ rs) qs) : ClosedAfter before (rs ++ qs) := by
  induction rs generalizing before with
  | nil => simpa using rest
  | cons r rs ih =>
    have head : Closed before r := by simpa using first [] r rs rfl
    have tail : ClosedAfter (before ++ [r]) rs := by
      intro front q back h
      rw [List.append_assoc]
      exact first (r :: front) q back (by rw [h, List.cons_append])
    exact .cons head (ih tail (by simpa using rest))

theorem hasKey_secret (ctx : Context) (credentials : Credentials)
    (earlier : secret ctx name credentials ∈ before) :
    ∀ key ∈ credentialKeys, HasKey before name key := by
  have stored : ∀ key ∈ credentialKeys, key ∈ [databaseNameKey, databasePasswordKey, databaseUserKey] := by
    decide
  exact fun key known => ⟨_, earlier, rfl, rfl, _, Json.texts?_ofTexts _, stored key known⟩

theorem hasPort_service (ctx : Context) (ports : List (String × Int)) {port : Int}
    (earlier : service ctx name ports ∈ before) (offered : port ∈ ports.map (·.2)) :
    HasPort before name port :=
  ⟨_, earlier, rfl, rfl, by rwa [servicePorts_service]⟩

theorem closedAfter_nodeGroup {group : GroupName} {image stem backend : String}
    (served : HasPort before backend httpPort) :
    ClosedAfter before (nodeGroup ctx group name image stem backend).resources := by
  refine .cons (closed_nodeWorkload served) (.cons (closed_service _) (.cons (closed_route ?_) .nil))
  exact hasPort_service ctx [("http", httpPort)] (by simp) (by simp)

theorem closedAfter_eventsGroup : ClosedAfter [] (eventsGroup ctx).resources := by
  refine .cons (closed_secret _) (.cons (closed_scripts _) (.cons (closed_claim _) (.cons ?database
    (.cons (closed_service _) (.cons ?events (.cons (closed_service _) (.cons (closed_route ?_) .nil)))))))
  case database =>
    refine closed_databaseDeployment (hasKey_secret ctx {} (by simp)) ?_ ?_
    · exact ⟨scripts ctx eventsScripts ctx.script, by simp, rfl, rfl⟩
    · exact ⟨claim ctx eventsDatabase databaseStorage, by simp, rfl, rfl⟩
  case events =>
    refine closed_eventsDeployment (hasKey_secret ctx {} (by simp)) ?_
    exact hasPort_service ctx [("postgresql", databasePort)] (by simp) (by simp)
  exact hasPort_service ctx [("http", httpPort)] (by simp) (by simp)

theorem closedAfter_resources (ctx : Context) : ClosedAfter [] (resources ctx) := by
  have hall : resources ctx =
      (eventsGroup ctx).resources ++ ((gatewayGroup ctx).resources ++ (frontendGroup ctx).resources) := rfl
  rw [hall]
  refine closedAfter_eventsGroup.append (.append (closedAfter_nodeGroup ?_) (closedAfter_nodeGroup ?_))
  · exact hasPort_service ctx [("http", httpPort)] (by simp [eventsGroup]) (by simp)
  · exact hasPort_service ctx [("http", httpPort)] (by simp [gatewayGroup, nodeGroup]) (by simp)

/-! ## Services -/

theorem selector?_service (ports : List (String × Int)) :
    (service ctx name ports).selector? = some (ctx.labels name).selector := Json.texts?_ofTexts _

theorem matches_iff {l : Labels} : Matches (ctx.labels name).selector l.toMap ↔ name = l.component := by
  simp +decide [Matches, Labels.selector, Labels.get?_toMap, Labels.wellKnown, Dictionary.get?_cons,
    Labels.componentKey, Labels.instanceKey, Labels.partOfKey, Context.labels, eq_comm]

theorem deployments_eq (ctx : Context) : (resources ctx).filter (·.kind = .deployment) =
    [databaseDeployment ctx eventsDatabase ⟨eventsDatabase, eventsScripts, eventsDatabase⟩,
      eventsDeployment ctx events ⟨eventsDatabase, eventsDatabase, databasePort⟩,
      webDeployment ctx (nodeWorkload gateway gatewayImage "EVENTS_API" ⟨events, httpPort⟩),
      webDeployment ctx (nodeWorkload frontend frontendImage "GATEWAY_API" ⟨gateway, httpPort⟩)] := rfl

theorem services_eq (ctx : Context) : (resources ctx).filter (·.kind = .service) =
    [service ctx eventsDatabase [("postgresql", databasePort)], service ctx events [("http", httpPort)],
      service ctx gateway [("http", httpPort)], service ctx frontend [("http", httpPort)]] := rfl

/-- The pods of a deployment carry its name as that of their component, and the name of the AppService. -/
theorem podLabels?_of_mem {d : ManagedResource} (hd : d ∈ resources ctx) (kind : d.kind = .deployment) :
    ∃ labels : Labels, d.podLabels? = some labels.toMap ∧ labels.component = d.name ∧
      labels.instanceName = ctx.instanceName := by
  have hmem : d ∈ (resources ctx).filter (·.kind = .deployment) := List.mem_filter.2 ⟨hd, by simpa using kind⟩
  rw [deployments_eq] at hmem
  simp only [List.mem_cons, List.not_mem_nil, or_false] at hmem
  rcases hmem with rfl | rfl | rfl | rfl <;> exact ⟨_, podLabels?_deployment, rfl, rfl⟩

/-- A service finds the pods of the component of its name. -/
theorem serves_iff_component {d : ManagedResource} {labels : Labels} {ports : List (String × Int)}
    (found : d.podLabels? = some labels.toMap) :
    Serves (service ctx name ports) d ↔ name = labels.component := by
  rw [← @matches_iff ctx name labels]
  constructor
  · rintro ⟨selector, map, hselector, hmap, matched⟩
    cases (selector?_service ports).symm.trans hselector
    cases found.symm.trans hmap
    exact matched
  · exact fun matched => ⟨_, _, selector?_service ports, found, matched⟩

theorem serves_iff {d : ManagedResource} {ports : List (String × Int)} (hd : d ∈ resources ctx)
    (kind : d.kind = .deployment) : Serves (service ctx name ports) d ↔ d.name = name := by
  obtain ⟨labels, found, component, -⟩ := podLabels?_of_mem hd kind
  rw [serves_iff_component found, component, eq_comm]

/-- Every service has the name of a deployment, which listens on its ports. -/
theorem exists_deployment {r : ManagedResource} (hr : r ∈ resources ctx) (kind : r.kind = .service) :
    ∃ name ports d, r = service ctx name ports ∧ d ∈ resources ctx ∧ d.kind = .deployment ∧ d.name = name ∧
      r.servicePorts ⊆ d.containerPorts := by
  have hmem : r ∈ (resources ctx).filter (·.kind = .service) := List.mem_filter.2 ⟨hr, by simpa using kind⟩
  have deployed : ∀ d ∈ (resources ctx).filter (·.kind = .deployment),
      d ∈ resources ctx ∧ d.kind = .deployment := by simp
  rw [services_eq] at hmem
  rw [deployments_eq] at deployed
  simp only [List.forall_mem_cons] at deployed
  obtain ⟨⟨database, hdatabase⟩, ⟨events, hevents⟩, ⟨gateway, hgateway⟩, ⟨frontend, hfrontend⟩, -⟩ := deployed
  have ports {name : String} {w : WebWorkload} :
      (service ctx name [("http", httpPort)]).servicePorts ⊆ (webDeployment ctx w).containerPorts := by
    rw [servicePorts_service, containerPorts_webDeployment]
    exact List.Subset.refl _
  simp only [List.mem_cons, List.not_mem_nil, or_false] at hmem
  rcases hmem with rfl | rfl | rfl | rfl
  · refine ⟨_, _, _, rfl, database, hdatabase, rfl, ?_⟩
    rw [servicePorts_service, containerPorts_databaseDeployment]
    exact List.Subset.refl _
  · exact ⟨_, _, _, rfl, events, hevents, rfl, ports⟩
  · exact ⟨_, _, _, rfl, gateway, hgateway, rfl, ports⟩
  · exact ⟨_, _, _, rfl, frontend, hfrontend, rfl, ports⟩

/-- Two deployments of one name are the same. -/
theorem deployment_ext {d d' : ManagedResource} (hd : d ∈ resources ctx) (hd' : d' ∈ resources ctx)
    (kind : d.kind = .deployment) (kind' : d'.kind = .deployment) (same : d.name = d'.name) : d = d' :=
  List.inj_on_of_nodup_map (nodup_identities ctx) hd hd' (by rw [kind, kind', same])

/-! ## The script -/

/-- The database container finds the scripts where the command of the migration looks for them. -/
theorem findsFile_databasePod {script : Script} {needs : DatabaseNeeds}
    (earlier : scripts ctx needs.scripts (some script) ∈ before) :
    FindsFile before (databaseDeployment ctx name needs)
      (databasePod (name ++ "-data") (name ++ "-scripts") needs) (scriptsPath ++ "/" ++ script.name)
      script.body := by
  have declared : .obj [("configMap", .obj [("name", .str needs.scripts)]),
      ("name", .str (name ++ "-scripts"))] ∈ (databaseDeployment ctx name needs).volumes := by
    rw [volumes_databaseDeployment]
    exact List.mem_cons_of_mem _ List.mem_cons_self
  have entry : Dictionary.get? [(script.name, script.body)] script.name = some script.body := by
    rw [Dictionary.get?_cons, if_pos rfl]
  exact .mounted (List.mem_cons_of_mem _ List.mem_cons_self) rfl rfl rfl declared rfl rfl rfl earlier rfl
    (Json.texts?_ofTexts _) entry

theorem command_eq (settings : MigrationSettings) : settings.command =
    ["/bin/bash", "-c", "psql -U $POSTGRESQL_USER $POSTGRESQL_DATABASE -f " ++
      (scriptsPath ++ "/" ++ settings.scriptName)] := by
  rw [MigrationSettings.command, String.append_assoc, String.append_assoc, String.append_assoc]

/-! ## The topology -/

theorem owners_of_mem_resources {r : ManagedResource} (h : r ∈ resources ctx) :
    r.metadata.ownerReferences = some [ctx.owner] := by
  have hall : (resources ctx).map (·.metadata.ownerReferences) = List.replicate 14 (some [ctx.owner]) := rfl
  have hmem := List.mem_map_of_mem (f := (·.metadata.ownerReferences)) h
  rw [hall] at hmem
  exact List.eq_of_mem_replicate hmem

/-- The fourteen objects have different kinds and names, and are in the namespace and owned by the
AppService of the context. What each of them says about others is true of those before it. Each service
finds the pods of one deployment, which listen on its ports. And the command of the migration runs the
script of the context, if it has that name, in the container that it is sent to. -/
theorem topology_closed (ctx : Context) :
    ((resources ctx).length = 14 ∧ ((resources ctx).map fun r => (r.kind, r.name)).Nodup ∧
      ∀ r ∈ resources ctx, r.ns = some ctx.ns ∧ r.metadata.ownerReferences = some [ctx.owner]) ∧
    (∀ before r after, resources ctx = before ++ r :: after → Closed before r) ∧
    (((resources ctx).filter (·.kind = .deployment)).length = 4 ∧
      ∀ r ∈ resources ctx, r.kind = .service → ∃ d ∈ resources ctx, d.kind = .deployment ∧ Serves r d ∧
        r.servicePorts ⊆ d.containerPorts ∧
        ∀ d' ∈ resources ctx, d'.kind = .deployment → Serves r d' → d' = d) ∧
    ∀ (settings : MigrationSettings) (script : Script), ctx.script = some script →
      script.name = settings.scriptName →
      ∃ before d after c path, resources ctx = before ++ d :: after ∧ d.kind = .deployment ∧
        (∃ key value labels, databaseSelector = key ++ "=" ++ value ∧ d.podLabels? = some labels ∧
          labels.get? key = some value) ∧
        c ∈ d.containers ∧ c.textAlong? ["name"] = some databaseContainer ∧
        FindsFile before d c path script.body ∧
        settings.command = ["/bin/bash", "-c",
          "psql -U $POSTGRESQL_USER $POSTGRESQL_DATABASE -f " ++ path] := by
  refine ⟨⟨rfl, nodup_identities ctx, fun r hr => ⟨ns_of_mem_resources hr, owners_of_mem_resources hr⟩⟩,
    closedAfter_resources ctx, ⟨rfl, fun r hr kind => ?services⟩,
    fun settings script shipped named => ?script⟩
  case services =>
    obtain ⟨name, ports, d, rfl, hd, deployed, hname, listens⟩ := exists_deployment hr kind
    refine ⟨d, hd, deployed, (serves_iff hd deployed).2 hname, listens, fun d' hd' deployed' serves => ?_⟩
    have hname' : d'.name = name := (serves_iff hd' deployed').1 serves
    exact deployment_ext hd' hd deployed' deployed (hname'.trans hname.symm)
  case script =>
    let needs : DatabaseNeeds := ⟨eventsDatabase, eventsScripts, eventsDatabase⟩
    let before := (eventsGroup ctx).resources.take 3
    have earlier : scripts ctx needs.scripts (some script) ∈ before := by
      rw [← shipped]
      simp [before, needs, eventsGroup]
    refine ⟨before, databaseDeployment ctx eventsDatabase needs, _, _, _, rfl, rfl,
      ⟨Labels.componentKey, eventsDatabase, _, rfl, podLabels?_deployment, ?component⟩, ?contained, rfl,
      findsFile_databasePod earlier, ?command⟩
    case component => exact matches_selector _ _ (List.mem_cons_of_mem _ List.mem_cons_self)
    case contained =>
      rw [containers_databaseDeployment]
      exact List.mem_cons_self
    case command =>
      rw [named]
      exact command_eq settings

/-- A script that is shipped under its usual name is what the usual command runs. -/
theorem topology_closed_of_shipped : ∃ (ctx : Context) (text : String) (before : List ManagedResource)
    (d : ManagedResource) (c : Json) (path : String), ctx.script = some ⟨Script.fileName, text⟩ ∧
    d ∈ resources ctx ∧ c ∈ d.containers ∧ FindsFile before d c path text ∧
    MigrationSettings.command {} =
      ["/bin/bash", "-c", "psql -U $POSTGRESQL_USER $POSTGRESQL_DATABASE -f " ++ path] := by
  let owner : OwnerReference :=
    ⟨ApiResource.appServices.apiVersion, ApiResource.appServices.kind, "gramola", "7", some true, none⟩
  let script : Script := ⟨Script.fileName, "select 1;"⟩
  let ctx : Context := ⟨"gramola", "demo", owner, some script⟩
  obtain ⟨-, -, -, found⟩ := topology_closed ctx
  obtain ⟨before, d, after, c, path, hall, -, -, hc, -, finds, command⟩ := found {} script rfl rfl
  exact ⟨ctx, _, before, d, c, path, rfl, by rw [hall]; simp, hc, finds, command⟩

end Desired

end AppServiceOperator
