import AppServiceOperator.Desired.Groups
import AppServiceOperator.Proofs.Manifest.OwnedFields
/-!
# The generated resources

What holds of every object that is generated for an AppService, whatever its context: it is solid
(`solid_resources`), so a patch with it establishes what the operator owns, and no two of the
fourteen have the same kind and name (`nodup_identities`).
-/
namespace AppServiceOperator

open Dictionary (Sorted sorted_iff_ascending)

namespace Labels

theorem sorted_toMap {l : Labels} (h : Sorted l.extra) : Sorted l.toMap := by
  unfold toMap
  repeat' apply Dictionary.sorted_insert
  exact h

/-- The labels that every object of a component has, whatever extra ones it has. -/
def wellKnown (component instanceName : String) : Dictionary String :=
  [("app", appValue), (instanceKey, instanceName), (partOfKey, appValue), (componentKey, component)]

theorem sorted_wellKnown (component instanceName : String) : Sorted (wellKnown component instanceName) := by
  simp +decide [sorted_iff_ascending, wellKnown, instanceKey, partOfKey, componentKey]

/-- An extra label is only found where there is no well-known one. -/
theorem get?_toMap (l : Labels) (key : String) :
    l.toMap.get? key = ((wellKnown l.component l.instanceName).get? key).or (l.extra.get? key) := by
  simp only [toMap, wellKnown, Dictionary.get?_insert, Dictionary.get?_cons, Dictionary.get?_nil, partOfKey,
    instanceKey, componentKey]
  grind

theorem toMap_ne_nil (l : Labels) : l.toMap ≠ [] := Dictionary.insert_ne_nil

theorem solid_toMap {l : Labels} (h : Sorted l.extra) : Json.Solid (.ofTexts l.toMap) :=
  Json.solid_ofTexts (sorted_toMap h) l.toMap_ne_nil

theorem solid_selector (l : Labels) : Json.Solid (.ofTexts l.selector) :=
  Json.solid_ofTexts (by simp +decide [sorted_iff_ascending, selector, componentKey])
    (by simp [selector])

theorem sorted_extra_add (l : Labels) {key value : String} (h : Sorted l.extra) :
    Sorted (l.add key value).extra :=
  Dictionary.sorted_insert _ _ h

theorem sorted_workloadAnnotations (connectsTo : Option String) :
    Sorted (workloadAnnotations connectsTo) := by
  cases connectsTo <;> simp +decide [sorted_iff_ascending, workloadAnnotations, connectsToKey]

end Labels

/-! ## Metadata -/

section Metadata

variable {ctx : Context} {name : String} {labels : Labels} {annotations : Dictionary String}

theorem Context.labels_metadata (h : Sorted labels.extra) :
    ∃ ts, (ctx.metadata name labels annotations).labels = some ts ∧ Sorted ts ∧ ts ≠ [] :=
  ⟨labels.toMap, rfl, Labels.sorted_toMap h, labels.toMap_ne_nil⟩

theorem Context.annotations_metadata (h : Sorted annotations) :
    ∀ ts, (ctx.metadata name labels annotations).annotations = some ts → Sorted ts ∧ ts ≠ [] := by
  intro ts hts
  unfold Context.metadata at hts
  split at hts
  · cases hts
  · rename_i hne
    cases hts
    exact ⟨h, by simpa using hne⟩

theorem Context.sorted_labels (ctx : Context) (component : String) :
    Sorted (ctx.labels component).extra :=
  List.Pairwise.nil

end Metadata

/-! ## Resources -/

namespace Desired

open ManagedResource (ownedSpec)

theorem solid_secret (ctx : Context) (name : String) (c : Credentials) : (secret ctx name c).Solid where
  sorted := by simp +decide [sorted_iff_ascending, secret]
  values := by
    have h : Json.Solid (.ofTexts [(databaseNameKey, Text.Base64.ofText c.database),
        (databasePasswordKey, Text.Base64.ofText c.password),
        (databaseUserKey, Text.Base64.ofText c.user)]) :=
      Json.solid_ofTexts
        (by simp +decide [sorted_iff_ascending, databaseNameKey, databasePasswordKey, databaseUserKey])
        (by simp)
    simp [secret, h]
  labels := Context.labels_metadata (ctx.sorted_labels name)
  annotations := Context.annotations_metadata List.Pairwise.nil
  spec := by simp [secret, Dictionary.get?_cons]

theorem solid_scripts (ctx : Context) (name : String) (script : Option Script) :
    (scripts ctx name script).Solid where
  sorted := by cases script <;> simp +decide [sorted_iff_ascending, scripts]
  values := by
    cases script with
    | none => simp [scripts]
    | some s =>
      have h : Json.Solid (.ofTexts [(s.name, s.body)]) :=
        Json.solid_ofTexts (by simp [sorted_iff_ascending]) (by simp)
      simp [scripts, h]
  labels := Context.labels_metadata (ctx.sorted_labels name)
  annotations := Context.annotations_metadata List.Pairwise.nil
  spec := by cases script <;> simp [scripts, Dictionary.get?_cons]

theorem solid_claim (ctx : Context) (name size : String) : (claim ctx name size).Solid where
  sorted := by simp +decide [sorted_iff_ascending, claim]
  values := by simp +decide [claim, sorted_iff_ascending, texts]
  labels := Context.labels_metadata (ctx.sorted_labels name)
  annotations := Context.annotations_metadata List.Pairwise.nil
  spec := by
    intro spec h
    simp only [claim, Dictionary.get?_cons, if_true, Option.some.injEq, Json.obj.injEq] at h
    simp [← h, ownedSpec, claim]

theorem solid_service (ctx : Context) (name : String) (ports : List (String × Int)) :
    (service ctx name ports).Solid where
  sorted := by simp +decide [sorted_iff_ascending, service]
  values := by
    have hs := (ctx.labels name).solid_selector
    have hp (p : String × Int) : Json.Solid (servicePort p.1 p.2) := by
      simp +decide [servicePort, sorted_iff_ascending]
    simp only [service, List.forall_mem_cons, List.not_mem_nil, false_imp_iff, implies_true, and_true,
      Json.solid_obj, Json.solid_arr, List.forall_mem_map]
    exact ⟨by simp, by simp +decide [sorted_iff_ascending], fun p _ => hp p, hs⟩
  labels := Context.labels_metadata (ctx.sorted_labels name)
  annotations := Context.annotations_metadata List.Pairwise.nil
  spec := by
    intro spec h
    simp only [service, Dictionary.get?_cons, if_true, Option.some.injEq, Json.obj.injEq] at h
    simp [← h, ownedSpec, service, Dictionary.erase]

theorem toJson_routeSpec (target : RouteTarget) (port : Int) :
    RouteSpec.toJson { host := none, target, port := some (.number port) } =
      .obj [("port", .obj [("targetPort", .int port)]),
        ("to", .obj [("kind", .str target.kind), ("name", .str target.name)])] := by
  simp only [RouteSpec.toJson, PortReference.toJson, Json.ofOptional, Json.ofMembers, Dictionary.ofList,
    Dictionary.insert, Option.map_none, Option.map_some, List.filterMap_cons, List.filterMap_nil,
    List.foldl_cons, List.foldl_nil]
  rw [if_neg (by decide), if_neg (by decide)]

theorem solid_route (ctx : Context) (name service : String) (port : Int) :
    (route ctx name service port).Solid where
  sorted := by simp +decide [sorted_iff_ascending, route, ManagedResource.ofRoute]
  values := by simp +decide [route, ManagedResource.ofRoute, toJson_routeSpec, sorted_iff_ascending]
  labels := Context.labels_metadata (ctx.sorted_labels name)
  annotations := Context.annotations_metadata List.Pairwise.nil
  spec := by
    intro spec h
    simp only [route, ManagedResource.ofRoute, toJson_routeSpec, Dictionary.get?_cons, if_true,
      Option.some.injEq, Json.obj.injEq] at h
    simp [← h, ownedSpec, route, ManagedResource.ofRoute, Dictionary.erase]

theorem solid_podSpec {containers : List Json} {volumes : Option (List Json)}
    (hc : ∀ c ∈ containers, Json.Solid c) (hv : ∀ vs, volumes = some vs → ∀ v ∈ vs, Json.Solid v) :
    Json.Solid (podSpec containers volumes) := by
  refine Json.solid_ofOptional (k := "containers") List.mem_cons_self fun m hm j hj => ?_
  simp only [List.mem_cons, List.not_mem_nil, or_false] at hm
  rcases hm with rfl | rfl
  · cases hj
    exact Json.solid_arr.2 hc
  · obtain ⟨vs, hvs, rfl⟩ := Option.map_eq_some_iff.1 hj
    exact Json.solid_arr.2 (hv vs hvs)

theorem solid_deployment {ctx : Context} {name : String} {labels : Labels}
    {annotations : Dictionary String} {strategy : String} {containers : List Json}
    {volumes : Option (List Json)} (hl : Sorted labels.extra) (ha : Sorted annotations)
    (hc : ∀ c ∈ containers, Json.Solid c) (hv : ∀ vs, volumes = some vs → ∀ v ∈ vs, Json.Solid v) :
    (deployment ctx name labels annotations strategy containers volumes).Solid where
  sorted := by simp +decide [sorted_iff_ascending, deployment]
  values := by
    simp +decide [deployment, sorted_iff_ascending, labels.solid_selector, Labels.solid_toMap hl,
      solid_podSpec hc hv]
  labels := Context.labels_metadata hl
  annotations := Context.annotations_metadata ha
  spec := by
    intro spec h
    simp only [deployment, Dictionary.get?_cons, if_true, Option.some.injEq, Json.obj.injEq] at h
    simp [← h, ownedSpec, deployment, Dictionary.erase]

/-! ## Containers -/

theorem solid_texts (xs : List String) : Json.Solid (texts xs) := by
  simp [texts]

theorem solid_memory (request limit : String) : Json.Solid (memory request limit) := by
  simp +decide [memory, sorted_iff_ascending]

theorem solid_containerPort (name : String) (port : Int) : Json.Solid (containerPort name port) := by
  simp +decide [containerPort, sorted_iff_ascending]

theorem solid_execProbe (command : List String) (initialDelay timeout : Int) :
    Json.Solid (execProbe command initialDelay timeout) := by
  simp +decide [execProbe, sorted_iff_ascending, solid_texts]

theorem solid_httpProbe (path : String) (port initialDelay failureThreshold : Int) :
    Json.Solid (httpProbe path port initialDelay failureThreshold) := by
  simp +decide [httpProbe, sorted_iff_ascending]

theorem solid_envVar {e : EnvVar} (h : ∀ j, e.source = some j → Json.Solid j) : Json.Solid e.toJson := by
  refine Json.solid_ofOptional (k := "name") (j := .str e.name) List.mem_cons_self fun m hm j hj => ?_
  simp only [List.mem_cons, List.not_mem_nil, or_false] at hm
  rcases hm with rfl | rfl | rfl
  · cases hj; exact Json.solid_str
  · obtain ⟨s, -, rfl⟩ := Option.map_eq_some_iff.1 hj
    exact Json.solid_str
  · exact h j hj

theorem solid_plain (name value : String) : Json.Solid (EnvVar.plain name value).toJson :=
  solid_envVar fun _ h => by cases h

theorem solid_ofSecret (name secret key : String) : Json.Solid (EnvVar.ofSecret name secret key).toJson :=
  solid_envVar fun _ h => by cases h; simp +decide [sorted_iff_ascending]

theorem solid_databasePod (dataVolume scriptsVolume : String) (needs : DatabaseNeeds) :
    Json.Solid (databasePod dataVolume scriptsVolume needs) := by
  simp +decide [databasePod, sorted_iff_ascending, solid_ofSecret, solid_execProbe,
    solid_containerPort, solid_memory]

theorem solid_webContainer {w : WebWorkload} (h : ∀ e ∈ w.env, Json.Solid e.toJson) :
    Json.Solid (webContainer w) := by
  simpa +decide [webContainer, sorted_iff_ascending, solid_httpProbe, solid_containerPort,
    solid_memory] using h

theorem solid_databaseDeployment (ctx : Context) (name : String) (needs : DatabaseNeeds) :
    (databaseDeployment ctx name needs).Solid := by
  refine solid_deployment (Labels.sorted_extra_add _ (ctx.sorted_labels name)) List.Pairwise.nil ?_ ?_
  · intro c hc
    rw [List.mem_singleton.1 hc]
    exact solid_databasePod _ _ needs
  · rintro vs ⟨⟩
    simp +decide [sorted_iff_ascending]

theorem solid_webDeployment (ctx : Context) {w : WebWorkload} (h : ∀ e ∈ w.env, Json.Solid e.toJson) :
    (webDeployment ctx w).Solid := by
  refine solid_deployment (Labels.sorted_extra_add _ (ctx.sorted_labels w.name))
    (Labels.sorted_workloadAnnotations w.connectsTo) ?_ ?_
  · intro c hc
    rw [List.mem_singleton.1 hc]
    exact solid_webContainer h
  · rintro vs ⟨⟩

theorem solid_nodeWorkload (ctx : Context) (name image stem : String) (backend : Backend) :
    (webDeployment ctx (nodeWorkload name image stem backend)).Solid :=
  solid_webDeployment ctx (by simp [nodeWorkload, solid_plain])

theorem solid_eventsDeployment (ctx : Context) (name : String) (needs : EventsNeeds) :
    (eventsDeployment ctx name needs).Solid :=
  solid_webDeployment ctx (by simp [eventsWorkload, solid_plain, solid_ofSecret])

/-! ## All of them -/

theorem solid_nodeGroup (ctx : Context) (group : GroupName) (name image stem backend : String) :
    ∀ r ∈ (nodeGroup ctx group name image stem backend).resources, r.Solid := by
  simp [nodeGroup, solid_nodeWorkload, solid_service, solid_route]

/-- Every generated resource is solid. -/
theorem solid_resources (ctx : Context) : ∀ r ∈ resources ctx, r.Solid := by
  have hevents : ∀ r ∈ (eventsGroup ctx).resources, r.Solid := by
    simp [eventsGroup, solid_secret, solid_scripts, solid_claim, solid_databaseDeployment,
      solid_service, solid_eventsDeployment, solid_route]
  intro r hr
  simp only [resources, groups, List.flatMap_cons, List.flatMap_nil, List.append_nil,
    List.mem_append] at hr
  rcases hr with hr | hr | hr
  · exact hevents r hr
  · exact solid_nodeGroup _ _ _ _ _ _ r hr
  · exact solid_nodeGroup _ _ _ _ _ _ r hr

/-- The kinds and names of the generated resources, in order. -/
theorem map_kind_name_resources (ctx : Context) :
    (resources ctx).map (fun r => (r.kind, r.name)) =
      [(.secret, eventsDatabase), (.configMap, eventsScripts), (.claim, eventsDatabase),
        (.deployment, eventsDatabase), (.service, eventsDatabase), (.deployment, events),
        (.service, events), (.route, events), (.deployment, gateway), (.service, gateway),
        (.route, gateway), (.deployment, frontend), (.service, frontend), (.route, frontend)] := rfl

/-- No two generated resources have the same kind and name. -/
theorem nodup_identities (ctx : Context) :
    ((resources ctx).map fun r => (r.kind, r.name)).Nodup := by
  rw [map_kind_name_resources]
  decide

theorem ns_of_mem_resources {ctx : Context} {r : ManagedResource} (h : r ∈ resources ctx) :
    r.ns = some ctx.ns := by
  have hall : (resources ctx).map (·.ns) = List.replicate 14 (some ctx.ns) := rfl
  have hmem : r.ns ∈ (resources ctx).map (·.ns) := List.mem_map_of_mem h
  rw [hall] at hmem
  exact List.eq_of_mem_replicate hmem

/-- Nothing is carried along in the metadata of a generated resource. -/
theorem rest_of_mem_resources {ctx : Context} {r : ManagedResource} (h : r ∈ resources ctx) :
    r.metadata.rest = [] := by
  have hall : (resources ctx).map (·.metadata.rest) = List.replicate 14 [] := rfl
  have hmem : r.metadata.rest ∈ (resources ctx).map (·.metadata.rest) := List.mem_map_of_mem h
  rw [hall] at hmem
  exact List.eq_of_mem_replicate hmem

end Desired

end AppServiceOperator
