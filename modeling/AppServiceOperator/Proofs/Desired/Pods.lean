import AppServiceOperator.Proofs.Desired.Topology
import AppServiceOperator.Proofs.Migration.CleanRun
import AppServiceOperator.Reconcile.Trigger
/-!
# Pods of the generated deployments

Four parts of the operator have to recognize the pods of the database: the templates that they are made
from, the selector by which they are listed, the test of their readiness, and the watch that turns their
events into passes. `pods_recognized` is that these agree: whatever the context, the selector finds the
pods of the database and no others, the container that has to be ready is one that only they have, and a
pod of it that becomes ready wakes the AppService that it belongs to.
-/
namespace AppServiceOperator

/-! ## Label selectors -/

namespace Labels

/-- The characters of keys and values. -/
def isNameChar (c : Char) : Bool := c.isAlphanum || c = '-' || c = '_' || c = '.' || c = '/'

/-- A key and a value with an equals sign between them. -/
def pair? (text : List Char) : Option (String × String) :=
  match text.span (· ≠ '=') with
  | (key, '=' :: value) =>
    if (key ++ value).all isNameChar then some (String.ofList key, String.ofList value) else none
  | _ => none

/-- The pairs of a selector, which commas divide; none where it asks for more than that labels are equal. -/
def pairs? (selector : String) : Option (Dictionary String) := (selector.toList.splitOn ',').mapM pair?

theorem get?_toMap_componentKey (l : Labels) : l.toMap.get? componentKey = some l.component := by
  simp +decide [get?_toMap, wellKnown, Dictionary.get?_cons, componentKey, instanceKey, partOfKey]

theorem get?_toMap_instanceKey (l : Labels) : l.toMap.get? instanceKey = some l.instanceName := by
  simp +decide [get?_toMap, wellKnown, Dictionary.get?_cons, instanceKey]

end Labels

/-- A server lists the pod for the selector. -/
def Pod.SelectedBy (p : Pod) (selector : String) : Prop :=
  ∃ pairs, Labels.pairs? selector = some pairs ∧ Matches pairs (p.metadata.labels.getD [])

/-- The pod was made from the template of a deployment in a namespace: its labels are those of the template
and any others, and its name is made from that of the deployment. -/
structure Pod.MadeFrom (p : Pod) (ns : String) (d : ManagedResource) : Prop where
  ns : p.metadata.ns = some ns
  labels : ∃ template carried, d.podLabels? = some template ∧ p.metadata.labels = some carried ∧
    Matches template carried
  name : ∃ name, p.metadata.name = some name ∧ d.name.toList <+: name.toList

/-- The names of the containers of the pods. -/
def ManagedResource.containerNames (r : ManagedResource) : List String :=
  r.containers.filterMap (·.textAlong? ["name"])

namespace Desired

variable {ctx : Context} {d : ManagedResource} {p : Pod}

/-! ## Deployments -/

theorem names_deployments (ctx : Context) :
    ((resources ctx).filter (·.kind = .deployment)).map (·.name) = [eventsDatabase, events, gateway, frontend] := by
  rw [deployments_eq]
  rfl

theorem containerNames_databaseDeployment {name : String} {needs : DatabaseNeeds} :
    (databaseDeployment ctx name needs).containerNames = [databaseContainer] := by
  rw [ManagedResource.containerNames, containers_databaseDeployment]
  rfl

/-- The container of a web tier is named like its deployment. -/
theorem containerNames_webDeployment {w : WebWorkload} :
    (webDeployment ctx w).containerNames = [(webDeployment ctx w).name] := by
  rw [ManagedResource.containerNames, containers_webDeployment]
  rfl

/-- Only the pods of the database have a container of that name. -/
theorem databaseContainer_mem_iff (hd : d ∈ resources ctx) (kind : d.kind = .deployment) :
    databaseContainer ∈ d.containerNames ↔ d.name = eventsDatabase := by
  have hmem : d ∈ (resources ctx).filter (·.kind = .deployment) := List.mem_filter.2 ⟨hd, by simpa using kind⟩
  have web {w : WebWorkload} (other : w.name ≠ databaseContainer) (other' : w.name ≠ eventsDatabase) :
      databaseContainer ∈ (webDeployment ctx w).containerNames ↔ (webDeployment ctx w).name = eventsDatabase := by
    rw [containerNames_webDeployment, List.mem_singleton]
    exact iff_of_false (Ne.symm other) other'
  rw [deployments_eq] at hmem
  simp only [List.mem_cons, List.not_mem_nil, or_false] at hmem
  rcases hmem with rfl | rfl | rfl | rfl
  · rw [containerNames_databaseDeployment]
    exact iff_of_true List.mem_cons_self rfl
  · exact web (by decide) (by decide)
  · exact web (by decide) (by decide)
  · exact web (by decide) (by decide)

/-! ## Pods -/

theorem pairs?_databaseSelector :
    Labels.pairs? databaseSelector = some [(Labels.componentKey, eventsDatabase)] := by
  decide

/-- A pod carries the labels of its template whatever others it has: the one that names its component, and
the one that names the AppService. -/
theorem get?_of_madeFrom (made : p.MadeFrom ctx.ns d) (hd : d ∈ resources ctx) (kind : d.kind = .deployment) :
    ∃ carried, p.metadata.labels = some carried ∧ carried.get? Labels.componentKey = some d.name ∧
      carried.get? Labels.instanceKey = some ctx.instanceName := by
  obtain ⟨template, carried, htemplate, hcarried, all⟩ := made.labels
  obtain ⟨labels, found, component, owner⟩ := podLabels?_of_mem hd kind
  cases htemplate.symm.trans found
  refine ⟨carried, hcarried, ?_, ?_⟩
  · rw [← component]
    exact all _ (Dictionary.mem_of_get? labels.get?_toMap_componentKey)
  · rw [← owner]
    exact all _ (Dictionary.mem_of_get? labels.get?_toMap_instanceKey)

theorem selectedBy_iff (made : p.MadeFrom ctx.ns d) (hd : d ∈ resources ctx) (kind : d.kind = .deployment) :
    p.SelectedBy databaseSelector ↔ d.name = eventsDatabase := by
  obtain ⟨carried, hcarried, component, -⟩ := get?_of_madeFrom made hd kind
  simp only [Pod.SelectedBy, pairs?_databaseSelector, Option.some.injEq, exists_eq_left', Matches,
    List.forall_mem_singleton, hcarried, Option.getD_some, component]

theorem appKey?_eq (made : p.MadeFrom ctx.ns d) (hd : d ∈ resources ctx) (kind : d.kind = .deployment) :
    p.appKey? = some ⟨ctx.instanceName, ctx.ns⟩ := by
  obtain ⟨carried, hcarried, -, owner⟩ := get?_of_madeFrom made hd kind
  have label : p.metadata.label? Labels.instanceKey = some ctx.instanceName := by
    rw [ObjectMeta.label?, hcarried, Option.bind_some, owner]
  rw [Pod.appKey?, label, made.ns]

/-- The name of the deployment is part of that of its pods. -/
theorem triggersMigration_of_ready (made : p.MadeFrom ctx.ns d) (database : d.name = eventsDatabase)
    (ready : p.isReadyDatabase = true) : p.triggersMigration = true := by
  obtain ⟨name, hname, hprefix⟩ := made.name
  have any : p.metadata.anyName = name := by simp [ObjectMeta.anyName, hname]
  obtain ⟨running, -⟩ := Pod.isReadyDatabase_iff.1 ready
  have part : Text.hasPart eventsDatabase.toList p.metadata.anyName.toList = true := by
    rw [Text.hasPart_iff, any, ← database]
    exact hprefix.isInfix
  simp [Pod.triggersMigration, part, running]

/-- Of the four deployments only the database has the container that has to be ready, and the selector finds
the pods of the database and no others. Every pod is mapped to the AppService of the context, and a pod of the
database wakes it when it is ready. -/
theorem pods_recognized (ctx : Context) :
    ((resources ctx).filter (·.kind = .deployment)).map (·.name) = [eventsDatabase, events, gateway, frontend] ∧
    (∃ sought, (∀ p : Pod, p.isReadyDatabase = true ↔
        p.phase? = some "Running" ∧ ∃ c ∈ p.containers, c.name = sought ∧ c.ready = true) ∧
      ∀ d ∈ resources ctx, d.kind = .deployment → (sought ∈ d.containerNames ↔ d.name = eventsDatabase)) ∧
    ∀ d ∈ resources ctx, d.kind = .deployment → ∀ p : Pod, p.MadeFrom ctx.ns d →
      (p.SelectedBy databaseSelector ↔ d.name = eventsDatabase) ∧
      p.appKey? = some ⟨ctx.instanceName, ctx.ns⟩ ∧
      (d.name = eventsDatabase → p.isReadyDatabase = true → p.triggersMigration = true) :=
  ⟨names_deployments ctx, ⟨databaseContainer, fun _ => Pod.isReadyDatabase_iff, fun _ => databaseContainer_mem_iff⟩,
    fun _ hd kind _ made => ⟨selectedBy_iff made hd kind, appKey?_eq made hd kind,
      triggersMigration_of_ready made⟩⟩

/-- A pod of the database that has one label more than its template: it is listed, and its event becomes a
pass of its AppService. -/
theorem pods_recognized_of_ready : ∃ (ctx : Context) (d : ManagedResource) (p : Pod), d ∈ resources ctx ∧
    p.MadeFrom ctx.ns d ∧ p.isReadyDatabase = true ∧ p.SelectedBy databaseSelector ∧
    p.appKey? = some ⟨"gramola", "demo"⟩ ∧ p.triggersMigration = true := by
  let owner : OwnerReference :=
    ⟨ApiResource.appServices.apiVersion, ApiResource.appServices.kind, "gramola", "7", some true, none⟩
  let ctx : Context := ⟨"gramola", "demo", owner, none⟩
  let d := databaseDeployment ctx eventsDatabase ⟨eventsDatabase, eventsScripts, eventsDatabase⟩
  let template := ((ctx.labels eventsDatabase).add Labels.runtimeKey "postgresql").toMap
  let p : Pod := {
    metadata := {
      name := some "events-database-5c6b-q2w3e"
      ns := some "demo"
      labels := some (template.insert "pod-template-hash" "5c6b") }
    status := some { phase := some "Running", containers := some [⟨"postgresql", true, []⟩] } }
  have hd : d ∈ resources ctx := by
    have := deployments_eq ctx
    exact List.mem_of_mem_filter (this ▸ List.mem_cons_self)
  have made : p.MadeFrom ctx.ns d := by
    refine ⟨rfl, ⟨template, _, podLabels?_deployment, rfl, ?_⟩, ⟨_, rfl, ?_⟩⟩
    · unfold Matches
      decide
    · exact List.isPrefixOf_iff_prefix.1 (by decide)
  obtain ⟨-, -, recognized⟩ := pods_recognized ctx
  obtain ⟨selected, owner, wakes⟩ := recognized d hd rfl p made
  exact ⟨ctx, d, p, hd, made, rfl, selected.2 rfl, owner, wakes rfl rfl⟩

end Desired

end AppServiceOperator
