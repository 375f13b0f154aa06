import AppServiceOperator.Manifest.ApiResource
import AppServiceOperator.Manifest.Route
import AppServiceOperator.Manifest.Shape.Workload
/-!
# Managed resources

An object that the operator creates and keeps in shape. `ManagedResource.ownedFields` is the part
that a patch sets: labels, annotations, data and spec, without what cannot change after creation.
The body of a managed resource holds no null that a merge patch would take for a removal, which
`nullFree_ownedFields` carries over to the patch.

| here | in the operator |
| --- | --- |
| `ManagedResource`, `Kind` | `ManagedResource`: what its variants have in common, and which variant it is |
| `Kind.api` | `ManagedResource::api_resource` |
| `name`, `ns`, `toJson` | `ManagedResource::name`, `ManagedResource::namespace`, `ManagedResource::to_json` |
| `ownedFields`, `ownedMetadata`, `ownedSpec` | `ManagedResource::owned_fields` |
-/
namespace AppServiceOperator

/-- The kinds of objects that the operator manages. -/
inductive Kind where
  | secret | configMap | claim | deployment | service | route
  deriving DecidableEq, Repr

namespace Kind

def api : Kind → ApiResource
  | .secret => ⟨"", "v1", "Secret", "secrets"⟩
  | .configMap => ⟨"", "v1", "ConfigMap", "configmaps"⟩
  | .claim => ⟨"", "v1", "PersistentVolumeClaim", "persistentvolumeclaims"⟩
  | .deployment => ⟨"apps", "v1", "Deployment", "deployments"⟩
  | .service => ⟨"", "v1", "Service", "services"⟩
  | .route => ⟨"route.openshift.io", "v1", "Route", "routes"⟩

instance : Enumeration Kind where
  values := [.secret, .configMap, .claim, .deployment, .service, .route]
  spelling k := k.api.kind

/-- The name of the kind. -/
def name (k : Kind) : String := k.api.kind

/-- The fields of a manifest of the kind, without what every manifest begins with. A route is not
read by its shape. -/
def bodyFields : Kind → List (String × Presence × Shape)
  | .secret => fieldsOf Shape.secret
  | .configMap => fieldsOf Shape.configMap
  | .claim => fieldsOf Shape.claim
  | .deployment => fieldsOf Shape.deployment
  | .service => fieldsOf Shape.service
  | .route => []
where
  fieldsOf : Shape → List (String × Presence × Shape)
    | .record fields => fields
    | _ => []

theorem settled_bodyFields (k : Kind) : Shape.settledFields k.bodyFields = true := by
  cases k <;> rfl

end Kind

structure ManagedResource where
  kind : Kind
  metadata : ObjectMeta
  /-- The members besides `apiVersion`, `kind` and `metadata`. -/
  body : Members
  nullFree_body : Json.nullFreeMembers body = true

namespace ManagedResource

def name (r : ManagedResource) : String := r.metadata.anyName

/-- The namespace. -/
def ns (r : ManagedResource) : Option String := r.metadata.ns

/-- The full manifest. -/
def toJson (r : ManagedResource) : Json := r.kind.api.manifest r.metadata r.body

/-! ## Reading -/

def ofRoute (metadata : ObjectMeta) (spec : RouteSpec) : ManagedResource where
  kind := .route
  metadata
  body := [("spec", spec.toJson)]
  nullFree_body := Json.nullFreeMembers_cons.2 ⟨spec.settable_toJson.1, spec.settable_toJson.2, rfl⟩

def ofBody? (kind : Kind) (metadata : ObjectMeta) (members : Members) : Option ManagedResource :=
  match h : Shape.readFields kind.bodyFields members with
  | some body => some ⟨kind, metadata, body, Shape.nullFree_of_readFields _ kind.settled_bodyFields _ _ h⟩
  | none => none

/-- The managed resource of a manifest. -/
def ofJson? (kind : Kind) (j : Json) : Option ManagedResource :=
  match kind with
  | .route => do
    let [metadata, spec] ← j.fields? ["metadata", "spec"] | none
    return ofRoute (← metadata.bind ObjectMeta.ofJson?) (← spec.bind RouteSpec.ofJson?)
  | kind => do
    let (metadata, members) ← kind.api.manifest? j
    ofBody? kind metadata members

/-! ## Owned fields -/

/-- The part of a spec that can change after creation: all but the selector, and of a claim only
the resources. -/
def ownedSpec (kind : Kind) (spec : Members) : Members :=
  if kind = .claim then spec.filter (·.1 = "resources") else Dictionary.erase "selector" spec

def ownedMetadata (m : ObjectMeta) : Members :=
  Json.putFields [("annotations", m.annotations.map .ofTexts), ("labels", m.labels.map .ofTexts)] []

/-- The merge patch that sets what the operator owns. -/
def ownedFields (r : ManagedResource) : Json :=
  .obj (Json.putFields [("data", r.body.get? "data"), ("metadata", some (.obj (ownedMetadata r.metadata))),
    ("spec", ((r.body.get? "spec").bind Json.obj?).map fun spec => .obj (ownedSpec r.kind spec))] [])

/-- The patch removes nothing. -/
theorem nullFree_ownedFields (r : ManagedResource) : r.ownedFields.nullFree = true := by
  unfold ownedFields
  refine Json.nullFreeMembers_putFields ?_ rfl
  intro field hfield v hv
  simp only [List.mem_cons, List.not_mem_nil, or_false] at hfield
  rcases hfield with rfl | rfl | rfl
  · exact Json.settable_get? r.nullFree_body hv
  · cases hv
    refine ⟨by simp, Json.nullFreeMembers_putFields ?_ rfl⟩
    intro field hfield v hv
    simp only [List.mem_cons, List.not_mem_nil, or_false] at hfield
    rcases hfield with rfl | rfl <;>
    · simp only [Option.map_eq_some_iff] at hv
      obtain ⟨texts, _, rfl⟩ := hv
      exact Json.settable_ofTexts texts
  · simp only [Option.map_eq_some_iff, Option.bind_eq_some_iff] at hv
    obtain ⟨spec, ⟨j, hj, hspec⟩, rfl⟩ := hv
    have hs := (Json.settable_get? r.nullFree_body hj).2
    cases j <;> simp [Json.obj?] at hspec
    subst hspec
    refine ⟨by simp, ?_⟩
    simp only [Json.nullFree] at hs ⊢
    unfold ownedSpec
    split
    · exact Json.nullFreeMembers_filter hs
    · exact Json.nullFreeMembers_filter hs

end ManagedResource

end AppServiceOperator
