import AppServiceOperator.Manifest.ObjectMeta
/-!
# API resources

Where the server keeps the objects of a kind, and what every manifest of the kind begins with.
-/
namespace AppServiceOperator

structure ApiResource where
  group : String
  version : String
  kind : String
  plural : String
  deriving DecidableEq, Repr

namespace ApiResource

/-- The core group has no name and is not written. -/
def apiVersion (r : ApiResource) : String :=
  if r.group = "" then r.version else r.group ++ "/" ++ r.version

/-- The path of the objects in a namespace. -/
def path (r : ApiResource) (ns : String) : String :=
  (if r.group = "" then "/api/" else "/apis/") ++ r.apiVersion ++ "/namespaces/" ++ ns ++ "/" ++ r.plural

def pods : ApiResource := ⟨"", "v1", "Pod", "pods"⟩

def events : ApiResource := ⟨"events.k8s.io", "v1", "Event", "events"⟩

def appServices : ApiResource := ⟨"gramola.redhat.com", "v1alpha1", "AppService", "appservices"⟩

/-- A manifest of the metadata and the other members. -/
def manifest (r : ApiResource) (metadata : ObjectMeta) (body : Members) : Json :=
  .obj (Json.putFields [("apiVersion", some (.str r.apiVersion)), ("kind", some (.str r.kind)),
    ("metadata", some metadata.toJson)] body)

/-- Whether a manifest says of itself, where it says anything, that it is of this resource. -/
def isNamedBy (r : ApiResource) (members : Members) : Bool :=
  (members.get? "apiVersion").all (·.same (.str r.apiVersion)) &&
    (members.get? "kind").all (·.same (.str r.kind))

/-- The metadata and the members of a manifest of this resource. -/
def manifest? (r : ApiResource) : Json → Option (ObjectMeta × Members)
  | .obj members =>
    if r.isNamedBy members then
      (ObjectMeta.ofField? (Dictionary.get? members "metadata")).map fun m => (m, members)
    else none
  | _ => none

end ApiResource

end AppServiceOperator
