import AppServiceOperator.Json.Record
import AppServiceOperator.Manifest.Shape.Metadata
/-!
# Object metadata

The metadata of an object in the cluster. The fields that the operator looks at or writes are
typed; the others, which only the server and other writers set, are carried along.
-/
namespace AppServiceOperator

/-- A reference to the object that owns another one. -/
structure OwnerReference where
  apiVersion : String
  kind : String
  name : String
  uid : String
  controller : Option Bool
  blockOwnerDeletion : Option Bool
  deriving DecidableEq, Repr

namespace OwnerReference

def toJson (o : OwnerReference) : Json :=
  .ofOptional [("apiVersion", some (.str o.apiVersion)),
    ("blockOwnerDeletion", o.blockOwnerDeletion.map .bool),
    ("controller", o.controller.map .bool), ("kind", some (.str o.kind)),
    ("name", some (.str o.name)), ("uid", some (.str o.uid))]

/-- The reference of a normal form. -/
def ofNormal (j : Json) : OwnerReference where
  apiVersion := (j.textAt? "apiVersion").getD ""
  kind := (j.textAt? "kind").getD ""
  name := (j.textAt? "name").getD ""
  uid := (j.textAt? "uid").getD ""
  controller := j.flagAt? "controller"
  blockOwnerDeletion := j.flagAt? "blockOwnerDeletion"

def ofJson? (j : Json) : Option OwnerReference := (Shape.ownerReference.read j).map ofNormal

end OwnerReference

structure ObjectMeta where
  name : Option String := none
  generateName : Option String := none
  /-- The namespace. -/
  ns : Option String := none
  uid : Option String := none
  resourceVersion : Option String := none
  labels : Option (Dictionary String) := none
  annotations : Option (Dictionary String) := none
  ownerReferences : Option (List OwnerReference) := none
  /-- All other fields, in normal form. -/
  rest : Members := []
  deriving Repr

namespace ObjectMeta

def typedFields : List String :=
  ["annotations", "generateName", "labels", "name", "namespace", "ownerReferences",
   "resourceVersion", "uid"]

def toJson (m : ObjectMeta) : Json :=
  .obj (Json.putFields [("annotations", m.annotations.map .ofTexts),
    ("generateName", m.generateName.map .str), ("labels", m.labels.map .ofTexts),
    ("name", m.name.map .str), ("namespace", m.ns.map .str),
    ("ownerReferences", m.ownerReferences.map fun os => .arr (os.map (·.toJson))),
    ("resourceVersion", m.resourceVersion.map .str), ("uid", m.uid.map .str)] m.rest)

/-- The metadata of a normal form. -/
def ofNormal (j : Json) : ObjectMeta where
  name := j.textAt? "name"
  generateName := j.textAt? "generateName"
  ns := j.textAt? "namespace"
  uid := j.textAt? "uid"
  resourceVersion := j.textAt? "resourceVersion"
  labels := (j.get? "labels").bind (·.texts?)
  annotations := (j.get? "annotations").bind (·.texts?)
  ownerReferences := ((j.get? "ownerReferences").bind (·.arr?)).map (·.map .ofNormal)
  rest := Json.others typedFields (j.obj?.getD [])

def ofJson? (j : Json) : Option ObjectMeta := (Shape.objectMeta.read j).map ofNormal

/-- The metadata at the `metadata` member; empty where that is absent or null. -/
def ofField? : Option Json → Option ObjectMeta
  | none | some .null => some {}
  | some j => ofJson? j

/-- The name, or else the text that the server is to make a name from. -/
def anyName (m : ObjectMeta) : String := (m.name.or m.generateName).getD ""

/-- The value of a label. -/
def label? (m : ObjectMeta) (key : String) : Option String := m.labels.bind (Dictionary.get? · key)

end ObjectMeta

end AppServiceOperator
