import AppServiceOperator.Manifest.Shape
/-!
# Shapes of metadata

The metadata that every object of the cluster carries, and the small records that many parts of a
manifest share.
-/
namespace AppServiceOperator.Shape

def optional (name : String) (s : Shape) : String × Presence × Shape := (name, .optional, s)

def required (name : String) (s : Shape) : String × Presence × Shape := (name, .required, s)

def ownerReference : Shape := .record
  [required "apiVersion" .text, optional "blockOwnerDeletion" .flag, optional "controller" .flag,
   required "kind" .text, required "name" .text, required "uid" .text]

def managedFields : Shape := .record
  [optional "apiVersion" .text, optional "fieldsType" .text, optional "fieldsV1" .anything,
   optional "manager" .text, optional "operation" .text, optional "subresource" .text,
   optional "time" .timestamp]

def objectMeta : Shape := .record
  [optional "annotations" (.map .text), optional "creationTimestamp" .timestamp,
   optional "deletionGracePeriodSeconds" .int64, optional "deletionTimestamp" .timestamp,
   optional "finalizers" (.list .text), optional "generateName" .text,
   optional "generation" .int64, optional "labels" (.map .text),
   optional "managedFields" (.list managedFields), optional "name" .text,
   optional "namespace" .text, optional "ownerReferences" (.list ownerReference),
   optional "resourceVersion" .text, optional "selfLink" .text, optional "uid" .text]

def listMeta : Shape := .record
  [optional "continue" .text, optional "remainingItemCount" .int64,
   optional "resourceVersion" .text, optional "selfLink" .text]

def labelRequirement : Shape := .record
  [required "key" .text, required "operator" .text, optional "values" (.list .text)]

def labelSelector : Shape := .record
  [optional "matchExpressions" (.list labelRequirement), optional "matchLabels" (.map .text)]

def localReference : Shape := .record
  [required "name" .text]

def objectReference : Shape := .record
  [optional "apiVersion" .text, optional "fieldPath" .text, optional "kind" .text,
   optional "name" .text, optional "namespace" .text, optional "resourceVersion" .text,
   optional "uid" .text]

def conditionRecord : Shape := .record
  [required "lastTransitionTime" .timestamp, required "message" .text,
   optional "observedGeneration" .int64, required "reason" .text, required "status" .text,
   required "type" .text]

def statusCause : Shape := .record
  [optional "field" .text, optional "message" .text, optional "reason" .text]

def statusDetails : Shape := .record
  [optional "causes" (.list statusCause), optional "group" .text, optional "kind" .text,
   optional "name" .text, optional "retryAfterSeconds" .int32, optional "uid" .text]

/-! ## The answer of the server to a request that yields no object -/

/-- Without `apiVersion` and `kind`. -/
def statusAnswer : Shape := .record
  [optional "code" .int32, optional "details" statusDetails, optional "message" .text,
   required "metadata" listMeta, optional "reason" .text, optional "status" .text]

end AppServiceOperator.Shape
