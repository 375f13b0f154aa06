import AppServiceOperator.Manifest.Shape.Metadata
/-!
# Shapes of storage and configuration

Claims, and the kinds that only hold data.
-/
namespace AppServiceOperator.Shape

def typedLocalReference : Shape := .record
  [optional "apiGroup" .text, required "kind" .text, required "name" .text]

def typedReference : Shape := .record
  [optional "apiGroup" .text, required "kind" .text, required "name" .text,
   optional "namespace" .text]

def claimResources : Shape := .record
  [optional "limits" (.map .text), optional "requests" (.map .text)]

def claimSpec : Shape := .record
  [optional "accessModes" (.list .text), optional "dataSource" typedLocalReference,
   optional "dataSourceRef" typedReference, optional "resources" claimResources,
   optional "selector" labelSelector, optional "storageClassName" .text,
   optional "volumeAttributesClassName" .text, optional "volumeMode" .text,
   optional "volumeName" .text]

def claimCondition : Shape := .record
  [optional "lastProbeTime" .timestamp, optional "lastTransitionTime" .timestamp,
   optional "message" .text, optional "reason" .text, required "status" .text,
   required "type" .text]

def modifyVolumeStatus : Shape := .record
  [required "status" .text, optional "targetVolumeAttributesClassName" .text]

def claimStatus : Shape := .record
  [optional "accessModes" (.list .text), optional "allocatedResourceStatuses" (.map .text),
   optional "allocatedResources" (.map .text), optional "capacity" (.map .text),
   optional "conditions" (.list claimCondition),
   optional "currentVolumeAttributesClassName" .text,
   optional "modifyVolumeStatus" modifyVolumeStatus, optional "phase" .text]

def claimTemplate : Shape := .record
  [optional "metadata" objectMeta, required "spec" claimSpec]

/-! ## Bodies, without `apiVersion`, `kind` and `metadata` -/

def claim : Shape := .record
  [optional "spec" claimSpec, optional "status" claimStatus]

def secret : Shape := .record
  [optional "data" (.map .base64), optional "immutable" .flag, optional "stringData" (.map .text),
   optional "type" .text]

def configMap : Shape := .record
  [optional "binaryData" (.map .base64), optional "data" (.map .text), optional "immutable" .flag]

end AppServiceOperator.Shape
