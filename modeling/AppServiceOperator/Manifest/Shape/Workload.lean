import AppServiceOperator.Manifest.Shape.Pod
/-!
# Shapes of workloads and their network

Deployments, services and routes, and the event records about them.
-/
namespace AppServiceOperator.Shape

def rollingUpdate : Shape := .record
  [optional "maxSurge" .intOrText, optional "maxUnavailable" .intOrText]

def deploymentStrategy : Shape := .record
  [optional "rollingUpdate" rollingUpdate, optional "type" .text]

def deploymentSpec : Shape := .record
  [optional "minReadySeconds" .int32, optional "paused" .flag,
   optional "progressDeadlineSeconds" .int32, optional "replicas" .int32,
   optional "revisionHistoryLimit" .int32, required "selector" labelSelector,
   optional "strategy" deploymentStrategy, required "template" podTemplate]

def deploymentCondition : Shape := .record
  [optional "lastTransitionTime" .timestamp, optional "lastUpdateTime" .timestamp,
   optional "message" .text, optional "reason" .text, required "status" .text,
   required "type" .text]

def deploymentStatus : Shape := .record
  [optional "availableReplicas" .int32, optional "collisionCount" .int32,
   optional "conditions" (.list deploymentCondition), optional "observedGeneration" .int64,
   optional "readyReplicas" .int32, optional "replicas" .int32,
   optional "unavailableReplicas" .int32, optional "updatedReplicas" .int32]

def servicePort : Shape := .record
  [optional "appProtocol" .text, optional "name" .text, optional "nodePort" .int32,
   required "port" .int32, optional "protocol" .text, optional "targetPort" .intOrText]

def clientIpConfig : Shape := .record
  [optional "timeoutSeconds" .int32]

def sessionAffinityConfig : Shape := .record
  [optional "clientIP" clientIpConfig]

def serviceSpec : Shape := .record
  [optional "allocateLoadBalancerNodePorts" .flag, optional "clusterIP" .text,
   optional "clusterIPs" (.list .text), optional "externalIPs" (.list .text),
   optional "externalName" .text, optional "externalTrafficPolicy" .text,
   optional "healthCheckNodePort" .int32, optional "internalTrafficPolicy" .text,
   optional "ipFamilies" (.list .text), optional "ipFamilyPolicy" .text,
   optional "loadBalancerClass" .text, optional "loadBalancerIP" .text,
   optional "loadBalancerSourceRanges" (.list .text), optional "ports" (.list servicePort),
   optional "publishNotReadyAddresses" .flag, optional "selector" (.map .text),
   optional "sessionAffinity" .text, optional "sessionAffinityConfig" sessionAffinityConfig,
   optional "trafficDistribution" .text, optional "type" .text]

def portStatus : Shape := .record
  [optional "error" .text, required "port" .int32, required "protocol" .text]

def ingress : Shape := .record
  [optional "hostname" .text, optional "ip" .text, optional "ipMode" .text,
   optional "ports" (.list portStatus)]

def loadBalancerStatus : Shape := .record
  [optional "ingress" (.list ingress)]

def serviceStatus : Shape := .record
  [optional "conditions" (.list conditionRecord), optional "loadBalancer" loadBalancerStatus]

/-! ## Bodies, without `apiVersion`, `kind` and `metadata` -/

def deployment : Shape := .record
  [optional "spec" deploymentSpec, optional "status" deploymentStatus]

def service : Shape := .record
  [optional "spec" serviceSpec, optional "status" serviceStatus]

def eventSeries : Shape := .record
  [required "count" .int32, required "lastObservedTime" .timestamp]

def eventSource : Shape := .record
  [optional "component" .text, optional "host" .text]

def event : Shape := .record
  [optional "action" .text, optional "deprecatedCount" .int32,
   optional "deprecatedFirstTimestamp" .timestamp, optional "deprecatedLastTimestamp" .timestamp,
   optional "deprecatedSource" eventSource, optional "eventTime" .timestamp,
   optional "note" .text, optional "reason" .text, optional "regarding" objectReference,
   optional "related" objectReference, optional "reportingController" .text,
   optional "reportingInstance" .text, optional "series" eventSeries, optional "type" .text]

end AppServiceOperator.Shape
