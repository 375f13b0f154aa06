import AppServiceOperator.Manifest.Shape.Container
/-!
# Shapes of pods

What a pod is to run and where, and what its node reports of it.
-/
namespace AppServiceOperator.Shape

def nodeRequirement : Shape := .record
  [required "key" .text, required "operator" .text, optional "values" (.list .text)]

def nodeSelectorTerm : Shape := .record
  [optional "matchExpressions" (.list nodeRequirement),
   optional "matchFields" (.list nodeRequirement)]

def preferredTerm : Shape := .record
  [required "preference" nodeSelectorTerm, required "weight" .int32]

def nodeSelector : Shape := .record
  [required "nodeSelectorTerms" (.list nodeSelectorTerm)]

def nodeAffinity : Shape := .record
  [optional "preferredDuringSchedulingIgnoredDuringExecution" (.list preferredTerm),
   optional "requiredDuringSchedulingIgnoredDuringExecution" nodeSelector]

def podAffinityTerm : Shape := .record
  [optional "labelSelector" labelSelector, optional "matchLabelKeys" (.list .text),
   optional "mismatchLabelKeys" (.list .text), optional "namespaceSelector" labelSelector,
   optional "namespaces" (.list .text), required "topologyKey" .text]

def weightedAffinityTerm : Shape := .record
  [required "podAffinityTerm" podAffinityTerm, required "weight" .int32]

def podAffinity : Shape := .record
  [optional "preferredDuringSchedulingIgnoredDuringExecution" (.list weightedAffinityTerm),
   optional "requiredDuringSchedulingIgnoredDuringExecution" (.list podAffinityTerm)]

def affinity : Shape := .record
  [optional "nodeAffinity" nodeAffinity, optional "podAffinity" podAffinity,
   optional "podAntiAffinity" podAffinity]

def dnsOption : Shape := .record
  [optional "name" .text, optional "value" .text]

def dnsConfig : Shape := .record
  [optional "nameservers" (.list .text), optional "options" (.list dnsOption),
   optional "searches" (.list .text)]

def hostAlias : Shape := .record
  [optional "hostnames" (.list .text), required "ip" .text]

def named : Shape := .record
  [required "name" .text]

def readinessGate : Shape := .record
  [required "conditionType" .text]

def podResourceClaim : Shape := .record
  [required "name" .text, optional "resourceClaimName" .text,
   optional "resourceClaimTemplateName" .text]

def sysctl : Shape := .record
  [required "name" .text, required "value" .text]

def podSecurityContext : Shape := .record
  [optional "appArmorProfile" profile, optional "fsGroup" .int64,
   optional "fsGroupChangePolicy" .text, optional "runAsGroup" .int64,
   optional "runAsNonRoot" .flag, optional "runAsUser" .int64,
   optional "seLinuxOptions" seLinuxOptions, optional "seccompProfile" profile,
   optional "supplementalGroups" (.list .int64), optional "supplementalGroupsPolicy" .text,
   optional "sysctls" (.list sysctl), optional "windowsOptions" windowsOptions]

def toleration : Shape := .record
  [optional "effect" .text, optional "key" .text, optional "operator" .text,
   optional "tolerationSeconds" .int64, optional "value" .text]

def spreadConstraint : Shape := .record
  [optional "labelSelector" labelSelector, optional "matchLabelKeys" (.list .text),
   required "maxSkew" .int32, optional "minDomains" .int32, optional "nodeAffinityPolicy" .text,
   optional "nodeTaintsPolicy" .text, required "topologyKey" .text,
   required "whenUnsatisfiable" .text]

def podSpec : Shape := .record
  [optional "activeDeadlineSeconds" .int64, optional "affinity" affinity,
   optional "automountServiceAccountToken" .flag, required "containers" (.list container),
   optional "dnsConfig" dnsConfig, optional "dnsPolicy" .text,
   optional "enableServiceLinks" .flag, optional "ephemeralContainers" (.list ephemeralContainer),
   optional "hostAliases" (.list hostAlias), optional "hostIPC" .flag,
   optional "hostNetwork" .flag, optional "hostPID" .flag, optional "hostUsers" .flag,
   optional "hostname" .text, optional "imagePullSecrets" (.list localReference),
   optional "initContainers" (.list container), optional "nodeName" .text,
   optional "nodeSelector" (.map .text), optional "os" named, optional "overhead" (.map .text),
   optional "preemptionPolicy" .text, optional "priority" .int32,
   optional "priorityClassName" .text, optional "readinessGates" (.list readinessGate),
   optional "resourceClaims" (.list podResourceClaim), optional "restartPolicy" .text,
   optional "runtimeClassName" .text, optional "schedulerName" .text,
   optional "schedulingGates" (.list named), optional "securityContext" podSecurityContext,
   optional "serviceAccount" .text, optional "serviceAccountName" .text,
   optional "setHostnameAsFQDN" .flag, optional "shareProcessNamespace" .flag,
   optional "subdomain" .text, optional "terminationGracePeriodSeconds" .int64,
   optional "tolerations" (.list toleration),
   optional "topologySpreadConstraints" (.list spreadConstraint),
   optional "volumes" (.list volume)]

def podTemplate : Shape := .record
  [optional "metadata" objectMeta, optional "spec" podSpec]

/-! ## What the node reports -/

def podCondition : Shape := .record
  [optional "lastProbeTime" .timestamp, optional "lastTransitionTime" .timestamp,
   optional "message" .text, optional "reason" .text, required "status" .text,
   required "type" .text]

def stateRunning : Shape := .record
  [optional "startedAt" .timestamp]

def stateTerminated : Shape := .record
  [optional "containerID" .text, required "exitCode" .int32, optional "finishedAt" .timestamp,
   optional "message" .text, optional "reason" .text, optional "signal" .int32,
   optional "startedAt" .timestamp]

def stateWaiting : Shape := .record
  [optional "message" .text, optional "reason" .text]

def containerState : Shape := .record
  [optional "running" stateRunning, optional "terminated" stateTerminated,
   optional "waiting" stateWaiting]

def resourceHealth : Shape := .record
  [optional "health" .text, required "resourceID" .text]

def resourceStatus : Shape := .record
  [required "name" .text, optional "resources" (.list resourceHealth)]

def linuxUser : Shape := .record
  [required "gid" .int64, optional "supplementalGroups" (.list .int64), required "uid" .int64]

def containerUser : Shape := .record
  [optional "linux" linuxUser]

def mountStatus : Shape := .record
  [required "mountPath" .text, required "name" .text, optional "readOnly" .flag,
   optional "recursiveReadOnly" .text]

def containerStatus : Shape := .record
  [optional "allocatedResources" (.map .text),
   optional "allocatedResourcesStatus" (.list resourceStatus), optional "containerID" .text,
   required "image" .text, required "imageID" .text, optional "lastState" containerState,
   required "name" .text, required "ready" .flag, optional "resources" resourceRequirements,
   required "restartCount" .int32, optional "started" .flag, optional "state" containerState,
   optional "user" containerUser, optional "volumeMounts" (.list mountStatus)]

def address : Shape := .record
  [required "ip" .text]

def resourceClaimStatus : Shape := .record
  [required "name" .text, optional "resourceClaimName" .text]

def podStatus : Shape := .record
  [optional "conditions" (.list podCondition),
   optional "containerStatuses" (.list containerStatus),
   optional "ephemeralContainerStatuses" (.list containerStatus), optional "hostIP" .text,
   optional "hostIPs" (.list address), optional "initContainerStatuses" (.list containerStatus),
   optional "message" .text, optional "nominatedNodeName" .text, optional "phase" .text,
   optional "podIP" .text, optional "podIPs" (.list address), optional "qosClass" .text,
   optional "reason" .text, optional "resize" .text,
   optional "resourceClaimStatuses" (.list resourceClaimStatus), optional "startTime" .timestamp]

/-! ## Body, without `apiVersion`, `kind` and `metadata` -/

def pod : Shape := .record
  [optional "spec" podSpec, optional "status" podStatus]

end AppServiceOperator.Shape
