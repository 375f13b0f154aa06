import AppServiceOperator.Manifest.Shape.Volume
/-!
# Shapes of containers

A container of a pod with its environment, probes, ports and security settings.
-/
namespace AppServiceOperator.Shape

/-- A key of a secret or of a configuration map. -/
def keySelector : Shape := .record
  [required "key" .text, required "name" .text, optional "optional" .flag]

def envSource : Shape := .record
  [optional "configMapKeyRef" keySelector, optional "fieldRef" fieldSelector,
   optional "resourceFieldRef" resourceFieldSelector, optional "secretKeyRef" keySelector]

def envVar : Shape := .record
  [required "name" .text, optional "value" .text, optional "valueFrom" envSource]

def envFromReference : Shape := .record
  [required "name" .text, optional "optional" .flag]

def envFrom : Shape := .record
  [optional "configMapRef" envFromReference, optional "prefix" .text,
   optional "secretRef" envFromReference]

def execAction : Shape := .record
  [optional "command" (.list .text)]

def grpcAction : Shape := .record
  [required "port" .int32, optional "service" .text]

def httpHeader : Shape := .record
  [required "name" .text, required "value" .text]

def httpGetAction : Shape := .record
  [optional "host" .text, optional "httpHeaders" (.list httpHeader), optional "path" .text,
   required "port" .intOrText, optional "scheme" .text]

def tcpSocketAction : Shape := .record
  [optional "host" .text, required "port" .intOrText]

def sleepAction : Shape := .record
  [required "seconds" .int64]

def probe : Shape := .record
  [optional "exec" execAction, optional "failureThreshold" .int32, optional "grpc" grpcAction,
   optional "httpGet" httpGetAction, optional "initialDelaySeconds" .int32,
   optional "periodSeconds" .int32, optional "successThreshold" .int32,
   optional "tcpSocket" tcpSocketAction, optional "terminationGracePeriodSeconds" .int64,
   optional "timeoutSeconds" .int32]

def lifecycleHandler : Shape := .record
  [optional "exec" execAction, optional "httpGet" httpGetAction, optional "sleep" sleepAction,
   optional "tcpSocket" tcpSocketAction]

def lifecycle : Shape := .record
  [optional "postStart" lifecycleHandler, optional "preStop" lifecycleHandler]

def containerPort : Shape := .record
  [required "containerPort" .int32, optional "hostIP" .text, optional "hostPort" .int32,
   optional "name" .text, optional "protocol" .text]

def resizePolicy : Shape := .record
  [required "resourceName" .text, required "restartPolicy" .text]

def resourceClaim : Shape := .record
  [required "name" .text, optional "request" .text]

def resourceRequirements : Shape := .record
  [optional "claims" (.list resourceClaim), optional "limits" (.map .text),
   optional "requests" (.map .text)]

def profile : Shape := .record
  [optional "localhostProfile" .text, required "type" .text]

def seLinuxOptions : Shape := .record
  [optional "level" .text, optional "role" .text, optional "type" .text, optional "user" .text]

def windowsOptions : Shape := .record
  [optional "gmsaCredentialSpec" .text, optional "gmsaCredentialSpecName" .text,
   optional "hostProcess" .flag, optional "runAsUserName" .text]

def capabilities : Shape := .record
  [optional "add" (.list .text), optional "drop" (.list .text)]

def securityContext : Shape := .record
  [optional "allowPrivilegeEscalation" .flag, optional "appArmorProfile" profile,
   optional "capabilities" capabilities, optional "privileged" .flag, optional "procMount" .text,
   optional "readOnlyRootFilesystem" .flag, optional "runAsGroup" .int64,
   optional "runAsNonRoot" .flag, optional "runAsUser" .int64,
   optional "seLinuxOptions" seLinuxOptions, optional "seccompProfile" profile,
   optional "windowsOptions" windowsOptions]

def volumeDevice : Shape := .record
  [required "devicePath" .text, required "name" .text]

def volumeMount : Shape := .record
  [required "mountPath" .text, optional "mountPropagation" .text, required "name" .text,
   optional "readOnly" .flag, optional "recursiveReadOnly" .text, optional "subPath" .text,
   optional "subPathExpr" .text]

def container : Shape := .record
  [optional "args" (.list .text), optional "command" (.list .text), optional "env" (.list envVar),
   optional "envFrom" (.list envFrom), optional "image" .text, optional "imagePullPolicy" .text,
   optional "lifecycle" lifecycle, optional "livenessProbe" probe, required "name" .text,
   optional "ports" (.list containerPort), optional "readinessProbe" probe,
   optional "resizePolicy" (.list resizePolicy), optional "resources" resourceRequirements,
   optional "restartPolicy" .text, optional "securityContext" securityContext,
   optional "startupProbe" probe, optional "stdin" .flag, optional "stdinOnce" .flag,
   optional "terminationMessagePath" .text, optional "terminationMessagePolicy" .text,
   optional "tty" .flag, optional "volumeDevices" (.list volumeDevice),
   optional "volumeMounts" (.list volumeMount), optional "workingDir" .text]

def ephemeralContainer : Shape := .record
  [optional "args" (.list .text), optional "command" (.list .text), optional "env" (.list envVar),
   optional "envFrom" (.list envFrom), optional "image" .text, optional "imagePullPolicy" .text,
   optional "lifecycle" lifecycle, optional "livenessProbe" probe, required "name" .text,
   optional "ports" (.list containerPort), optional "readinessProbe" probe,
   optional "resizePolicy" (.list resizePolicy), optional "resources" resourceRequirements,
   optional "restartPolicy" .text, optional "securityContext" securityContext,
   optional "startupProbe" probe, optional "stdin" .flag, optional "stdinOnce" .flag,
   optional "targetContainerName" .text, optional "terminationMessagePath" .text,
   optional "terminationMessagePolicy" .text, optional "tty" .flag,
   optional "volumeDevices" (.list volumeDevice), optional "volumeMounts" (.list volumeMount),
   optional "workingDir" .text]

end AppServiceOperator.Shape
