import AppServiceOperator.Manifest.Shape.Storage
/-!
# Shapes of volumes

The sources that a volume of a pod may be taken from.
-/
namespace AppServiceOperator.Shape

def keyToPath : Shape := .record
  [required "key" .text, optional "mode" .int32, required "path" .text]

def fieldSelector : Shape := .record
  [optional "apiVersion" .text, required "fieldPath" .text]

def resourceFieldSelector : Shape := .record
  [optional "containerName" .text, optional "divisor" .text, required "resource" .text]

def downwardFile : Shape := .record
  [optional "fieldRef" fieldSelector, optional "mode" .int32, required "path" .text,
   optional "resourceFieldRef" resourceFieldSelector]

def blockStoreVolume : Shape := .record
  [optional "fsType" .text, optional "partition" .int32, optional "readOnly" .flag,
   required "volumeID" .text]

def azureDiskVolume : Shape := .record
  [optional "cachingMode" .text, required "diskName" .text, required "diskURI" .text,
   optional "fsType" .text, optional "kind" .text, optional "readOnly" .flag]

def azureFileVolume : Shape := .record
  [optional "readOnly" .flag, required "secretName" .text, required "shareName" .text]

def cephVolume : Shape := .record
  [required "monitors" (.list .text), optional "path" .text, optional "readOnly" .flag,
   optional "secretFile" .text, optional "secretRef" localReference, optional "user" .text]

def cinderVolume : Shape := .record
  [optional "fsType" .text, optional "readOnly" .flag, optional "secretRef" localReference,
   required "volumeID" .text]

def configMapVolume : Shape := .record
  [optional "defaultMode" .int32, optional "items" (.list keyToPath), required "name" .text,
   optional "optional" .flag]

def csiVolume : Shape := .record
  [required "driver" .text, optional "fsType" .text,
   optional "nodePublishSecretRef" localReference, optional "readOnly" .flag,
   optional "volumeAttributes" (.map .text)]

def downwardVolume : Shape := .record
  [optional "defaultMode" .int32, optional "items" (.list downwardFile)]

def emptyDirVolume : Shape := .record
  [optional "medium" .text, optional "sizeLimit" .text]

def ephemeralVolume : Shape := .record
  [optional "volumeClaimTemplate" claimTemplate]

def fibreChannelVolume : Shape := .record
  [optional "fsType" .text, optional "lun" .int32, optional "readOnly" .flag,
   optional "targetWWNs" (.list .text), optional "wwids" (.list .text)]

def flexVolume : Shape := .record
  [required "driver" .text, optional "fsType" .text, optional "options" (.map .text),
   optional "readOnly" .flag, optional "secretRef" localReference]

def flockerVolume : Shape := .record
  [optional "datasetName" .text, optional "datasetUUID" .text]

def persistentDiskVolume : Shape := .record
  [optional "fsType" .text, optional "partition" .int32, required "pdName" .text,
   optional "readOnly" .flag]

def gitRepoVolume : Shape := .record
  [optional "directory" .text, required "repository" .text, optional "revision" .text]

def glusterVolume : Shape := .record
  [required "endpoints" .text, required "path" .text, optional "readOnly" .flag]

def hostPathVolume : Shape := .record
  [required "path" .text, optional "type" .text]

def imageVolume : Shape := .record
  [optional "pullPolicy" .text, optional "reference" .text]

def iscsiVolume : Shape := .record
  [optional "chapAuthDiscovery" .flag, optional "chapAuthSession" .flag, optional "fsType" .text,
   optional "initiatorName" .text, required "iqn" .text, optional "iscsiInterface" .text,
   required "lun" .int32, optional "portals" (.list .text), optional "readOnly" .flag,
   optional "secretRef" localReference, required "targetPortal" .text]

def nfsVolume : Shape := .record
  [required "path" .text, optional "readOnly" .flag, required "server" .text]

def claimVolume : Shape := .record
  [required "claimName" .text, optional "readOnly" .flag]

def photonVolume : Shape := .record
  [optional "fsType" .text, required "pdID" .text]

def portworxVolume : Shape := .record
  [optional "fsType" .text, optional "readOnly" .flag, required "volumeID" .text]

def trustBundleProjection : Shape := .record
  [optional "labelSelector" labelSelector, optional "name" .text, optional "optional" .flag,
   required "path" .text, optional "signerName" .text]

def configMapProjection : Shape := .record
  [optional "items" (.list keyToPath), required "name" .text, optional "optional" .flag]

def downwardProjection : Shape := .record
  [optional "items" (.list downwardFile)]

def tokenProjection : Shape := .record
  [optional "audience" .text, optional "expirationSeconds" .int64, required "path" .text]

def projection : Shape := .record
  [optional "clusterTrustBundle" trustBundleProjection, optional "configMap" configMapProjection,
   optional "downwardAPI" downwardProjection, optional "secret" configMapProjection,
   optional "serviceAccountToken" tokenProjection]

def projectedVolume : Shape := .record
  [optional "defaultMode" .int32, optional "sources" (.list projection)]

def quobyteVolume : Shape := .record
  [optional "group" .text, optional "readOnly" .flag, required "registry" .text,
   optional "tenant" .text, optional "user" .text, required "volume" .text]

def rbdVolume : Shape := .record
  [optional "fsType" .text, required "image" .text, optional "keyring" .text,
   required "monitors" (.list .text), optional "pool" .text, optional "readOnly" .flag,
   optional "secretRef" localReference, optional "user" .text]

def scaleIoVolume : Shape := .record
  [optional "fsType" .text, required "gateway" .text, optional "protectionDomain" .text,
   optional "readOnly" .flag, required "secretRef" localReference, optional "sslEnabled" .flag,
   optional "storageMode" .text, optional "storagePool" .text, required "system" .text,
   optional "volumeName" .text]

def secretVolume : Shape := .record
  [optional "defaultMode" .int32, optional "items" (.list keyToPath), optional "optional" .flag,
   optional "secretName" .text]

def storageOsVolume : Shape := .record
  [optional "fsType" .text, optional "readOnly" .flag, optional "secretRef" localReference,
   optional "volumeName" .text, optional "volumeNamespace" .text]

def vsphereVolume : Shape := .record
  [optional "fsType" .text, optional "storagePolicyID" .text, optional "storagePolicyName" .text,
   required "volumePath" .text]

def volume : Shape := .record
  [optional "awsElasticBlockStore" blockStoreVolume, optional "azureDisk" azureDiskVolume,
   optional "azureFile" azureFileVolume, optional "cephfs" cephVolume,
   optional "cinder" cinderVolume, optional "configMap" configMapVolume, optional "csi" csiVolume,
   optional "downwardAPI" downwardVolume, optional "emptyDir" emptyDirVolume,
   optional "ephemeral" ephemeralVolume, optional "fc" fibreChannelVolume,
   optional "flexVolume" flexVolume, optional "flocker" flockerVolume,
   optional "gcePersistentDisk" persistentDiskVolume, optional "gitRepo" gitRepoVolume,
   optional "glusterfs" glusterVolume, optional "hostPath" hostPathVolume,
   optional "image" imageVolume, optional "iscsi" iscsiVolume, required "name" .text,
   optional "nfs" nfsVolume, optional "persistentVolumeClaim" claimVolume,
   optional "photonPersistentDisk" photonVolume, optional "portworxVolume" portworxVolume,
   optional "projected" projectedVolume, optional "quobyte" quobyteVolume,
   optional "rbd" rbdVolume, optional "scaleIO" scaleIoVolume, optional "secret" secretVolume,
   optional "storageos" storageOsVolume, optional "vsphereVolume" vsphereVolume]

end AppServiceOperator.Shape
