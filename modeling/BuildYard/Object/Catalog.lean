import BuildYard.Object.Shape
/-!
# The shapes of the Kubernetes objects

The objects of `v1`, `batch/v1` and `apps/v1` that the build yard is given, as the API declares
them: every member with what stands in it, marked `must` where the API requires it and `may` where
it does not. Members are in name order.
-/

namespace BuildYard.Shape

/-- A member that may be unset. -/
def may (name : String) (shape : Shape) : String × Bool × Shape := (name, false, shape)

/-- A member that is always set. -/
def must (name : String) (shape : Shape) : String × Bool × Shape := (name, true, shape)

/-! ## Metadata and selectors -/

def managedFields : Shape := .record [
  may "apiVersion" .text, may "fieldsType" .text, may "fieldsV1" .anything, may "manager" .text,
  may "operation" .text, may "subresource" .text, may "time" .time]

def ownerReference : Shape := .record [
  must "apiVersion" .text, may "blockOwnerDeletion" .flag, may "controller" .flag,
  must "kind" .text, must "name" .text, must "uid" .text]

def objectMeta : Shape := .record [
  may "annotations" (.table .text), may "creationTimestamp" .time,
  may "deletionGracePeriodSeconds" .int64, may "deletionTimestamp" .time,
  may "finalizers" (.list .text), may "generateName" .text, may "generation" .int64,
  may "labels" (.table .text), may "managedFields" (.list managedFields), may "name" .text,
  may "namespace" .text, may "ownerReferences" (.list ownerReference), may "resourceVersion" .text,
  may "selfLink" .text, may "uid" .text]

/-- The metadata of a list of objects. -/
def listMeta : Shape := .record [
  may "continue" .text, may "remainingItemCount" .int64, may "resourceVersion" .text,
  may "selfLink" .text]

/-- A requirement on a label or a field of an object. -/
def requirement : Shape := .record [
  must "key" .text, must "operator" .text, may "values" (.list .text)]

def labelSelector : Shape := .record [
  may "matchExpressions" (.list requirement), may "matchLabels" (.table .text)]

def localReference : Shape := .record [may "name" .text]

/-! ## Where pods may run -/

def nodeSelectorTerm : Shape := .record [
  may "matchExpressions" (.list requirement), may "matchFields" (.list requirement)]

def nodeAffinity : Shape := .record [
  may "preferredDuringSchedulingIgnoredDuringExecution" (.list (.record [
    must "preference" nodeSelectorTerm, must "weight" .int32])),
  may "requiredDuringSchedulingIgnoredDuringExecution" (.record [
    must "nodeSelectorTerms" (.list nodeSelectorTerm)])]

def podAffinityTerm : Shape := .record [
  may "labelSelector" labelSelector, may "namespaceSelector" labelSelector,
  may "namespaces" (.list .text), must "topologyKey" .text]

/-- Affinity to pods, or its contrary. -/
def podAffinity : Shape := .record [
  may "preferredDuringSchedulingIgnoredDuringExecution" (.list (.record [
    must "podAffinityTerm" podAffinityTerm, must "weight" .int32])),
  may "requiredDuringSchedulingIgnoredDuringExecution" (.list podAffinityTerm)]

def affinity : Shape := .record [
  may "nodeAffinity" nodeAffinity, may "podAffinity" podAffinity,
  may "podAntiAffinity" podAffinity]

def toleration : Shape := .record [
  may "effect" .text, may "key" .text, may "operator" .text, may "tolerationSeconds" .int64,
  may "value" .text]

def topologySpreadConstraint : Shape := .record [
  may "labelSelector" labelSelector, may "matchLabelKeys" (.list .text), must "maxSkew" .int32,
  may "minDomains" .int32, may "nodeAffinityPolicy" .text, may "nodeTaintsPolicy" .text,
  must "topologyKey" .text, must "whenUnsatisfiable" .text]

/-! ## Security -/

def seLinuxOptions : Shape := .record [
  may "level" .text, may "role" .text, may "type" .text, may "user" .text]

def seccompProfile : Shape := .record [may "localhostProfile" .text, must "type" .text]

def windowsOptions : Shape := .record [
  may "gmsaCredentialSpec" .text, may "gmsaCredentialSpecName" .text, may "hostProcess" .flag,
  may "runAsUserName" .text]

def securityContext : Shape := .record [
  may "allowPrivilegeEscalation" .flag,
  may "capabilities" (.record [may "add" (.list .text), may "drop" (.list .text)]),
  may "privileged" .flag, may "procMount" .text, may "readOnlyRootFilesystem" .flag,
  may "runAsGroup" .int64, may "runAsNonRoot" .flag, may "runAsUser" .int64,
  may "seLinuxOptions" seLinuxOptions, may "seccompProfile" seccompProfile,
  may "windowsOptions" windowsOptions]

def podSecurityContext : Shape := .record [
  may "fsGroup" .int64, may "fsGroupChangePolicy" .text, may "runAsGroup" .int64,
  may "runAsNonRoot" .flag, may "runAsUser" .int64, may "seLinuxOptions" seLinuxOptions,
  may "seccompProfile" seccompProfile, may "supplementalGroups" (.list .int64),
  may "sysctls" (.list (.record [must "name" .text, must "value" .text])),
  may "windowsOptions" windowsOptions]

/-! ## Containers -/

/-- A key of a config map or a secret. -/
def keySelector : Shape := .record [must "key" .text, may "name" .text, may "optional" .flag]

def fieldSelector : Shape := .record [may "apiVersion" .text, must "fieldPath" .text]

def resourceFieldSelector : Shape := .record [
  may "containerName" .text, may "divisor" .text, must "resource" .text]

def envVar : Shape := .record [
  must "name" .text, may "value" .text,
  may "valueFrom" (.record [
    may "configMapKeyRef" keySelector, may "fieldRef" fieldSelector,
    may "resourceFieldRef" resourceFieldSelector, may "secretKeyRef" keySelector])]

/-- A config map or a secret as a whole. -/
def wholeSource : Shape := .record [may "name" .text, may "optional" .flag]

def envFrom : Shape := .record [
  may "configMapRef" wholeSource, may "prefix" .text, may "secretRef" wholeSource]

def execAction : Shape := .record [may "command" (.list .text)]

def httpGetAction : Shape := .record [
  may "host" .text,
  may "httpHeaders" (.list (.record [must "name" .text, must "value" .text])),
  may "path" .text, must "port" .intOrText, may "scheme" .text]

def tcpSocketAction : Shape := .record [may "host" .text, must "port" .intOrText]

def lifecycleHandler : Shape := .record [
  may "exec" execAction, may "httpGet" httpGetAction, may "tcpSocket" tcpSocketAction]

def probe : Shape := .record [
  may "exec" execAction, may "failureThreshold" .int32,
  may "grpc" (.record [must "port" .int32, may "service" .text]), may "httpGet" httpGetAction,
  may "initialDelaySeconds" .int32, may "periodSeconds" .int32, may "successThreshold" .int32,
  may "tcpSocket" tcpSocketAction, may "terminationGracePeriodSeconds" .int64,
  may "timeoutSeconds" .int32]

def resourceRequirements : Shape := .record [
  may "claims" (.list (.record [must "name" .text])), may "limits" (.table .text),
  may "requests" (.table .text)]

def containerPort : Shape := .record [
  must "containerPort" .int32, may "hostIP" .text, may "hostPort" .int32, may "name" .text,
  may "protocol" .text]

def volumeMount : Shape := .record [
  must "mountPath" .text, may "mountPropagation" .text, must "name" .text, may "readOnly" .flag,
  may "subPath" .text, may "subPathExpr" .text]

/-- The members that all kinds of container have, from `args` to `stdinOnce`. -/
def containerFront : List (String × Bool × Shape) := [
  may "args" (.list .text), may "command" (.list .text), may "env" (.list envVar),
  may "envFrom" (.list envFrom), may "image" .text, may "imagePullPolicy" .text,
  may "lifecycle" (.record [may "postStart" lifecycleHandler, may "preStop" lifecycleHandler]),
  may "livenessProbe" probe, must "name" .text, may "ports" (.list containerPort),
  may "readinessProbe" probe,
  may "resizePolicy" (.list (.record [must "resourceName" .text, must "restartPolicy" .text])),
  may "resources" resourceRequirements, may "restartPolicy" .text,
  may "securityContext" securityContext, may "startupProbe" probe, may "stdin" .flag,
  may "stdinOnce" .flag]

/-- The members that all kinds of container have, from `terminationMessagePath` on. -/
def containerBack : List (String × Bool × Shape) := [
  may "terminationMessagePath" .text, may "terminationMessagePolicy" .text, may "tty" .flag,
  may "volumeDevices" (.list (.record [must "devicePath" .text, must "name" .text])),
  may "volumeMounts" (.list volumeMount), may "workingDir" .text]

def container : Shape := .record (containerFront ++ containerBack)

def ephemeralContainer : Shape :=
  .record (containerFront ++ [may "targetContainerName" .text] ++ containerBack)

/-! ## Volumes -/

def keyToPath : Shape := .record [must "key" .text, may "mode" .int32, must "path" .text]

def downwardFile : Shape := .record [
  may "fieldRef" fieldSelector, may "mode" .int32, must "path" .text,
  may "resourceFieldRef" resourceFieldSelector]

/-- Items of a config map or a secret inside a projected volume. -/
def projection : Shape := .record [
  may "items" (.list keyToPath), may "name" .text, may "optional" .flag]

def claimSpec : Shape := .record [
  may "accessModes" (.list .text),
  may "dataSource" (.record [may "apiGroup" .text, must "kind" .text, must "name" .text]),
  may "dataSourceRef" (.record [
    may "apiGroup" .text, must "kind" .text, must "name" .text, may "namespace" .text]),
  may "resources" resourceRequirements, may "selector" labelSelector,
  may "storageClassName" .text, may "volumeMode" .text, may "volumeName" .text]

def configMapVolume : Shape := .record [
  may "defaultMode" .int32, may "items" (.list keyToPath), may "name" .text,
  may "optional" .flag]

def emptyDirVolume : Shape := .record [may "medium" .text, may "sizeLimit" .text]

def claimVolume : Shape := .record [must "claimName" .text, may "readOnly" .flag]

def volume : Shape := .record [
  may "awsElasticBlockStore" (.record [
    may "fsType" .text, may "partition" .int32, may "readOnly" .flag, must "volumeID" .text]),
  may "azureDisk" (.record [
    may "cachingMode" .text, must "diskName" .text, must "diskURI" .text, may "fsType" .text,
    may "kind" .text, may "readOnly" .flag]),
  may "azureFile" (.record [
    may "readOnly" .flag, must "secretName" .text, must "shareName" .text]),
  may "cephfs" (.record [
    must "monitors" (.list .text), may "path" .text, may "readOnly" .flag, may "secretFile" .text,
    may "secretRef" localReference, may "user" .text]),
  may "cinder" (.record [
    may "fsType" .text, may "readOnly" .flag, may "secretRef" localReference,
    must "volumeID" .text]),
  may "configMap" configMapVolume,
  may "csi" (.record [
    must "driver" .text, may "fsType" .text, may "nodePublishSecretRef" localReference,
    may "readOnly" .flag, may "volumeAttributes" (.table .text)]),
  may "downwardAPI" (.record [may "defaultMode" .int32, may "items" (.list downwardFile)]),
  may "emptyDir" emptyDirVolume,
  may "ephemeral" (.record [
    may "volumeClaimTemplate" (.record [may "metadata" objectMeta, must "spec" claimSpec])]),
  may "fc" (.record [
    may "fsType" .text, may "lun" .int32, may "readOnly" .flag, may "targetWWNs" (.list .text),
    may "wwids" (.list .text)]),
  may "flexVolume" (.record [
    must "driver" .text, may "fsType" .text, may "options" (.table .text), may "readOnly" .flag,
    may "secretRef" localReference]),
  may "flocker" (.record [may "datasetName" .text, may "datasetUUID" .text]),
  may "gcePersistentDisk" (.record [
    may "fsType" .text, may "partition" .int32, must "pdName" .text, may "readOnly" .flag]),
  may "gitRepo" (.record [may "directory" .text, must "repository" .text, may "revision" .text]),
  may "glusterfs" (.record [must "endpoints" .text, must "path" .text, may "readOnly" .flag]),
  may "hostPath" (.record [must "path" .text, may "type" .text]),
  may "iscsi" (.record [
    may "chapAuthDiscovery" .flag, may "chapAuthSession" .flag, may "fsType" .text,
    may "initiatorName" .text, must "iqn" .text, may "iscsiInterface" .text, must "lun" .int32,
    may "portals" (.list .text), may "readOnly" .flag, may "secretRef" localReference,
    must "targetPortal" .text]),
  must "name" .text,
  may "nfs" (.record [must "path" .text, may "readOnly" .flag, must "server" .text]),
  may "persistentVolumeClaim" claimVolume,
  may "photonPersistentDisk" (.record [may "fsType" .text, must "pdID" .text]),
  may "portworxVolume" (.record [
    may "fsType" .text, may "readOnly" .flag, must "volumeID" .text]),
  may "projected" (.record [
    may "defaultMode" .int32,
    may "sources" (.list (.record [
      may "configMap" projection,
      may "downwardAPI" (.record [may "items" (.list downwardFile)]),
      may "secret" projection,
      may "serviceAccountToken" (.record [
        may "audience" .text, may "expirationSeconds" .int64, must "path" .text])]))]),
  may "quobyte" (.record [
    may "group" .text, may "readOnly" .flag, must "registry" .text, may "tenant" .text,
    may "user" .text, must "volume" .text]),
  may "rbd" (.record [
    may "fsType" .text, must "image" .text, may "keyring" .text, must "monitors" (.list .text),
    may "pool" .text, may "readOnly" .flag, may "secretRef" localReference, may "user" .text]),
  may "scaleIO" (.record [
    may "fsType" .text, must "gateway" .text, may "protectionDomain" .text, may "readOnly" .flag,
    must "secretRef" localReference, may "sslEnabled" .flag, may "storageMode" .text,
    may "storagePool" .text, must "system" .text, may "volumeName" .text]),
  may "secret" (.record [
    may "defaultMode" .int32, may "items" (.list keyToPath), may "optional" .flag,
    may "secretName" .text]),
  may "storageos" (.record [
    may "fsType" .text, may "readOnly" .flag, may "secretRef" localReference,
    may "volumeName" .text, may "volumeNamespace" .text]),
  may "vsphereVolume" (.record [
    may "fsType" .text, may "storagePolicyID" .text, may "storagePolicyName" .text,
    must "volumePath" .text])]

/-! ## Pods -/

def podSpec : Shape := .record [
  may "activeDeadlineSeconds" .int64, may "affinity" affinity,
  may "automountServiceAccountToken" .flag, must "containers" (.list container),
  may "dnsConfig" (.record [
    may "nameservers" (.list .text),
    may "options" (.list (.record [may "name" .text, may "value" .text])),
    may "searches" (.list .text)]),
  may "dnsPolicy" .text, may "enableServiceLinks" .flag,
  may "ephemeralContainers" (.list ephemeralContainer),
  may "hostAliases" (.list (.record [may "hostnames" (.list .text), may "ip" .text])),
  may "hostIPC" .flag, may "hostNetwork" .flag, may "hostPID" .flag, may "hostUsers" .flag,
  may "hostname" .text, may "imagePullSecrets" (.list localReference),
  may "initContainers" (.list container), may "nodeName" .text,
  may "nodeSelector" (.table .text), may "os" (.record [must "name" .text]),
  may "overhead" (.table .text), may "preemptionPolicy" .text, may "priority" .int32,
  may "priorityClassName" .text,
  may "readinessGates" (.list (.record [must "conditionType" .text])),
  may "resourceClaims" (.list (.record [
    must "name" .text,
    may "source" (.record [
      may "resourceClaimName" .text, may "resourceClaimTemplateName" .text])])),
  may "restartPolicy" .text, may "runtimeClassName" .text, may "schedulerName" .text,
  may "schedulingGates" (.list (.record [must "name" .text])),
  may "securityContext" podSecurityContext, may "serviceAccount" .text,
  may "serviceAccountName" .text, may "setHostnameAsFQDN" .flag,
  may "shareProcessNamespace" .flag, may "subdomain" .text,
  may "terminationGracePeriodSeconds" .int64, may "tolerations" (.list toleration),
  may "topologySpreadConstraints" (.list topologySpreadConstraint),
  may "volumes" (.list volume)]

def podTemplate : Shape := .record [may "metadata" objectMeta, may "spec" podSpec]

def containerState : Shape := .record [
  may "running" (.record [may "startedAt" .time]),
  may "terminated" (.record [
    may "containerID" .text, must "exitCode" .int32, may "finishedAt" .time, may "message" .text,
    may "reason" .text, may "signal" .int32, may "startedAt" .time]),
  may "waiting" (.record [may "message" .text, may "reason" .text])]

def containerStatus : Shape := .record [
  may "allocatedResources" (.table .text), may "containerID" .text, must "image" .text,
  must "imageID" .text, may "lastState" containerState, must "name" .text, must "ready" .flag,
  may "resources" resourceRequirements, must "restartCount" .int32, may "started" .flag,
  may "state" containerState]

def podStatus : Shape := .record [
  may "conditions" (.list (.record [
    may "lastProbeTime" .time, may "lastTransitionTime" .time, may "message" .text,
    may "reason" .text, must "status" .text, must "type" .text])),
  may "containerStatuses" (.list containerStatus),
  may "ephemeralContainerStatuses" (.list containerStatus), may "hostIP" .text,
  may "hostIPs" (.list (.record [may "ip" .text])),
  may "initContainerStatuses" (.list containerStatus), may "message" .text,
  may "nominatedNodeName" .text, may "phase" .text, may "podIP" .text,
  may "podIPs" (.list (.record [may "ip" .text])), may "qosClass" .text, may "reason" .text,
  may "resize" .text,
  may "resourceClaimStatuses" (.list (.record [
    must "name" .text, may "resourceClaimName" .text])),
  may "startTime" .time]

/-! ## Jobs -/

def jobSpec : Shape := .record [
  may "activeDeadlineSeconds" .int64, may "backoffLimit" .int32,
  may "backoffLimitPerIndex" .int32, may "completionMode" .text, may "completions" .int32,
  may "manualSelector" .flag, may "maxFailedIndexes" .int32, may "parallelism" .int32,
  may "podFailurePolicy" (.record [
    must "rules" (.list (.record [
      must "action" .text,
      may "onExitCodes" (.record [
        may "containerName" .text, must "operator" .text, must "values" (.list .int32)]),
      may "onPodConditions" (.list (.record [must "status" .text, must "type" .text]))]))]),
  may "podReplacementPolicy" .text, may "selector" labelSelector, may "suspend" .flag,
  must "template" podTemplate, may "ttlSecondsAfterFinished" .int32]

def jobCondition : Shape := .record [
  may "lastProbeTime" .time, may "lastTransitionTime" .time, may "message" .text,
  may "reason" .text, must "status" .text, must "type" .text]

def jobStatus : Shape := .record [
  may "active" .int32, may "completedIndexes" .text, may "completionTime" .time,
  may "conditions" (.list jobCondition), may "failed" .int32, may "failedIndexes" .text,
  may "ready" .int32, may "startTime" .time, may "succeeded" .int32, may "terminating" .int32,
  may "uncountedTerminatedPods" (.record [
    may "failed" (.list .text), may "succeeded" (.list .text)])]

/-! ## Workloads -/

/-- A condition of a workload. -/
def workloadCondition : Shape := .record [
  may "lastTransitionTime" .time, may "message" .text, may "reason" .text, must "status" .text,
  must "type" .text]

def deploymentSpec : Shape := .record [
  may "minReadySeconds" .int32, may "paused" .flag, may "progressDeadlineSeconds" .int32,
  may "replicas" .int32, may "revisionHistoryLimit" .int32, must "selector" labelSelector,
  may "strategy" (.record [
    may "rollingUpdate" (.record [
      may "maxSurge" .intOrText, may "maxUnavailable" .intOrText]),
    may "type" .text]),
  must "template" podTemplate]

def deploymentStatus : Shape := .record [
  may "availableReplicas" .int32, may "collisionCount" .int32,
  may "conditions" (.list (.record [
    may "lastTransitionTime" .time, may "lastUpdateTime" .time, may "message" .text,
    may "reason" .text, must "status" .text, must "type" .text])),
  may "observedGeneration" .int64, may "readyReplicas" .int32, may "replicas" .int32,
  may "unavailableReplicas" .int32, may "updatedReplicas" .int32]

def replicaSetSpec : Shape := .record [
  may "minReadySeconds" .int32, may "replicas" .int32, must "selector" labelSelector,
  may "template" podTemplate]

def replicaSetStatus : Shape := .record [
  may "availableReplicas" .int32, may "conditions" (.list workloadCondition),
  may "fullyLabeledReplicas" .int32, may "observedGeneration" .int64,
  may "readyReplicas" .int32, must "replicas" .int32]

def claim : Shape := .resource "v1" "PersistentVolumeClaim" [
  must "metadata" objectMeta, may "spec" claimSpec,
  may "status" (.record [
    may "accessModes" (.list .text), may "allocatedResourceStatuses" (.table .text),
    may "allocatedResources" (.table .text), may "capacity" (.table .text),
    may "conditions" (.list (.record [
      may "lastProbeTime" .time, may "lastTransitionTime" .time, may "message" .text,
      may "reason" .text, must "status" .text, must "type" .text])),
    may "phase" .text])]

def statefulSetSpec : Shape := .record [
  may "minReadySeconds" .int32, may "ordinals" (.record [may "start" .int32]),
  may "persistentVolumeClaimRetentionPolicy" (.record [
    may "whenDeleted" .text, may "whenScaled" .text]),
  may "podManagementPolicy" .text, may "replicas" .int32, may "revisionHistoryLimit" .int32,
  must "selector" labelSelector, must "serviceName" .text, must "template" podTemplate,
  may "updateStrategy" (.record [
    may "rollingUpdate" (.record [
      may "maxUnavailable" .intOrText, may "partition" .int32]),
    may "type" .text]),
  may "volumeClaimTemplates" (.list claim)]

def statefulSetStatus : Shape := .record [
  may "availableReplicas" .int32, may "collisionCount" .int32,
  may "conditions" (.list workloadCondition), may "currentReplicas" .int32,
  may "currentRevision" .text, may "observedGeneration" .int64, may "readyReplicas" .int32,
  must "replicas" .int32, may "updateRevision" .text, may "updatedReplicas" .int32]

def daemonSetSpec : Shape := .record [
  may "minReadySeconds" .int32, may "revisionHistoryLimit" .int32,
  must "selector" labelSelector, must "template" podTemplate,
  may "updateStrategy" (.record [
    may "rollingUpdate" (.record [
      may "maxSurge" .intOrText, may "maxUnavailable" .intOrText]),
    may "type" .text])]

def daemonSetStatus : Shape := .record [
  may "collisionCount" .int32, may "conditions" (.list workloadCondition),
  must "currentNumberScheduled" .int32, must "desiredNumberScheduled" .int32,
  may "numberAvailable" .int32, must "numberMisscheduled" .int32, must "numberReady" .int32,
  may "numberUnavailable" .int32, may "observedGeneration" .int64,
  may "updatedNumberScheduled" .int32]

end BuildYard.Shape
