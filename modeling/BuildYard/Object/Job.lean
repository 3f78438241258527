import BuildYard.Object.Meta
/-!
# Jobs

A job has a specification, with a template for its pods, and a status. As with metadata, the fields
that the build yard sets or looks at have a place of their own, and the others are carried along.
-/

namespace BuildYard

/-! ## Containers and volumes -/

/-- A variable in the environment of a container. -/
structure EnvVar where
  name : String
  value : Option String := none
  others : Json.Fields := []

/-- A volume as a container sees it. -/
structure VolumeMount where
  name : String
  mountPath : String
  readOnly : Option Bool := none
  others : Json.Fields := []

/-- The user and the protection of a container's processes. -/
structure SecurityContext where
  runAsUser : Option Int := none
  runAsGroup : Option Int := none
  /-- The kind of system call filter. -/
  seccompType : Option String := none
  others : Json.Fields := []

/-- A container of a pod. -/
structure Container where
  name : String
  image : Option String := none
  command : Option (List String) := none
  args : Option (List String) := none
  env : Option (List EnvVar) := none
  volumeMounts : Option (List VolumeMount) := none
  securityContext : Option SecurityContext := none
  others : Json.Fields := []

/-- Where a volume's contents come from. -/
inductive VolumeSource where
  | emptyDir
  | claim (claimName : String) (readOnly : Option Bool)
  | configMap (name : String)
  /-- Any other source, in normal form. -/
  | other (fields : Json.Fields)

/-- A volume of a pod. -/
structure Volume where
  name : String
  source : VolumeSource

namespace EnvVar

/-- Reads a variable. -/
def ofJson? (j : Json) : Option EnvVar := do
  let fields ← j.asFields?
  return {
    name := ← Json.required Json.asText? "" fields "name"
    value := ← Json.optional Json.asText? fields "value"
    others := ← Shape.envVar.others? ["name", "value"] fields }

/-- Writes a variable. -/
def toJson (v : EnvVar) : Json :=
  Json.ofSet [("name", some (.str v.name)), ("value", v.value.map .str)] v.others

end EnvVar

namespace VolumeMount

/-- Reads a mount. -/
def ofJson? (j : Json) : Option VolumeMount := do
  let fields ← j.asFields?
  return {
    name := ← Json.required Json.asText? "" fields "name"
    mountPath := ← Json.required Json.asText? "" fields "mountPath"
    readOnly := ← Json.optional Json.asBool? fields "readOnly"
    others := ← Shape.volumeMount.others? ["name", "mountPath", "readOnly"] fields }

/-- Writes a mount. -/
def toJson (m : VolumeMount) : Json :=
  Json.ofSet [
    ("name", some (.str m.name)),
    ("mountPath", some (.str m.mountPath)),
    ("readOnly", m.readOnly.map .bool)] m.others

end VolumeMount

namespace SecurityContext

/-- Reads a security context; a filter with a profile of its own is carried along whole. -/
def ofJson? (j : Json) : Option SecurityContext := do
  let fields ← j.asFields?
  return {
    runAsUser := ← Json.optional Json.asInt64? fields "runAsUser"
    runAsGroup := ← Json.optional Json.asInt64? fields "runAsGroup"
    others := ← Shape.securityContext.others? ["runAsUser", "runAsGroup"] fields }

/-- Writes a security context. -/
def toJson (c : SecurityContext) : Json :=
  Json.ofSet [
    ("runAsUser", c.runAsUser.map .int),
    ("runAsGroup", c.runAsGroup.map .int),
    ("seccompProfile", c.seccompType.map fun t => .obj [("type", .str t)])] c.others

end SecurityContext

namespace Container

/-- The fields with a place of their own. -/
def known : List String :=
  ["name", "image", "command", "args", "env", "volumeMounts", "securityContext"]

/-- Reads a container. -/
def ofJson? (j : Json) : Option Container := do
  let fields ← j.asFields?
  return {
    name := ← Json.required Json.asText? "" fields "name"
    image := ← Json.optional Json.asText? fields "image"
    command := ← Json.optional (Json.asList? Json.asText?) fields "command"
    args := ← Json.optional (Json.asList? Json.asText?) fields "args"
    env := ← Json.optional (Json.asList? EnvVar.ofJson?) fields "env"
    volumeMounts := ← Json.optional (Json.asList? VolumeMount.ofJson?) fields "volumeMounts"
    securityContext := ← Json.optional SecurityContext.ofJson? fields "securityContext"
    others := ← Shape.container.others? known fields }

/-- Writes a container. -/
def toJson (c : Container) : Json :=
  Json.ofSet [
    ("name", some (.str c.name)),
    ("image", c.image.map .str),
    ("command", c.command.map Json.ofTexts),
    ("args", c.args.map Json.ofTexts),
    ("env", c.env.map fun vs => .arr (vs.map EnvVar.toJson)),
    ("volumeMounts", c.volumeMounts.map fun ms => .arr (ms.map VolumeMount.toJson)),
    ("securityContext", c.securityContext.map SecurityContext.toJson)] c.others

end Container

namespace Volume

/-- Reads a volume; its source is kept in normal form. -/
def ofJson? (j : Json) : Option Volume := do
  let fields ← j.asFields?
  return {
    name := ← Json.required Json.asText? "" fields "name"
    source := .other (← Shape.volume.others? ["name"] fields) }

/-- Writes a volume. -/
def toJson (v : Volume) : Json :=
  match v.source with
  | .emptyDir => Json.ofSet [("name", some (.str v.name)), ("emptyDir", some (.obj []))] []
  | .claim claimName readOnly =>
    Json.ofSet [
      ("name", some (.str v.name)),
      ("persistentVolumeClaim", some (Json.ofSet [
        ("claimName", some (.str claimName)), ("readOnly", readOnly.map .bool)] []))] []
  | .configMap name =>
    Json.ofSet [
      ("name", some (.str v.name)),
      ("configMap", some (Json.ofSet [("name", some (.str name))] []))] []
  | .other fields => Json.ofSet [("name", some (.str v.name))] fields

end Volume

/-! ## Specification -/

/-- What a pod is to be. -/
structure PodSpec where
  containers : List Container := []
  restartPolicy : Option String := none
  serviceAccountName : Option String := none
  shareProcessNamespace : Option Bool := none
  /-- The group that owns the volumes of the pod. -/
  fsGroup : Option Int := none
  volumes : Option (List Volume) := none
  others : Json.Fields := []

/-- What the pods of a job are made from. -/
structure PodTemplate where
  metadata : Option ObjectMeta := none
  spec : Option PodSpec := none

/-- What a job is to do. -/
structure JobSpec where
  activeDeadlineSeconds : Option Int := none
  backoffLimit : Option Int := none
  parallelism : Option Int := none
  ttlSecondsAfterFinished : Option Int := none
  template : PodTemplate := {}
  others : Json.Fields := []

namespace PodSpec

/-- The fields with a place of their own. -/
def known : List String :=
  ["containers", "restartPolicy", "serviceAccountName", "shareProcessNamespace", "volumes"]

/-- Reads the specification of a pod; its security context is carried along whole. -/
def ofJson? (j : Json) : Option PodSpec := do
  let fields ← j.asFields?
  return {
    containers := ← Json.required (Json.asList? Container.ofJson?) [] fields "containers"
    restartPolicy := ← Json.optional Json.asText? fields "restartPolicy"
    serviceAccountName := ← Json.optional Json.asText? fields "serviceAccountName"
    shareProcessNamespace := ← Json.optional Json.asBool? fields "shareProcessNamespace"
    volumes := ← Json.optional (Json.asList? Volume.ofJson?) fields "volumes"
    others := ← Shape.podSpec.others? known fields }

/-- Writes the specification of a pod. -/
def toJson (s : PodSpec) : Json :=
  Json.ofSet [
    ("containers", some (.arr (s.containers.map Container.toJson))),
    ("restartPolicy", s.restartPolicy.map .str),
    ("serviceAccountName", s.serviceAccountName.map .str),
    ("shareProcessNamespace", s.shareProcessNamespace.map .bool),
    ("securityContext", s.fsGroup.map fun g => .obj [("fsGroup", .int g)]),
    ("volumes", s.volumes.map fun vs => .arr (vs.map Volume.toJson))] s.others

end PodSpec

namespace PodTemplate

/-- Reads a template. -/
def ofJson? (j : Json) : Option PodTemplate := do
  let fields ← j.asFields?
  return {
    metadata := ← Json.optional ObjectMeta.ofJson? fields "metadata"
    spec := ← Json.optional PodSpec.ofJson? fields "spec" }

/-- Writes a template. -/
def toJson (t : PodTemplate) : Json :=
  Json.ofSet [
    ("metadata", t.metadata.map ObjectMeta.toJson),
    ("spec", t.spec.map PodSpec.toJson)] []

end PodTemplate

namespace JobSpec

/-- The fields with a place of their own. -/
def known : List String :=
  ["activeDeadlineSeconds", "backoffLimit", "parallelism", "ttlSecondsAfterFinished", "template"]

/-- Reads the specification of a job. -/
def ofJson? (j : Json) : Option JobSpec := do
  let fields ← j.asFields?
  return {
    activeDeadlineSeconds := ← Json.optional Json.asInt64? fields "activeDeadlineSeconds"
    backoffLimit := ← Json.optional Json.asInt32? fields "backoffLimit"
    parallelism := ← Json.optional Json.asInt32? fields "parallelism"
    ttlSecondsAfterFinished := ← Json.optional Json.asInt32? fields "ttlSecondsAfterFinished"
    template := ← Json.required PodTemplate.ofJson? {} fields "template"
    others := ← Shape.jobSpec.others? known fields }

/-- Writes the specification of a job. -/
def toJson (s : JobSpec) : Json :=
  Json.ofSet [
    ("activeDeadlineSeconds", s.activeDeadlineSeconds.map .int),
    ("backoffLimit", s.backoffLimit.map .int),
    ("parallelism", s.parallelism.map .int),
    ("ttlSecondsAfterFinished", s.ttlSecondsAfterFinished.map .int),
    ("template", some s.template.toJson)] s.others

end JobSpec

/-! ## Status -/

/-- One observation about a job. -/
structure JobCondition where
  type_ : String
  status : String
  reason : Option String := none
  message : Option String := none
  lastTransitionTime : Option Instant := none
  others : Json.Fields := []

/-- What is known of the pods of a job: how many there are in each phase, when the job started and
completed, and what was observed. -/
structure JobStatus where
  active : Option Int := none
  succeeded : Option Int := none
  failed : Option Int := none
  startTime : Option Instant := none
  completionTime : Option Instant := none
  conditions : Option (List JobCondition) := none
  others : Json.Fields := []

namespace JobCondition

/-- Reads a condition. -/
def ofJson? (j : Json) : Option JobCondition := do
  let fields ← j.asFields?
  return {
    type_ := ← Json.required Json.asText? "" fields "type"
    status := ← Json.required Json.asText? "" fields "status"
    reason := ← Json.optional Json.asText? fields "reason"
    message := ← Json.optional Json.asText? fields "message"
    lastTransitionTime := ← Json.optional Instant.ofJson? fields "lastTransitionTime"
    others := ← Shape.jobCondition.others?
      ["type", "status", "reason", "message", "lastTransitionTime"] fields }

/-- Writes a condition. -/
def toJson (c : JobCondition) : Json :=
  Json.ofSet [
    ("type", some (.str c.type_)),
    ("status", some (.str c.status)),
    ("reason", c.reason.map .str),
    ("message", c.message.map .str),
    ("lastTransitionTime", c.lastTransitionTime.map fun t => .str t.secondsText)] c.others

end JobCondition

namespace JobStatus

/-- The fields with a place of their own. -/
def known : List String :=
  ["active", "succeeded", "failed", "startTime", "completionTime", "conditions"]

/-- Reads the status of a job. -/
def ofJson? (j : Json) : Option JobStatus := do
  let fields ← j.asFields?
  return {
    active := ← Json.optional Json.asInt32? fields "active"
    succeeded := ← Json.optional Json.asInt32? fields "succeeded"
    failed := ← Json.optional Json.asInt32? fields "failed"
    startTime := ← Json.optional Instant.ofJson? fields "startTime"
    completionTime := ← Json.optional Instant.ofJson? fields "completionTime"
    conditions := ← Json.optional (Json.asList? JobCondition.ofJson?) fields "conditions"
    others := ← Shape.jobStatus.others? known fields }

/-- Writes the status of a job. -/
def toJson (s : JobStatus) : Json :=
  Json.ofSet [
    ("active", s.active.map .int),
    ("succeeded", s.succeeded.map .int),
    ("failed", s.failed.map .int),
    ("startTime", s.startTime.map fun t => .str t.secondsText),
    ("completionTime", s.completionTime.map fun t => .str t.secondsText),
    ("conditions", s.conditions.map fun cs => .arr (cs.map JobCondition.toJson))] s.others

end JobStatus

/-! ## Jobs -/

/-- A job. -/
structure Job where
  metadata : ObjectMeta := {}
  spec : Option JobSpec := none
  status : Option JobStatus := none

namespace Job

/-- Reads a job. -/
def ofJson? (j : Json) : Option Job := do
  let fields ← ObjectKind.job.fields? j
  return {
    metadata := ← ObjectKind.metadata? fields
    spec := ← Json.optional JobSpec.ofJson? fields "spec"
    status := ← Json.optional JobStatus.ofJson? fields "status" }

/-- Writes a job. -/
def toJson (j : Job) : Json :=
  Json.ofSet [
    ("apiVersion", some (.str ObjectKind.job.apiVersion)),
    ("kind", some (.str ObjectKind.job.text)),
    ("metadata", some j.metadata.toJson),
    ("spec", j.spec.map JobSpec.toJson),
    ("status", j.status.map JobStatus.toJson)] []

/-- The number of pods of a job that run, zero if it is not known. -/
def activePods (j : Job) : Int := (j.status.bind (·.active)).getD 0

/-- The number of pods of a job that succeeded, zero if it is not known. -/
def succeededPods (j : Job) : Int := (j.status.bind (·.succeeded)).getD 0

/-- The number of pods of a job that failed, zero if it is not known. -/
def failedPods (j : Job) : Int := (j.status.bind (·.failed)).getD 0

/-- Does the job run? -/
def isActive (j : Job) : Bool := 0 < j.activePods

end Job

end BuildYard
