import BuildYard.Object.Meta
/-!
# Pods

Of a pod the build yard looks at the metadata and at the status: the phase, and the state of every
container. The other parts are checked when a pod is read, and then dropped.
-/

namespace BuildYard

/-- A container that runs. -/
structure RunningState where
  startedAt : Option Instant := none

/-- A container that does not run yet. -/
structure WaitingState where
  reason : Option String := none
  message : Option String := none

/-- A container that has ended. -/
structure TerminatedState where
  exitCode : Int := 0
  reason : Option String := none
  message : Option String := none
  finishedAt : Option Instant := none

/-- The state of a container as reported; at most one of the three should be set. -/
structure ReportedState where
  running : Option RunningState := none
  waiting : Option WaitingState := none
  terminated : Option TerminatedState := none

/-- The status of one container of a pod as reported. -/
structure ContainerStatus where
  name : String := ""
  ready : Bool := false
  restartCount : Int := 0
  started : Option Bool := none
  state : Option ReportedState := none
  lastState : Option ReportedState := none

/-- The status of a pod. -/
structure PodStatus where
  phase : Option String := none
  reason : Option String := none
  podIp : Option String := none
  startTime : Option Instant := none
  containerStatuses : Option (List ContainerStatus) := none
  initContainerStatuses : Option (List ContainerStatus) := none

/-- A pod. -/
structure Pod where
  metadata : ObjectMeta := {}
  status : Option PodStatus := none

/-- Reads a state. -/
def ReportedState.ofJson? (j : Json) : Option ReportedState := do
  let fields ← j.asFields?
  let running (j : Json) : Option RunningState := do
    let fields ← j.asFields?
    return { startedAt := ← Json.optional Instant.ofJson? fields "startedAt" }
  let waiting (j : Json) : Option WaitingState := do
    let fields ← j.asFields?
    return {
      reason := ← Json.optional Json.asText? fields "reason"
      message := ← Json.optional Json.asText? fields "message" }
  let terminated (j : Json) : Option TerminatedState := do
    let fields ← j.asFields?
    return {
      exitCode := ← Json.required Json.asInt32? 0 fields "exitCode"
      reason := ← Json.optional Json.asText? fields "reason"
      message := ← Json.optional Json.asText? fields "message"
      finishedAt := ← Json.optional Instant.ofJson? fields "finishedAt" }
  return {
    running := ← Json.optional running fields "running"
    waiting := ← Json.optional waiting fields "waiting"
    terminated := ← Json.optional terminated fields "terminated" }

/-- Reads the status of a container. -/
def ContainerStatus.ofJson? (j : Json) : Option ContainerStatus := do
  let _ ← Shape.containerStatus.normal? j
  let fields ← j.asFields?
  return {
    name := ← Json.required Json.asText? "" fields "name"
    ready := ← Json.required Json.asBool? false fields "ready"
    restartCount := ← Json.required Json.asInt32? 0 fields "restartCount"
    started := ← Json.optional Json.asBool? fields "started"
    state := ← Json.optional ReportedState.ofJson? fields "state"
    lastState := ← Json.optional ReportedState.ofJson? fields "lastState" }

/-- Reads the status of a pod. -/
def PodStatus.ofJson? (j : Json) : Option PodStatus := do
  let _ ← Shape.podStatus.normal? j
  let fields ← j.asFields?
  let containers (name : String) : Option (Option (List ContainerStatus)) :=
    Json.optional (Json.asList? ContainerStatus.ofJson?) fields name
  return {
    phase := ← Json.optional Json.asText? fields "phase"
    reason := ← Json.optional Json.asText? fields "reason"
    podIp := ← Json.optional Json.asText? fields "podIP"
    startTime := ← Json.optional Instant.ofJson? fields "startTime"
    containerStatuses := ← containers "containerStatuses"
    initContainerStatuses := ← containers "initContainerStatuses" }

/-- Reads a pod. -/
def Pod.ofJson? (j : Json) : Option Pod := do
  let fields ← ObjectKind.pod.fields? j
  let _ ← Json.optional Shape.podSpec.normal? fields "spec"
  return {
    metadata := ← ObjectKind.metadata? fields
    status := ← Json.optional PodStatus.ofJson? fields "status" }

end BuildYard
