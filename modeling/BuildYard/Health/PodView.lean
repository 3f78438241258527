import BuildYard.Health.Container
import BuildYard.Label.Build
/-!
# The health of pods

What a pod says about its containers, and the roll-up of many containers into one word. Crashes
dominate: a workload that has all its instances but crashes is unhealthy.
-/

namespace BuildYard

/-- One pod and its containers. -/
structure PodView where
  name : String
  namespace_ : String
  phase : String
  podIp : Option String
  startTime : Option Instant
  hasCrashingInstances : Bool
  instances : List Instance
  /-- The init containers. -/
  instanceDependencies : List Instance
  correlation : Correlation
  deriving DecidableEq

/-- A pod as it is given to callers. -/
def PodView.toJson (p : PodView) : Json :=
  .obj [
    ("name", .str p.name),
    ("namespace", .str p.namespace_),
    ("phase", .str p.phase),
    ("podIp", Json.ofText? p.podIp),
    ("startTime", Json.ofText? (p.startTime.map Instant.isoText)),
    ("hasCrashingInstances", .bool p.hasCrashingInstances),
    ("instances", .arr (p.instances.map Instance.toJson)),
    ("instanceDependencies", .arr (p.instanceDependencies.map Instance.toJson)),
    ("teamId", Json.ofText? p.correlation.teamId),
    ("projectId", Json.ofText? p.correlation.projectId),
    ("environmentId", Json.ofText? p.correlation.environmentId),
    ("serviceId", Json.ofText? p.correlation.serviceId)]

/-- The health of a workload. -/
inductive Health where
  | healthy
  | degraded
  | unhealthy
  deriving DecidableEq, Repr

/-- What a health is called. -/
def Health.text : Health → String
  | .healthy => "healthy"
  | .degraded => "degraded"
  | .unhealthy => "unhealthy"

/-- The health of a workload with what it was computed from. -/
structure HealthSummary where
  health : Health
  expectedInstances : Int
  instances : List Instance
  deriving DecidableEq

/-- A summary as it is given to callers. -/
def HealthSummary.toJson (s : HealthSummary) : Json :=
  .obj [
    ("health", .str s.health.text),
    ("expectedInstances", .int s.expectedInstances),
    ("instances", .arr (s.instances.map Instance.toJson))]

namespace Health

/-- A container of a pod; a pod that is being deleted has no container that just runs or waits. -/
def podInstance (terminating : Bool) (c : ContainerStatus) : Instance :=
  let i := instanceOf c
  if terminating && !i.isCrashing then { i with derivedState := .terminating } else i

/-- What a pod says about its containers. -/
def podView (pod : Pod) : PodView :=
  let terminating := pod.metadata.deletionTimestamp.isSome
  let instances (statuses : Option (List ContainerStatus)) : List Instance :=
    (statuses.getD []).map (podInstance terminating)
  let regular := instances (pod.status.bind (·.containerStatuses))
  let initial := instances (pod.status.bind (·.initContainerStatuses))
  { name := pod.metadata.anyName
    namespace_ := pod.metadata.namespace_.getD ""
    phase := (pod.status.bind (·.phase)).getD ""
    podIp := pod.status.bind (·.podIp)
    startTime := pod.status.bind (·.startTime)
    hasCrashingInstances := (regular ++ initial).any (·.isCrashing)
    instances := regular
    instanceDependencies := initial
    correlation := Correlation.ofLabels pod.metadata.labelMap }

/-- The health of a workload that has some of the instances it should have. -/
def rollup (hasCrashing : Bool) (running expected : Int) : Health :=
  if hasCrashing then .unhealthy
  else if running < expected then .degraded
  else .healthy

section Rollup

variable {hasCrashing : Bool} {running expected : Int}

theorem rollup_eq_unhealthy_iff :
    rollup hasCrashing running expected = .unhealthy ↔ hasCrashing = true := by
  cases hasCrashing with
  | true => simp [rollup]
  | false => by_cases hless : running < expected <;> simp [rollup, hless]

theorem rollup_eq_degraded_iff :
    rollup hasCrashing running expected = .degraded ↔
      hasCrashing = false ∧ running < expected := by
  cases hasCrashing with
  | true => simp [rollup]
  | false => by_cases hless : running < expected <;> simp [rollup, hless]

theorem rollup_eq_healthy_iff :
    rollup hasCrashing running expected = .healthy ↔
      hasCrashing = false ∧ expected ≤ running := by
  cases hasCrashing with
  | true => simp [rollup]
  | false =>
    by_cases hless : running < expected
    · simp [rollup, hless]
    · simp [rollup, hless, Int.not_lt.1 hless]

end Rollup

/-- The roll-up of a count held in a 64-bit word; the word is read as a signed one, so counts from
`2 ^ 63` on are negative. -/
def rollupWord (hasCrashing : Bool) (running : UInt64) (expected : Int) : Health :=
  rollup hasCrashing running.toInt64.toInt expected

/-- The summary of the pods of a workload that should have `expected` instances. -/
def summary (pods : List PodView) (expected : Int) : HealthSummary :=
  let instances := pods.flatMap (·.instances)
  { health := rollup (pods.any (·.hasCrashingInstances)) instances.length expected
    expectedInstances := expected
    instances }

/-- The summary where there are no pods. -/
def noPods : HealthSummary := ⟨.unhealthy, 0, []⟩

end Health

end BuildYard
