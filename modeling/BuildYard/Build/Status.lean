import BuildYard.Object.Job
import BuildYard.Object.Pod
import BuildYard.Text.Blank
import BuildYard.Time.Span
/-!
# The status of a build

What a job and its pods say about a build: whether it is pending, runs, has succeeded or has failed,
why it failed, and when. Success counts before failure and failure before running.

The reason of a failure comes from the first of three tiers that has one: a condition of the job, a
container that ended with a code other than zero, a pod in phase `Failed`.
-/

namespace BuildYard

/-- Where a build is in its life. -/
inductive BuildPhase where
  | pending
  | running
  | succeeded
  | failed
  deriving DecidableEq, Repr

/-- What a phase is called. -/
def BuildPhase.text : BuildPhase → String
  | .pending => "Pending"
  | .running => "Running"
  | .succeeded => "Succeeded"
  | .failed => "Failed"

/-- Is this the end of a build's life? -/
def BuildPhase.isTerminal : BuildPhase → Bool
  | .succeeded | .failed => true
  | .pending | .running => false

/-- The status of a build. -/
structure BuildStatus where
  phase : BuildPhase
  /-- Empty unless the build failed. -/
  failureReason : String := ""
  startTime : Option Instant := none
  completedTime : Option Instant := none
  failedTime : Option Instant := none
  deriving DecidableEq

/-- The status as it is given to callers. -/
def BuildStatus.toJson (s : BuildStatus) : Json :=
  let time (t : Option Instant) : Json := Json.ofText? (t.map Instant.isoText)
  .obj [
    ("conditionType", .str s.phase.text),
    ("failureReason", .str s.failureReason),
    ("startTime", time s.startTime),
    ("completedTime", time s.completedTime),
    ("failedTime", time s.failedTime)]

namespace Build

open Text (nonEmpty)

/-- The reason that is given when nothing explains a failure. -/
def unknownFailure : String := "Unknown failure reason"

/-! ## Why a build failed -/

/-- Does a condition say that the job failed? -/
def saysFailed (c : JobCondition) : Bool := c.type_ == "Failed" && c.status == "True"

/-- The first condition that says that the job failed. -/
def failedCondition? (job : Job) : Option JobCondition := do
  (← (← job.status).conditions).find? saysFailed

/-- What a condition gives as the reason. -/
def conditionReason (c : JobCondition) : String :=
  c.reason.getD "" ++ ": " ++ c.message.getD ""

/-- How a container ended, if it ended with a code other than zero. -/
def failedExit? (c : ContainerStatus) : Option TerminatedState := do
  let ended ← (← c.state).terminated
  if ended.exitCode ≠ 0 then some ended else none

/-- What the end of a container gives as the reason. -/
def exitReason (container : String) (ended : TerminatedState) : String :=
  let reason := (nonEmpty ended.reason).getD "Error"
  let detail := match nonEmpty ended.message with
    | some message => reason ++ ": " ++ message
    | none => reason
  detail ++ " (Container: " ++ container ++ ", Exit Code: " ++
    String.ofList (Text.signedDecimal ended.exitCode) ++ ")"

/-- The regular containers of a pod. -/
def containersOf (pod : Pod) : List ContainerStatus :=
  (pod.status.bind (·.containerStatuses)).getD []

/-- The reason from the first container of a pod that ended with a code other than zero. -/
def podExitReason? (pod : Pod) : Option String :=
  (containersOf pod).findSome? fun c => (failedExit? c).map (exitReason c.name)

/-- The reason from a pod in phase `Failed`. -/
def podPhaseReason? (pod : Pod) : Option String := do
  let status ← pod.status
  if status.phase = some "Failed" then some ("Pod failed: " ++ status.reason.getD "") else none

/-- The reason that pods give, one after the other, where `fallback` is that of the first pod in phase
`Failed` among those before them. A container that failed is a reason at once. -/
def podsReasonFrom? (fallback : Option String) : List Pod → Option String
  | [] => fallback
  | pod :: pods =>
    match podExitReason? pod with
    | some reason => some reason
    | none => podsReasonFrom? (fallback.or (podPhaseReason? pod)) pods

/-- The reason that the pods give. -/
def podsReason? (pods : List Pod) : Option String := podsReasonFrom? none pods

/-- The reason of a failure: what the condition says, or else what the pods say. -/
def failureReason (job : Job) (pods : List Pod) : String :=
  match nonEmpty ((failedCondition? job).map conditionReason) with
  | some reason => reason
  | none => (podsReason? pods).getD unknownFailure

/-! ## When a build failed -/

/-- The time at which a job runs into its deadline, if its start and its deadline are known and the
time can be represented. -/
def deadline? (job : Job) : Option Instant := do
  let start ← (← job.status).startTime
  let seconds ← (← job.spec).activeDeadlineSeconds
  start.add? (← Span.ofSeconds? seconds)

/-- The time of a failure: that of the condition, or the deadline, or now. -/
def failedTime (job : Job) (now : Instant) : Instant :=
  (((failedCondition? job).bind (·.lastTransitionTime)).or (deadline? job)).getD now

/-! ## The status -/

/-- The status of the build that a job runs, at a time. -/
def statusOf (job : Job) (pods : List Pod) (now : Instant) : BuildStatus :=
  let startTime := job.status.bind (·.startTime)
  if 0 < job.succeededPods then
    { phase := .succeeded
      startTime
      completedTime := some ((job.status.bind (·.completionTime)).getD now) }
  else if 0 < job.failedPods then
    { phase := .failed
      failureReason := failureReason job pods
      startTime
      failedTime := some (failedTime job now) }
  else if job.isActive then { phase := .running, startTime := some (startTime.getD now) }
  else { phase := .pending }

/-- Are the pods needed for the status? Only a failure that no condition explains needs them. -/
def needsPods (job : Job) : Bool :=
  0 < job.failedPods && !(0 < job.succeededPods) && (failedCondition? job).isNone

end Build

end BuildYard
