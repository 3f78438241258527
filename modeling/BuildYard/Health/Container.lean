import BuildYard.Object.Pod
import BuildYard.Text.Blank
/-!
# The health of a container

What the reported status of one container says about it. A crash loop shows as such only while the
next restart is put off, so a container that keeps crashing can look as if it ran; many restarts
together with a last run that failed give it away.
-/

namespace BuildYard

/-- The state of a container. The first three are reported; the others are derived from what is
reported. -/
inductive ContainerState where
  | running
  | waiting
  | terminated
  | notReady
  | crashing
  | imagePullError
  | starting
  | terminating
  deriving DecidableEq, Repr

/-- What a state is called. -/
def ContainerState.text : ContainerState → String
  | .running => "Running"
  | .waiting => "Waiting"
  | .terminated => "Terminated"
  | .notReady => "NotReady"
  | .crashing => "Crashing"
  | .imagePullError => "ImagePullError"
  | .starting => "Starting"
  | .terminating => "Terminating"

/-- One container at one time. -/
structure Instance where
  name : String
  ready : Bool
  restartCount : Int
  /-- Running, waiting or terminated. -/
  state : ContainerState
  derivedState : ContainerState
  stateReason : Option String
  stateMessage : Option String
  lastExitCode : Option Int
  lastTermination : Option String
  isCrashing : Bool
  crashLoopReason : Option String
  deriving DecidableEq

/-- An instance as it is given to callers. -/
def Instance.toJson (i : Instance) : Json :=
  .obj [
    ("name", .str i.name),
    ("ready", .bool i.ready),
    ("restartCount", .int i.restartCount),
    ("state", .str i.state.text),
    ("derivedState", .str i.derivedState.text),
    ("stateReason", Json.ofText? i.stateReason),
    ("stateMessage", Json.ofText? i.stateMessage),
    ("lastExitCode", Json.ofInt? i.lastExitCode),
    ("lastTermination", Json.ofText? i.lastTermination),
    ("isCrashing", .bool i.isCrashing),
    ("crashLoopReason", Json.ofText? i.crashLoopReason)]

namespace Health

open Text (nonEmpty)

/-- More restarts than this, with a last run that failed, count as crashing. -/
def restartThreshold : Int := 3

/-- The reason of a container that waits because it crashed. -/
def crashLoopBackOff : String := "CrashLoopBackOff"

/-- The reasons of containers whose image cannot be had. -/
def imagePullReasons : List String := ["ImagePullBackOff", "ErrImagePull", "InvalidImageName"]

/-- The reasons of containers that are being set up. -/
def startingReasons : List String := ["ContainerCreating", "PodInitializing"]

/-- Are two texts equal up to the case of ASCII letters? -/
def sameIgnoringCase (a b : String) : Bool := a.toList.map Char.toLower = b.toList.map Char.toLower

/-- A number in decimal digits. -/
def number (i : Int) : String := String.ofList (Text.signedDecimal i)

/-- The end of a run in one line: the exit code, then whatever else is known. -/
def terminationSummary (t : TerminatedState) : String :=
  let part (label : String) (value : Option String) : String :=
    match value with
    | some v => ", " ++ label ++ ": " ++ v
    | none => ""
  "Exit code: " ++ number t.exitCode ++ part "reason" (nonEmpty t.reason) ++
    part "message" (nonEmpty t.message) ++
    part "finished at" (t.finishedAt.map Instant.offsetText)

/-! ## The current state -/

/-- The one state that counts among those reported: running, else waiting, else terminated. -/
inductive CurrentState where
  | running
  | waiting (w : WaitingState)
  | terminated (t : TerminatedState)
  | unreported

/-- The state that counts. -/
def CurrentState.of (c : ContainerStatus) : CurrentState :=
  match c.state with
  | none => .unreported
  | some s =>
    if s.running.isSome then .running
    else match s.waiting, s.terminated with
      | some w, _ => .waiting w
      | none, some t => .terminated t
      | none, none => .unreported

/-- The end of the run before the current one. -/
def lastEnd? (c : ContainerStatus) : Option TerminatedState := c.lastState.bind (·.terminated)

/-- Does the container wait because it crashed? -/
def waitsToRestart (w : WaitingState) : Bool := w.reason.any (sameIgnoringCase · crashLoopBackOff)

/-- Does the restart rule apply: many restarts, and a last run that failed? -/
def restartsTooOften (c : ContainerStatus) : Option TerminatedState :=
  (lastEnd? c).filter fun t => restartThreshold < c.restartCount && t.exitCode ≠ 0

/-- Does the current state by itself show a crash? -/
def currentCrash : CurrentState → Bool
  | .waiting w => waitsToRestart w
  | .terminated t => t.exitCode ≠ 0
  | .running | .unreported => false

/-- What the current state says about a crash. -/
def currentCrashReason : CurrentState → Option String
  | .waiting w => if waitsToRestart w then nonEmpty w.message else none
  | .terminated t =>
    if t.exitCode ≠ 0 then
      some ("Terminated with exit code: " ++ number t.exitCode ++ ", reason: " ++ t.reason.getD "")
    else none
  | .running | .unreported => none

/-- What the restart rule says about a crash. -/
def restartReason (c : ContainerStatus) : Option String :=
  (restartsTooOften c).map fun t =>
    "Container restarted " ++ number c.restartCount ++ " times, last exit code: " ++
      number t.exitCode

/-- Whether a container crashes, and why, as far as it is known. -/
structure Verdict where
  crashing : Bool
  reason : Option String

/-- What the current state says. -/
def Verdict.byCurrent (s : CurrentState) : Verdict := ⟨currentCrash s, currentCrashReason s⟩

/-- The restart rule, which is left out where a reason is known already. -/
def Verdict.byRestarts (c : ContainerStatus) (v : Verdict) : Verdict :=
  match v.reason, restartReason c with
  | none, some reason => ⟨true, some reason⟩
  | _, _ => v

/-- The rules, one after the other. -/
def Verdict.of (c : ContainerStatus) : Verdict := .byRestarts c (.byCurrent (.of c))

/-- Is the container crashing? -/
def isCrashing (c : ContainerStatus) : Bool := (Verdict.of c).crashing

/-- Why the container is said to be crashing. -/
def crashLoopReason (c : ContainerStatus) : Option String := (Verdict.of c).reason

/-- The reported state. -/
def CurrentState.state : CurrentState → ContainerState
  | .running => .running
  | .waiting _ | .unreported => .waiting
  | .terminated _ => .terminated

/-- The reason of the current state. -/
def CurrentState.reason : CurrentState → Option String
  | .waiting w => w.reason
  | .terminated t => t.reason
  | .running | .unreported => none

/-- The message of the current state. -/
def CurrentState.message : CurrentState → Option String
  | .waiting w => w.message
  | .terminated t => t.message
  | .running | .unreported => none

/-- The exit code of the current state. -/
def CurrentState.exitCode : CurrentState → Option Int
  | .terminated t => some t.exitCode
  | .running | .waiting _ | .unreported => none

/-- The derived state of a container that is not crashing. -/
def calmState (current : CurrentState) (started : Option Bool) (ready : Bool) : ContainerState :=
  let reason := current.reason.getD ""
  match current with
  | .running =>
    if started = some false then .starting else if !ready then .notReady else .running
  | .waiting _ | .unreported =>
    if imagePullReasons.contains reason then .imagePullError
    else if startingReasons.contains reason then .starting
    else .waiting
  | .terminated _ => .terminated

/-- What the reported status of a container says about it. A crashing container is not ready. -/
def instanceOf (c : ContainerStatus) : Instance :=
  let current := CurrentState.of c
  let crashing := isCrashing c
  let ready := c.ready && !crashing
  { name := c.name
    ready
    restartCount := c.restartCount
    state := current.state
    derivedState := if crashing then .crashing else calmState current c.started ready
    stateReason := current.reason
    stateMessage := current.message
    lastExitCode := current.exitCode.or ((lastEnd? c).map (·.exitCode))
    lastTermination := (lastEnd? c).map terminationSummary
    isCrashing := crashing
    crashLoopReason := crashLoopReason c }

end Health

end BuildYard
