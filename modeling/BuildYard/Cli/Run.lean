import BuildYard.Build.Dispatch
import BuildYard.Build.Tracking
import BuildYard.Cli.Command
import BuildYard.Health.Workload
import BuildYard.Yaml.Printer
/-!
# Runs of the program

A run reads its arguments, then its settings, then connects to a cluster if the command needs one,
and then carries the command out. Each step that fails ends the run.
-/

namespace BuildYard.Cli

/-- What a run has printed, and the failure it ended with. -/
structure Report where
  stdout : String := ""
  failure : Option String := none
  deriving DecidableEq, Repr

namespace Report

/-- A run that ended with a failure. -/
def failed (f : Failure) : Report := { failure := some f.message }

/-- A run that ended with what an operation came to. -/
def ofResult {α : Type} (print : α → String) : Except Failure α → Report
  | .ok a => { stdout := print a }
  | .error f => failed f

/-- The exit code. -/
def exitCode (r : Report) : Nat := if r.failure.isSome then 1 else 0

end Report

/-- How a run ended. -/
inductive Ending where
  /-- The arguments were not understood. -/
  | misused
  /-- Help was given. -/
  | helped
  /-- A command was carried out, or failed. -/
  | ran (report : Report)

/-- The exit code of a run. -/
def Ending.exitCode : Ending → Nat
  | .misused => 2
  | .helped => 0
  | .ran report => report.exitCode

/-- What the program finds around it. -/
structure Surroundings (σ : Type) where
  environment : String → Option String
  /-- The cluster, if it can be connected to. -/
  cluster : Option σ
  now : Instant
  /-- An id that no job has yet. -/
  freshId : String
  /-- What happens before each look at a build that is waited for. -/
  between : Nat → Session σ → Session σ := fun _ s => s

/-! ## Commands -/

/-- A value on lines of its own. -/
def printed (j : Json) : String := j.pretty ++ "\n"

/-- How long a build is waited for at most, in milliseconds: a minute longer than it may take. -/
def longestWait : Nat := (Build.secondsAllowed.toNat + 60) * 1000

/-- Looking every so many seconds, at least one. -/
def patience (intervalSeconds : Nat) : Build.Patience :=
  .of (max intervalSeconds 1 * 1000) longestWait (by omega)

/-- The report on a build that was waited for. -/
def awaitedReport (jobName : String) : Except Failure BuildStatus → Report
  | .error f => .failed f
  | .ok status =>
    { stdout := printed status.toJson
      failure :=
        if status.phase = .failed then
          some ("build " ++ jobName ++ " failed: " ++ status.failureReason)
        else none }

/-- Why an address cannot be listened on, if its form tells. -/
def addressFault? (address : String) : Option String :=
  let port := (address.toList.reverse.takeWhile (· ≠ ':')).reverse
  if !address.toList.contains ':' then some "invalid socket address"
  else if (port? (String.ofList port)).isNone then some "invalid port value"
  else none

/-- The job of a build, made without starting it. -/
def renderedJob (settings : Settings) (request : BuildRequest) (now : Instant) : Job :=
  Build.manifest request (Build.jobName request now) now settings

/-- The job of a build as a document. -/
def rendered (settings : Settings) (request : BuildRequest) (now : Instant) : String :=
  Yaml.text (renderedJob settings request now).toJson

section Clustered

variable {σ : Type} [Cluster σ]

/-- Reports on an operation. -/
def report {α : Type} (print : α → String) (operation : Attempt (Session σ) α) (s : Session σ) :
    Report × Session σ :=
  let (r, s') := operation.outcome s
  (.ofResult print r, s')

/-- Starts a build, and waits for its end if asked to. -/
def submission (settings : Settings) (request : BuildRequest) (wait : Bool) (intervalSeconds : Nat)
    (between : Nat → Session σ → Session σ) (s : Session σ) : Report × Session σ :=
  match (Build.submit settings request).outcome s with
  | (.error f, s') => (.failed f, s')
  | (.ok jobName, s') =>
    let line := jobName ++ "\n"
    if wait then
      let (awaited, s'') :=
        Build.await settings.namespace_ jobName (patience intervalSeconds) between s'
      let after := awaitedReport jobName awaited.result
      ({ after with stdout := line ++ after.stdout }, s'')
    else ({ stdout := line }, s')

/-- Carries out a command over a cluster. -/
def ClusterCommand.run (settings : Settings) (freshId : String)
    (between : Nat → Session σ → Session σ) (s : Session σ) :
    ClusterCommand → Report × Session σ
  | .serve =>
    match addressFault? settings.serverAddress with
    | some fault => (.failed ⟨.io, fault⟩, s)
    | none => ({}, s)
  | .submit build wait intervalSeconds =>
    submission settings (build.toRequest freshId) wait intervalSeconds between s
  | .status jobName =>
    report (fun status => printed status.toJson) (Build.status settings.namespace_ jobName) s
  | .cancel serviceId =>
    report (fun names => String.join (names.map (· ++ "\n"))) (Build.cancel settings serviceId) s
  | .health ns selector pods =>
    match Selector.parse selector with
    | .error f => (.failed f, s)
    | .ok selector =>
      if pods then
        report (fun views => printed (.arr (views.map PodView.toJson)))
          (Health.aggregate ns selector) s
      else report (fun summary => printed summary.toJson) (Health.simpleHealth ns selector) s

/-- Carries out a command. -/
def Command.run (settings : Settings) (around : Surroundings σ) : Command → Report × Option σ
  | .renderJob build =>
    ({ stdout := rendered settings (build.toRequest around.freshId) around.now }, around.cluster)
  | .onCluster command =>
    match around.cluster with
    | none => ({ failure := some "failed to connect to Kubernetes" }, none)
    | some cluster =>
      let (r, s) :=
        command.run settings around.freshId around.between { cluster, now := around.now }
      (r, some s.cluster)

/-- A run of the program, and the cluster after it. -/
def run (arguments : List String) (around : Surroundings σ) : Ending × Option σ :=
  match Command.read arguments with
  | .error .misused => (.misused, around.cluster)
  | .error .help => (.helped, around.cluster)
  | .ok command =>
    match Settings.load around.environment with
    | .error _ => (.ran { failure := some "failed to load configuration" }, around.cluster)
    | .ok settings =>
      let (r, cluster) := command.run settings around
      (.ran r, cluster)

end Clustered

end BuildYard.Cli
