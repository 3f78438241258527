import BuildYard.Build.Manifest
import BuildYard.Cli.Arguments
import BuildYard.Word
/-!
# Commands

What the program can be asked to do on its command line, and how a command line is read.
-/

namespace BuildYard.Cli

/-- What is said of a build on the command line. -/
structure BuildArguments where
  serviceId : String
  /-- A fresh id if none is given. -/
  jobId : Option String := none
  /-- The variables in the order in which they were given. -/
  env : List (String × String) := []
  triggerSource : String := "manual"
  deriving DecidableEq, Repr

/-- The commands that need a cluster. -/
inductive ClusterCommand where
  /-- Answer HTTP requests. -/
  | serve
  /-- Cancel the builds of a service that run and start one. -/
  | submit (build : BuildArguments) (wait : Bool) (intervalSeconds : Nat)
  /-- Show the status of a build. -/
  | status (jobName : String)
  /-- Cancel the builds of a service that run. -/
  | cancel (serviceId : String)
  /-- Show the health of the pods behind a selector, or each of the pods. -/
  | health (ns selector : String) (pods : Bool)
  deriving DecidableEq, Repr

/-- The commands. -/
inductive Command where
  /-- Show the job of a build without starting it. -/
  | renderJob (build : BuildArguments)
  | onCluster (command : ClusterCommand)
  deriving DecidableEq, Repr

/-- The request for a build; of two variables with one name the later counts. -/
def BuildArguments.toRequest (b : BuildArguments) (freshId : String) : BuildRequest where
  serviceId := b.serviceId
  jobId := b.jobId.getD freshId
  env := SortedMap.ofList b.env
  triggerSource := b.triggerSource

/-! ## Values -/

/-- The name and the value of a variable, cut at the first equals sign; the name is not empty. -/
def envPair? (raw : String) : Option (String × String) :=
  match Text.cutAt? ['='] raw.toList with
  | some ([], _) | none => none
  | some (name, value) => some (String.ofList name, String.ofList value)

/-- A number that fits an unsigned 64-bit word, with a plus sign in front if one likes. -/
def count? (raw : String) : Option Nat :=
  let digits := match raw.toList with
    | '+' :: rest => rest
    | cs => cs
  (Text.ofDecimal? digits).filter (· < wordSize 64)

/-! ## Usage -/

/-- A value of any kind, once. -/
def anyText : OptionForm := .single fun _ => true

/-- The options that describe a build. -/
def buildOptions : List (String × OptionForm) := [
  ("service-id", anyText),
  ("job-id", anyText),
  ("env", .repeated fun raw => (envPair? raw).isSome),
  ("trigger-source", anyText)]

/-- The names of the commands with the words that they take. -/
def usages : List (String × Usage) := [
  ("serve", {}),
  ("submit", { options := buildOptions ++ [
    ("wait", .switch),
    ("interval-secs", .single fun raw => (count? raw).isSome)] }),
  ("status", { operands := 1 }),
  ("cancel", { operands := 1 }),
  ("health", { options := [("namespace", anyText), ("selector", anyText), ("pods", .switch)] }),
  ("render-job", { options := buildOptions })]

/-- How often a build is looked at unless something else is said, in seconds. -/
def defaultInterval : Nat := 5

/-- The description of a build, if the service is given. -/
def buildArguments? (g : Given) : Option BuildArguments := do
  return {
    serviceId := ← g.value? "service-id"
    jobId := g.value? "job-id"
    env := (g.valuesOf "env").filterMap envPair?
    triggerSource := (g.value? "trigger-source").getD "manual" }

/-- The command of a name with what was given to it, if nothing is missing. -/
def command? (name : String) (g : Given) : Option Command :=
  match name with
  | "serve" => some (.onCluster .serve)
  | "submit" => do
    let interval := ((g.value? "interval-secs").bind count?).getD defaultInterval
    return .onCluster (.submit (← buildArguments? g) (g.has "wait") interval)
  | "status" => do return .onCluster (.status (← g.operands.head?))
  | "cancel" => do return .onCluster (.cancel (← g.operands.head?))
  | "health" => do
    return .onCluster
      (.health (← g.value? "namespace") (← g.value? "selector") (g.has "pods"))
  | "render-job" => do return .renderJob (← buildArguments? g)
  | _ => none

/-- Do these words, after the word for help, name something that there is help for? That is the
program as a whole, or one command; the word for help is a command too. -/
def areTopics : List String → Bool
  | [] => true
  | [word] => word = "help" || (usages.lookup word).isSome
  | _ => false

/-- The command that the words of a command line stand for. -/
def Command.read : List String → Except Stop Command
  | [] => .error .misused
  | "help" :: topics => .error (if areTopics topics then .help else .misused)
  | name :: words =>
    match usages.lookup name with
    | none => do
      let _ ← ({} : Usage).read {} [name]
      .error .misused
    | some usage => do
      match command? name (← usage.read {} words) with
      | some command => .ok command
      | none => .error .misused

end BuildYard.Cli
