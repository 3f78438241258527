import BuildYard.Label.Build
import BuildYard.Object.Job
import BuildYard.Settings
/-!
# The job of a build

A build runs as a job with one pod of three containers: the builder, the build daemon it talks to,
and a monitor that stops the daemon when the builder has ended. `manifest` makes the job from the
request, its name, the time and the settings; nothing else goes in.
-/

namespace BuildYard

/-- What a caller asks to have built. -/
structure BuildRequest where
  serviceId : String
  jobId : String
  /-- The variables that the caller gives to the builder. -/
  env : SortedMap String String := .empty
  /-- What made the caller ask. -/
  triggerSource : String := "manual"
  deriving DecidableEq

namespace Build

/-! ## Fixed values -/

/-- A finished job is removed after this many seconds. -/
def secondsKept : Int := 300

/-- A failed pod is not replaced. -/
def backoffLimit : Int := 0

/-- One pod runs at a time. -/
def parallelism : Int := 1

/-- A job that is active for this many seconds fails. -/
def secondsAllowed : Int := 1200

/-- The address of the build daemon inside the pod. -/
def daemonAddress : String := "tcp://localhost:1234"

def builderName : String := "build-container"

def daemonName : String := "buildkit-daemon"

def monitorName : String := "cleanup-monitor"

/-- The annotation that tells what made the caller ask. -/
def triggerSourceKey : String := "unbind-deployment-trigger-source"

/-- The annotation that tells when the build was asked for. -/
def triggeredAtKey : String := "unbind-deployment-triggered-at"

def socketVolume : String := "buildkit-socket"

def socketPath : String := "/run/buildkit"

def cacheVolume : String := "buildkit-cache"

def cachePath : String := "/home/user/.local/share/buildkit"

def configVolume : String := "buildkit-config"

def configPath : String := "/home/user/.config/buildkit"

/-! ## Scripts -/

/-- A script of these lines. -/
def script (lines : List String) : String := String.join (lines.map (· ++ "\n"))

/-- Waits until the daemon answers, then becomes the builder. -/
def builderScript : String := script [
  "until buildctl --addr tcp://localhost:1234 debug workers >/dev/null 2>&1; do",
  "  echo \"waiting for buildkitd\"",
  "  sleep 1",
  "done",
  "exec /app/builder"]

/-- Runs the daemon; the daemon ends with code 1 when it is told to stop, which counts as a clean
end. -/
def daemonScript : String := script [
  "shutdown() \x7b",
  "  kill -TERM \"$pid\" 2>/dev/null",
  "  wait \"$pid\"",
  "  code=$?",
  "  if [ \"$code\" -eq 1 ]; then",
  "    exit 0",
  "  fi",
  "  exit \"$code\"",
  "\x7d",
  "trap shutdown TERM",
  "rootlesskit buildkitd \\",
  "  --oci-worker-no-process-sandbox \\",
  "  --addr unix:///run/buildkit/buildkitd.sock \\",
  "  --addr tcp://0.0.0.0:1234 &",
  "pid=$!",
  "wait \"$pid\""]

/-- Waits for the builder to start and to end, then stops the daemon. It looks for processes by
their exact name, for which the containers of the pod have to see each other's processes. -/
def monitorScript : String := script [
  "until pgrep -x builder >/dev/null; do",
  "  sleep 1",
  "done",
  "echo \"builder started\"",
  "while pgrep -x builder >/dev/null; do",
  "  sleep 2",
  "done",
  "echo \"builder exited, stopping buildkitd\"",
  "pkill -TERM -x buildkitd || true",
  "sleep 5",
  "pkill -KILL -x buildkitd || true"]

/-! ## Containers -/

/-- A variable with a value. -/
def variable_ (name value : String) : EnvVar := { name, value := some value }

/-- A container that runs a script. -/
def scripted (name image script : String) : Container :=
  { name, image := some image, command := some ["/bin/sh"], args := some ["-c", script] }

/-- The variables that every builder gets. -/
def injectedVariables (db : DatabaseSettings) : List (String × String) := [
  ("BUILDKIT_HOST", daemonAddress),
  ("POSTGRES_HOST", db.host),
  ("POSTGRES_PORT", String.ofList (Text.decimal db.port)),
  ("POSTGRES_USER", db.user),
  ("POSTGRES_PASSWORD", db.password),
  ("POSTGRES_DB", db.database)]

/-- The environment of the builder: the injected variables, then the caller's in name order. -/
def environment (request : BuildRequest) (db : DatabaseSettings) : List EnvVar :=
  (injectedVariables db ++ request.env.entries).map fun (name, value) => variable_ name value

/-- The container of the builder. -/
def builder (request : BuildRequest) (settings : BuildSettings) (db : DatabaseSettings) :
    Container :=
  { scripted builderName settings.builderImage builderScript with
    env := some (environment request db)
    volumeMounts := some [{ name := socketVolume, mountPath := socketPath }] }

/-- The container of the build daemon. -/
def daemon (settings : BuildSettings) : Container :=
  { scripted daemonName settings.buildkitImage daemonScript with
    securityContext := some {
      runAsUser := some 1000
      runAsGroup := some 1000
      seccompType := some "Unconfined" }
    volumeMounts := some [
      { name := socketVolume, mountPath := socketPath },
      { name := cacheVolume, mountPath := cachePath },
      { name := configVolume, mountPath := configPath, readOnly := some true }] }

/-- The container of the monitor. -/
def monitor (settings : BuildSettings) : Container :=
  scripted monitorName settings.cleanupMonitorImage monitorScript

/-- The volumes of the pod. -/
def volumes (settings : BuildSettings) : List Volume := [
  ⟨socketVolume, .emptyDir⟩,
  ⟨cacheVolume, .claim settings.buildkitCacheClaim (some false)⟩,
  ⟨configVolume, .configMap settings.buildkitConfigMap⟩]

/-! ## The job -/

/-- The labels of the job and of its pods. -/
def labels (request : BuildRequest) (jobName : String) : Labels :=
  BuildLabels.toLabels ⟨request.serviceId, request.jobId, jobName⟩

/-- The pod of the job. -/
def podSpec (request : BuildRequest) (settings : Settings) : PodSpec where
  serviceAccountName := some settings.serviceAccount
  shareProcessNamespace := some true
  restartPolicy := some "Never"
  fsGroup := some 1000
  containers := [
    builder request settings.build settings.database,
    daemon settings.build,
    monitor settings.build]
  volumes := some (volumes settings.build)

/-- The job of a build that is asked for at a time. -/
def manifest (request : BuildRequest) (jobName : String) (at_ : Instant) (settings : Settings) :
    Job where
  metadata := {
    name := some jobName
    namespace_ := some settings.namespace_
    labels := some (labels request jobName)
    annotations := some (SortedMap.ofList [
      (triggerSourceKey, request.triggerSource),
      (triggeredAtKey, at_.offsetText)]) }
  spec := some {
    ttlSecondsAfterFinished := some secondsKept
    backoffLimit := some backoffLimit
    parallelism := some parallelism
    activeDeadlineSeconds := some secondsAllowed
    template := {
      metadata := some { labels := some (labels request jobName) }
      spec := some (podSpec request settings) } }

/-- The name of the job of a build that is asked for at a time. -/
def jobName (request : BuildRequest) (at_ : Instant) : String :=
  buildJobName request.jobId at_.seconds

end Build

end BuildYard
