import BuildYard.Failure
import BuildYard.Text.Digits
/-!
# Settings

What the build yard is told from outside: where it listens, where it puts build jobs, which images
and volumes a build uses, and which database a build talks to. Every setting has a variable of its
own and a default; the port and the namespace are checked, in this order.
-/

namespace BuildYard

/-- The images and volumes of a build job. -/
structure BuildSettings where
  builderImage : String := "ghcr.io/unbindapp/unbind-builder:latest"
  buildkitImage : String := "moby/buildkit:rootless"
  cleanupMonitorImage : String := "busybox:1.36"
  /-- The claim of the volume that keeps the build cache. -/
  buildkitCacheClaim : String := "buildkit-cache"
  /-- The config map with the configuration of the build daemon. -/
  buildkitConfigMap : String := "buildkitd-config"
  deriving DecidableEq, Repr

/-- The database that a build talks to. -/
structure DatabaseSettings where
  host : String := "localhost"
  port : Nat := 5432
  user : String := "postgres"
  password : String := ""
  database : String := "unbind"
  deriving DecidableEq, Repr

/-- All settings. -/
structure Settings where
  /-- The address that the HTTP server listens on. -/
  serverAddress : String := "0.0.0.0:8089"
  /-- The namespace of build jobs. -/
  namespace_ : String := "unbind-system"
  /-- The service account that build jobs run under. -/
  serviceAccount : String := "unbind-builder"
  build : BuildSettings := {}
  database : DatabaseSettings := {}
  deriving DecidableEq, Repr

/-- What is wrong with settings. -/
inductive SettingsFault where
  | badPort (raw : String)
  | emptyNamespace
  deriving DecidableEq, Repr

/-- What is said of a fault. -/
def SettingsFault.text : SettingsFault → String
  | .badPort raw => "POSTGRES_PORT must be a port number, got '" ++ raw ++ "'"
  | .emptyNamespace => "KUBE_NAMESPACE must not be empty"

/-- The largest port number. -/
def maxPort : Nat := 65535

/-- A port number: decimal digits, with a plus sign in front if one likes. -/
def port? (raw : String) : Option Nat :=
  let digits := match raw.toList with
    | '+' :: rest => rest
    | cs => cs
  (Text.ofDecimal? digits).filter (· ≤ maxPort)

namespace Settings

/-- The port of the database: the default, or the number that the variable holds. -/
def databasePort (lookup : String → Option String) : Except SettingsFault Nat :=
  match lookup "POSTGRES_PORT" with
  | none => .ok ({} : DatabaseSettings).port
  | some raw =>
    match port? raw with
    | some port => .ok port
    | none => .error (.badPort raw)

/-- The settings with a port already read, from variables and defaults. -/
def assembled (lookup : String → Option String) (port : Nat) : Settings :=
  let defaults : Settings := {}
  let get (name : String) (default : String) : String := (lookup name).getD default
  { serverAddress := get "SERVER_ADDR" defaults.serverAddress
    namespace_ := get "KUBE_NAMESPACE" defaults.namespace_
    serviceAccount := get "KUBE_SERVICE_ACCOUNT" defaults.serviceAccount
    build := {
      builderImage := get "BUILDER_IMAGE" defaults.build.builderImage
      buildkitImage := get "BUILDKIT_IMAGE" defaults.build.buildkitImage
      cleanupMonitorImage := get "CLEANUP_MONITOR_IMAGE" defaults.build.cleanupMonitorImage
      buildkitCacheClaim := get "BUILDKIT_CACHE_PVC" defaults.build.buildkitCacheClaim
      buildkitConfigMap := get "BUILDKIT_CONFIG_MAP" defaults.build.buildkitConfigMap }
    database := {
      host := get "POSTGRES_HOST" defaults.database.host
      port
      user := get "POSTGRES_USER" defaults.database.user
      password := get "POSTGRES_PASSWORD" ""
      database := get "POSTGRES_DB" defaults.database.database } }

/-- The settings that variables give, with the default of every variable that is not set. -/
def ofVariables (lookup : String → Option String) : Except SettingsFault Settings :=
  match databasePort lookup with
  | .error fault => .error fault
  | .ok port =>
    let settings := assembled lookup port
    if settings.namespace_ = "" then .error .emptyNamespace else .ok settings

/-- The names of the variables that are looked at. -/
def variableNames : List String := [
  "SERVER_ADDR", "KUBE_NAMESPACE", "KUBE_SERVICE_ACCOUNT", "BUILDER_IMAGE", "BUILDKIT_IMAGE",
  "CLEANUP_MONITOR_IMAGE", "BUILDKIT_CACHE_PVC", "BUILDKIT_CONFIG_MAP", "POSTGRES_HOST",
  "POSTGRES_PORT", "POSTGRES_USER", "POSTGRES_PASSWORD", "POSTGRES_DB"]

/-- The settings that variables give, or the failure that refuses them. -/
def load (lookup : String → Option String) : Except Failure Settings :=
  (ofVariables lookup).mapError fun fault => ⟨.config, fault.text⟩

end Settings

end BuildYard
