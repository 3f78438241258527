import BuildYard.Object.Meta
/-!
# Workloads

The objects that keep a number of pods running. Stateful sets, deployments and replica sets say how
many in their specification; a daemon set has one pod on every node that is eligible, and reports
how many these are.
-/

namespace BuildYard

/-- The kinds of workload that ask for a number of replicas. -/
inductive ScaledKind where
  | statefulSet
  | deployment
  | replicaSet
  deriving DecidableEq, Repr

/-- The kind among all kinds of object. -/
def ScaledKind.toKind : ScaledKind → ObjectKind
  | .statefulSet => .statefulSet
  | .deployment => .deployment
  | .replicaSet => .replicaSet

/-- What a scaled workload asks for. -/
structure ScaleSpec where
  replicas : Option Int := none
  deriving DecidableEq

/-- A workload that asks for a number of replicas. -/
structure ScaledSet where
  metadata : ObjectMeta := {}
  spec : Option ScaleSpec := none

/-- The number of replicas asked for, if any is. -/
def ScaledSet.replicas (s : ScaledSet) : Option Int := s.spec.bind (·.replicas)

/-- What a daemon set reports. -/
structure DaemonSetStatus where
  /-- The number of nodes that should run a pod. -/
  desiredNumberScheduled : Int := 0
  deriving DecidableEq

/-- A workload with one pod on every eligible node. -/
structure DaemonSet where
  metadata : ObjectMeta := {}
  status : Option DaemonSetStatus := none

/-- The number of pods that a daemon set should have, if it reports one. -/
def DaemonSet.desired (d : DaemonSet) : Option Int := d.status.map (·.desiredNumberScheduled)

/-- The shapes of the specification and the status of a kind of workload. -/
def ScaledKind.shapes : ScaledKind → Shape × Shape
  | .statefulSet => (Shape.statefulSetSpec, Shape.statefulSetStatus)
  | .deployment => (Shape.deploymentSpec, Shape.deploymentStatus)
  | .replicaSet => (Shape.replicaSetSpec, Shape.replicaSetStatus)

/-- Reads a workload of a kind. -/
def ScaledSet.ofJson? (kind : ScaledKind) (j : Json) : Option ScaledSet := do
  let fields ← kind.toKind.fields? j
  let spec (j : Json) : Option ScaleSpec := do
    let _ ← kind.shapes.1.normal? j
    return { replicas := ← Json.optional Json.asInt32? (← j.asFields?) "replicas" }
  let _ ← Json.optional kind.shapes.2.normal? fields "status"
  return {
    metadata := ← ObjectKind.metadata? fields
    spec := ← Json.optional spec fields "spec" }

/-- Reads a daemon set. -/
def DaemonSet.ofJson? (j : Json) : Option DaemonSet := do
  let fields ← ObjectKind.daemonSet.fields? j
  let status (j : Json) : Option DaemonSetStatus := do
    let _ ← Shape.daemonSetStatus.normal? j
    return {
      desiredNumberScheduled :=
        ← Json.required Json.asInt32? 0 (← j.asFields?) "desiredNumberScheduled" }
  let _ ← Json.optional Shape.daemonSetSpec.normal? fields "spec"
  return {
    metadata := ← ObjectKind.metadata? fields
    status := ← Json.optional status fields "status" }

end BuildYard
