import BuildYard.Cluster.Basic
/-!
# The health of workloads

The pods behind a selector, and the health of the workload they belong to. How many instances a
workload should have is asked of the owner of its first pod, and of nothing above that owner: a
replica set has the count of its deployment already.
-/

namespace BuildYard

/-- The kinds of owner that say how many pods they want. -/
inductive OwnerKind where
  | scaled (kind : ScaledKind)
  | daemonSet
  deriving DecidableEq, Repr

namespace OwnerKind

/-- The kind of owner that is called so. -/
def ofText? (s : String) : Option OwnerKind :=
  if s = "StatefulSet" then some (.scaled .statefulSet)
  else if s = "Deployment" then some (.scaled .deployment)
  else if s = "ReplicaSet" then some (.scaled .replicaSet)
  else if s = "DaemonSet" then some .daemonSet
  else none

/-- What an owner of a kind is called. -/
def text : OwnerKind → String
  | .scaled kind => kind.toKind.text
  | .daemonSet => "DaemonSet"

theorem ofText?_text (kind : OwnerKind) : ofText? kind.text = some kind := by
  cases kind with
  | scaled kind => cases kind <;> decide
  | daemonSet => decide

theorem ofText?_eq_some_iff {s : String} {kind : OwnerKind} :
    ofText? s = some kind ↔ s = kind.text := by
  constructor
  · intro h
    unfold ofText? at h
    repeat' split at h
    all_goals cases h
    all_goals assumption
  · rintro rfl
    exact kind.ofText?_text

end OwnerKind

namespace Health

variable {σ : Type} [Cluster σ]

/-- The replicas that a workload has when it asks for no number. -/
def defaultReplicas : Int := 1

/-- The instances of a pod whose owner says nothing. -/
def unownedInstances : Int := 1

/-- How many instances an owner wants. -/
def wanted (ns : String) (kind : OwnerKind) (name : String) : Attempt σ Int :=
  match kind with
  | .scaled kind => do
    return (← Cluster.getScaledSet kind ns name).replicas.getD defaultReplicas
  | .daemonSet => do
    return (← Cluster.getDaemonSet ns name).desired.getD 0

/-- The first owner of a pod. -/
def ownerOf (pod : Pod) : Option OwnerReference := (pod.metadata.ownerReferences.getD []).head?

/-- An answer, or the count of an unowned pod if the owner does not exist. -/
def orUnowned (operation : String) (r : Except Failure Int) : Except Failure Int :=
  match r with
  | .ok n => .ok n
  | .error e => if e.isNotFound then .ok unownedInstances else .error (e.during operation)

/-- How many instances the owner of a pod wants. -/
def expectedFor (ns : String) (pod : Pod) : Attempt (Session σ) Int :=
  match ownerOf pod with
  | none => pure unownedInstances
  | some owner =>
    match OwnerKind.ofText? owner.kind with
    | none => pure unownedInstances
    | some kind =>
      .of fun s =>
        let (r, s') := (Session.onCluster (wanted ns kind owner.name)).outcome s
        (orUnowned ("failed to get " ++ owner.kind ++ " " ++ ns ++ "/" ++ owner.name) r, s')

/-- How many instances the owner of a pod with a name wants. -/
def expected (ns podName : String) : Attempt (Session σ) Int := do
  let pod ← (Session.onCluster (Cluster.getPod ns podName)).within
    ("failed to get pod " ++ ns ++ "/" ++ podName)
  expectedFor ns pod

/-- The pods of a namespace that a selector selects. -/
def podsOf (ns : String) (selector : Selector) : Attempt (Session σ) (List Pod) :=
  (Session.onCluster (Cluster.listPods ns selector)).within
    ("failed to list pods in namespace " ++ ns ++ " with selector " ++ selector.text)

/-- What the pods that a selector selects say about their containers. -/
def aggregate (ns : String) (selector : Selector) : Attempt (Session σ) (List PodView) := do
  return (← podsOf ns selector).map podView

/-- The summary of pods, all of which are taken to have the owner of the first. -/
def summaryOf (ns : String) (pods : List Pod) : Attempt (Session σ) HealthSummary :=
  match pods.head? with
  | none => pure noPods
  | some first => do return summary (pods.map podView) (← expectedFor ns first)

/-- The health of the workload whose pods a selector selects, which is unhealthy without pods. -/
def simpleHealth (ns : String) (selector : Selector) : Attempt (Session σ) HealthSummary := do
  let found ← summaryOf ns (← podsOf ns selector)
  Session.count (Counters.addRollup found.health)
  return found

end Health

end BuildYard
