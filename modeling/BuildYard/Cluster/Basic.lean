import BuildYard.Cluster.Attempt
import BuildYard.Metrics
import BuildYard.Object.Workload
/-!
# What is asked of a cluster

`Cluster σ` says what the build yard may ask of a cluster whose state is a `σ`. A `Session` puts a clock
and the counters beside a cluster.

An object that does not exist is reported as a failure of kind `notFound`, except that deleting a
job that does not exist succeeds.
-/

namespace BuildYard

/-- What becomes of the pods of a job that is deleted. -/
inductive Propagation where
  | foreground
  | background
  | orphan
  deriving DecidableEq, Repr

/-- What a propagation is called. -/
def Propagation.text : Propagation → String
  | .foreground => "Foreground"
  | .background => "Background"
  | .orphan => "Orphan"

/-- What may be asked of a cluster, each thing in a namespace. -/
class Cluster (σ : Type) where
  createJob (ns : String) (job : Job) : Attempt σ Job
  listJobs (ns : String) (selector : Selector) : Attempt σ (List Job)
  getJob (ns name : String) : Attempt σ Job
  /-- Deletes a job, in steps that others may go on between. -/
  deletion (ns name : String) (propagation : Propagation) : Strand σ Unit
  /-- The turns that so many strands take when they go on side by side. Nobody who asks for them can
  choose these. -/
  turns (s : σ) (count : Nat) : List Nat
  listPods (ns : String) (selector : Selector) : Attempt σ (List Pod)
  getPod (ns name : String) : Attempt σ Pod
  getScaledSet (kind : ScaledKind) (ns name : String) : Attempt σ ScaledSet
  getDaemonSet (ns name : String) : Attempt σ DaemonSet

namespace Cluster

variable {σ : Type} [Cluster σ]

/-- Deletes a job, with nothing beside it. -/
def deleteJob (ns name : String) (propagation : Propagation) : Attempt σ Unit :=
  (deletion ns name propagation).run

/-- Lets strands go on side by side, up to the first that fails. -/
def sideBySide (strands : List (Strand σ Unit)) : Attempt σ Unit :=
  .of fun s => (Strand.byTurns (turns s strands.length) strands).outcome s

end Cluster

/-- A cluster with a clock and the counters. -/
structure Session (σ : Type) where
  cluster : σ
  counters : Counters := {}
  now : Instant

namespace Session

variable {σ α : Type}

/-- A computation over the cluster of a session. -/
def onCluster (a : Attempt σ α) : Attempt (Session σ) α :=
  .of fun s => let (r, c) := a.outcome s.cluster; (r, { s with cluster := c })

/-- Changes the counters. -/
def count (f : Counters → Counters) : Attempt (Session σ) Unit :=
  .of fun s => (.ok (), { s with counters := f s.counters })

/-- The time of the clock. -/
def clock : Attempt (Session σ) Instant := .of fun s => (.ok s.now, s)

@[simp] theorem outcome_onCluster (a : Attempt σ α) (s : Session σ) :
    (onCluster a).outcome s =
      ((a.outcome s.cluster).1, { s with cluster := (a.outcome s.cluster).2 }) := rfl

theorem onCluster_bind {β : Type} (a : Attempt σ α) (f : α → Attempt σ β) :
    onCluster (a >>= f) = onCluster a >>= fun x => onCluster (f x) := by
  funext s
  show (onCluster (a >>= f)).outcome s = (onCluster a >>= fun x => onCluster (f x)).outcome s
  rw [Attempt.outcome_bind, outcome_onCluster, outcome_onCluster, Attempt.outcome_bind]
  rcases a.outcome s.cluster with ⟨_ | _, _⟩ <;> rfl

@[simp] theorem outcome_count (f : Counters → Counters) (s : Session σ) :
    (count f).outcome s = (.ok (), { s with counters := f s.counters }) := rfl

@[simp] theorem outcome_clock (s : Session σ) : (clock : Attempt (Session σ) Instant).outcome s =
    (.ok s.now, s) := rfl

end Session

end BuildYard
