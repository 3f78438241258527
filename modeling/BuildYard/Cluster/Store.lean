import BuildYard.Cluster.Basic
/-!
# A cluster in memory

A store keeps objects as they were put in; nothing reconciles them. Every object is stored under its
namespace and name. Any operation can be made to fail, and then fails before it looks at the
objects. The names of deleted jobs are kept in the order of the deletions.
-/

namespace BuildYard

/-- Where an object is stored. -/
structure ObjectKey where
  namespace_ : String
  name : String
  deriving DecidableEq, Repr

namespace ObjectKey

instance : Ord ObjectKey where
  compare a b := (compare a.namespace_ b.namespace_).then (compare a.name b.name)

theorem compare_def (a b : ObjectKey) :
    compare a b = (compare a.namespace_ b.namespace_).then (compare a.name b.name) := rfl

/-- In one namespace the names decide. -/
theorem name_lt_of_compare {a b : ObjectKey} (hns : a.namespace_ = b.namespace_)
    (h : compare a b = .lt) : a.name < b.name := by
  have hself : compare b.namespace_ b.namespace_ = .eq := Std.ReflCmp.compare_self
  rw [compare_def, hns, hself] at h
  exact compareOfLessAndEq_eq_lt.1 h

instance : Std.LawfulEqOrd ObjectKey where
  compare_self := by simp [compare_def]
  eq_of_compare {a b} h := by
    rw [compare_def, Ordering.then_eq_eq] at h
    cases a; cases b
    simp_all

instance : Std.TransOrd ObjectKey where
  eq_swap {a b} := by
    rw [compare_def, compare_def b a, Ordering.swap_then,
      ← Std.OrientedCmp.eq_swap, ← Std.OrientedCmp.eq_swap]
  isLE_trans {a b c} hab hbc := by
    rw [compare_def] at *
    rw [Ordering.isLE_then_iff_or] at *
    rcases hab with hab | ⟨hab, hab'⟩ <;> rcases hbc with hbc | ⟨hbc, hbc'⟩
    · exact .inl (Std.TransCmp.lt_trans hab hbc)
    · exact .inl (Std.LawfulEqOrd.eq_of_compare hbc ▸ hab)
    · exact .inl (Std.LawfulEqOrd.eq_of_compare hab ▸ hbc)
    · exact .inr ⟨Std.LawfulEqOrd.eq_of_compare hab ▸ hbc, Std.TransCmp.isLE_trans hab' hbc'⟩

/-- Where an object with this metadata belongs. -/
def of (m : ObjectMeta) : ObjectKey := ⟨m.namespace_.getD "default", m.anyName⟩

end ObjectKey

/-- The operations that can be made to fail. -/
inductive Operation where
  | createJob
  | listJobs
  | getJob
  | deleteJob
  | listPods
  | getPod
  | getScaledSet (kind : ScaledKind)
  | getDaemonSet
  deriving DecidableEq, Repr

namespace Operation

/-- What an operation is called. -/
def text : Operation → String
  | .createJob => "create_job"
  | .listJobs => "list_jobs"
  | .getJob => "get_job"
  | .deleteJob => "delete_job"
  | .listPods => "list_pods"
  | .getPod => "get_pod"
  | .getScaledSet .statefulSet => "get_stateful_set"
  | .getScaledSet .deployment => "get_deployment"
  | .getScaledSet .replicaSet => "get_replica_set"
  | .getDaemonSet => "get_daemon_set"

/-- Every operation. -/
def all : List Operation := [
  .createJob, .listJobs, .getJob, .deleteJob, .listPods, .getPod, .getScaledSet .statefulSet,
  .getScaledSet .deployment, .getScaledSet .replicaSet, .getDaemonSet]

/-- The operation that is called so. -/
def ofText? (s : String) : Option Operation := all.find? (·.text = s)

end Operation

/-- The objects of a cluster in memory. -/
structure Store where
  jobs : SortedMap ObjectKey Job := .empty
  pods : SortedMap ObjectKey Pod := .empty
  scaledSets : ScaledKind → SortedMap ObjectKey ScaledSet := fun _ => .empty
  daemonSets : SortedMap ObjectKey DaemonSet := .empty
  /-- The deleted jobs, in the order of their deletion. -/
  deletions : List (String × Propagation) := []
  /-- The operations that fail, with what they say. -/
  faults : Operation → Option String := fun _ => none

namespace Store

/-! ## Preparing a store -/

/-- Puts a job in. -/
def insertJob (s : Store) (job : Job) : Store :=
  { s with jobs := s.jobs.insert (.of job.metadata) job }

/-- Puts a pod in. -/
def insertPod (s : Store) (pod : Pod) : Store :=
  { s with pods := s.pods.insert (.of pod.metadata) pod }

/-- Puts a scaled workload in. -/
def insertScaledSet (s : Store) (kind : ScaledKind) (set : ScaledSet) : Store :=
  { s with scaledSets := fun k =>
      if k = kind then (s.scaledSets k).insert (.of set.metadata) set else s.scaledSets k }

/-- Puts a daemon set in. -/
def insertDaemonSet (s : Store) (set : DaemonSet) : Store :=
  { s with daemonSets := s.daemonSets.insert (.of set.metadata) set }

/-- Makes an operation fail from now on. -/
def fail (s : Store) (operation : Operation) (message : String) : Store :=
  { s with faults := fun o => if o = operation then some message else s.faults o }

/-- What is said of an object that does not exist. -/
def notFound (kind : ObjectKind) (ns name : String) : Failure :=
  ⟨.notFound, kind.plural ++ " \"" ++ name ++ "\" not found in namespace " ++ ns⟩

/-- Sets the status of a job. -/
def setJobStatus (s : Store) (ns name : String) (status : JobStatus) : Except Failure Store :=
  match s.jobs.find? ⟨ns, name⟩ with
  | none => .error (notFound .job ns name)
  | some job => .ok { s with jobs := s.jobs.insert ⟨ns, name⟩ { job with status := some status } }

/-! ## Looking at a store -/

/-- The objects of a namespace that pass a test, in the order of their names. -/
def within {α : Type} (objects : SortedMap ObjectKey α) (ns : String) (test : α → Bool) : List α :=
  (objects.filter fun key a => key.namespace_ == ns && test a).values

/-- The jobs of a namespace. -/
def jobsIn (s : Store) (ns : String) : List Job := within s.jobs ns fun _ => true

/-- The object under a key, or the failure that says that it does not exist. -/
def lookup {α : Type} (objects : SortedMap ObjectKey α) (kind : ObjectKind) (ns name : String) :
    Except Failure α :=
  match objects.find? ⟨ns, name⟩ with
  | some a => .ok a
  | none => .error (notFound kind ns name)

/-! ## What is asked of a cluster -/

/-- The store with a new job in a namespace, and the job as it is stored. -/
def createJob (s : Store) (ns : String) (job : Job) : Except Failure (Job × Store) :=
  match job.metadata.name with
  | none => .error ⟨.validation, "job metadata.name is required"⟩
  | some name =>
    if s.jobs.contains ⟨ns, name⟩ then
      .error ⟨.conflict, "jobs \"" ++ name ++ "\" already exists"⟩
    else
      let stored : Job := { job with metadata := { job.metadata with namespace_ := some ns } }
      .ok (stored, { s with jobs := s.jobs.insert ⟨ns, name⟩ stored })

/-- The jobs of a namespace that a selector selects. -/
def listJobs (s : Store) (ns : String) (selector : Selector) : List Job :=
  within s.jobs ns fun job => selector.selects job.metadata.labels

/-- The pods of a namespace that a selector selects. -/
def listPods (s : Store) (ns : String) (selector : Selector) : List Pod :=
  within s.pods ns fun pod => selector.selects pod.metadata.labels

/-- Does a pod in a namespace belong to a job? -/
def isPodOf (ns jobName : String) (key : ObjectKey) (pod : Pod) : Bool :=
  key.namespace_ == ns && (Selector.forJobPods jobName).selects pod.metadata.labels

/-- The store without a job and, unless they are to be orphans, without the job's pods. A job that
is not there leaves everything as it is. -/
def deleteJob (s : Store) (ns name : String) (propagation : Propagation) : Store :=
  if s.jobs.contains ⟨ns, name⟩ then
    { s with
      jobs := s.jobs.erase ⟨ns, name⟩
      deletions := s.deletions ++ [(name, propagation)]
      pods := if propagation = .orphan then s.pods
        else s.pods.filter fun key pod => !isPodOf ns name key pod }
  else s

/-! ## A store as a cluster -/

/-- An operation, unless it is made to fail; where it fails the store stays as it is. -/
def attempt {α : Type} (operation : Operation) (f : Store → Except Failure (α × Store)) :
    Attempt Store α :=
  .of fun s =>
    match s.faults operation with
    | some message => (.error ⟨.kubernetes, message⟩, s)
    | none =>
      match f s with
      | .ok (a, s') => (.ok a, s')
      | .error e => (.error e, s)

/-- An operation that only looks. -/
def look {α : Type} (operation : Operation) (f : Store → Except Failure α) : Attempt Store α :=
  attempt operation fun s => (f s).map fun a => (a, s)

instance : Cluster Store where
  createJob ns job := attempt .createJob fun s => s.createJob ns job
  listJobs ns selector := look .listJobs fun s => .ok (s.listJobs ns selector)
  getJob ns name := look .getJob fun s => lookup s.jobs .job ns name
  deletion ns name propagation :=
    .last (attempt .deleteJob fun s => .ok ((), s.deleteJob ns name propagation))
  -- Nothing is waited for: each strand ends at its first step, and those are taken in order.
  turns _ _ := []
  listPods ns selector := look .listPods fun s => .ok (s.listPods ns selector)
  getPod ns name := look .getPod fun s => lookup s.pods .pod ns name
  getScaledSet kind ns name :=
    look (.getScaledSet kind) fun s => lookup (s.scaledSets kind) kind.toKind ns name
  getDaemonSet ns name := look .getDaemonSet fun s => lookup s.daemonSets .daemonSet ns name

/-! ## The outcomes of operations -/

/-- What only looks at a store leaves it as it is. -/
theorem outcome_look {α : Type} (operation : Operation) (f : Store → Except Failure α) (s : Store) :
    (look operation f).outcome s =
      (match s.faults operation with
        | some message => .error ⟨.kubernetes, message⟩
        | none => f s, s) := by
  cases h : s.faults operation with
  | some message => simp only [look, attempt, Attempt.outcome_of, h]
  | none => cases hf : f s <;> simp only [look, attempt, Attempt.outcome_of, h, hf, Except.map]

theorem outcome_listJobs (s : Store) (ns : String) (selector : Selector) :
    (Cluster.listJobs ns selector : Attempt Store (List Job)).outcome s =
      match s.faults .listJobs with
      | some message => (.error ⟨.kubernetes, message⟩, s)
      | none => (.ok (s.listJobs ns selector), s) := by
  show (look .listJobs fun s => .ok (s.listJobs ns selector)).outcome s = _
  rw [outcome_look]
  cases s.faults .listJobs <;> rfl

theorem outcome_getJob (s : Store) (ns name : String) :
    (Cluster.getJob ns name : Attempt Store Job).outcome s =
      (match s.faults .getJob with
        | some message => .error ⟨.kubernetes, message⟩
        | none => lookup s.jobs .job ns name, s) :=
  outcome_look ..

theorem outcome_listPods (s : Store) (ns : String) (selector : Selector) :
    (Cluster.listPods ns selector : Attempt Store (List Pod)).outcome s =
      (match s.faults .listPods with
        | some message => .error ⟨.kubernetes, message⟩
        | none => .ok (s.listPods ns selector), s) :=
  outcome_look ..

theorem outcome_getScaledSet (s : Store) (kind : ScaledKind) (ns name : String) :
    (Cluster.getScaledSet kind ns name : Attempt Store ScaledSet).outcome s =
      (match s.faults (.getScaledSet kind) with
        | some message => .error ⟨.kubernetes, message⟩
        | none => lookup (s.scaledSets kind) kind.toKind ns name, s) :=
  outcome_look ..

theorem outcome_getDaemonSet (s : Store) (ns name : String) :
    (Cluster.getDaemonSet ns name : Attempt Store DaemonSet).outcome s =
      (match s.faults .getDaemonSet with
        | some message => .error ⟨.kubernetes, message⟩
        | none => lookup s.daemonSets .daemonSet ns name, s) :=
  outcome_look ..

theorem outcome_deleteJob (s : Store) (ns name : String) (propagation : Propagation) :
    (Cluster.deleteJob ns name propagation : Attempt Store Unit).outcome s =
      match s.faults .deleteJob with
      | some message => (.error ⟨.kubernetes, message⟩, s)
      | none => (.ok (), s.deleteJob ns name propagation) := by
  show (attempt .deleteJob fun s => .ok ((), s.deleteJob ns name propagation)).outcome s = _
  cases h : s.faults .deleteJob <;> simp only [attempt, Attempt.outcome_of, h]

theorem outcome_createJob (s : Store) (ns : String) (job : Job) :
    (Cluster.createJob ns job : Attempt Store Job).outcome s =
      match s.faults .createJob, s.createJob ns job with
      | some message, _ => (.error ⟨.kubernetes, message⟩, s)
      | none, .ok (stored, s') => (.ok stored, s')
      | none, .error e => (.error e, s) := by
  show (attempt .createJob fun s => s.createJob ns job).outcome s = _
  cases h : s.faults .createJob with
  | some message => simp only [attempt, Attempt.outcome_of, h]
  | none => cases hjob : s.createJob ns job <;> simp only [attempt, Attempt.outcome_of, h, hjob]

theorem createJob_eq_ok {s s' : Store} {ns : String} {job stored : Job}
    (h : s.createJob ns job = .ok (stored, s')) :
    ∃ name, job.metadata.name = some name ∧ s.jobs.find? ⟨ns, name⟩ = none ∧
      stored = { job with metadata := { job.metadata with namespace_ := some ns } } ∧
      s' = { s with jobs := s.jobs.insert ⟨ns, name⟩ stored } := by
  unfold createJob at h
  split at h
  · cases h
  · rename_i name hname
    split at h
    · cases h
    · rename_i hnew
      cases h
      exact ⟨name, hname, by simpa [SortedMap.contains] using hnew, rfl, rfl⟩

end Store

end BuildYard
