import BuildYard.Cluster.Store
/-!
# Where the objects of a store are kept

A store changes by insertions, by faults, and by the operations that are asked of a cluster. This file
follows one property through all of them: every object is kept under the namespace and the name that
its own metadata give.

* `Keyed`: the property, for one map of objects.
* `Store.Change`, `Store.after`, `Store.Reachable`: what can happen to a store, and the stores that
  can come of it.
* `Store.WellKeyed.apply`: one change keeps the property.
* `Store.Reachable.wellKeyed`: so it holds of every store that can come about.
-/

namespace BuildYard

/-! ## One map of objects -/

/-- Every object is stored under the key that its metadata give it. -/
def Keyed {α : Type} (metadata : α → ObjectMeta) (objects : SortedMap ObjectKey α) : Prop :=
  ∀ key a, objects.find? key = some a → key = .of (metadata a)

namespace Keyed

variable {α : Type} {metadata : α → ObjectMeta} {objects : SortedMap ObjectKey α}

theorem empty : Keyed metadata .empty := by
  intro key a h
  simp at h

/-- An object that goes where it belongs. -/
theorem insert (h : Keyed metadata objects) {key : ObjectKey} {a : α}
    (ha : key = .of (metadata a)) : Keyed metadata (objects.insert key a) := by
  intro key' a' hfind
  rw [SortedMap.find?_insert] at hfind
  split at hfind
  · rename_i heq
    obtain rfl := Std.LawfulEqOrd.eq_of_compare heq
    obtain rfl := Option.some.inj hfind
    exact ha
  · exact h key' a' hfind

theorem filter (h : Keyed metadata objects) (keep : ObjectKey → α → Bool) :
    Keyed metadata (objects.filter keep) := by
  intro key a hfind
  rw [SortedMap.find?_filter] at hfind
  exact h key a (Option.filter_eq_some_iff.1 hfind).1

/-- The name in the key of an object is what the object is called. -/
theorem name_eq (h : Keyed metadata objects) {key : ObjectKey} {a : α}
    (ha : objects.find? key = some a) : (metadata a).anyName = key.name := by
  rw [h key a ha]
  rfl

end Keyed

namespace Store

/-! ## What can happen to a store -/

/-- Something that can happen to a store. -/
inductive Change where
  | insertJob (job : Job)
  | insertPod (pod : Pod)
  | insertScaledSet (kind : ScaledKind) (set : ScaledSet)
  | insertDaemonSet (set : DaemonSet)
  | fail (operation : Operation) (message : String)
  | setJobStatus (ns name : String) (status : JobStatus)
  | createJob (ns : String) (job : Job)
  | deleteJob (ns name : String) (propagation : Propagation)

/-- The store after a change; what is refused changes nothing. -/
def Change.apply (s : Store) : Change → Store
  | .insertJob job => s.insertJob job
  | .insertPod pod => s.insertPod pod
  | .insertScaledSet kind set => s.insertScaledSet kind set
  | .insertDaemonSet set => s.insertDaemonSet set
  | .fail operation message => s.fail operation message
  | .setJobStatus ns name status => ((s.setJobStatus ns name status).toOption).getD s
  | .createJob ns job => ((Cluster.createJob ns job : Attempt Store Job).outcome s).2
  | .deleteJob ns name propagation =>
    ((Cluster.deleteJob ns name propagation : Attempt Store Unit).outcome s).2

/-- The store after changes, one after the other. -/
def after (s : Store) (changes : List Change) : Store := changes.foldl Change.apply s

/-- A store that can come of the empty one. -/
def Reachable (s : Store) : Prop := ∃ changes, s = after {} changes

/-! ## Every object is where it belongs -/

/-- Every object of a store is stored under the key that its metadata give it. -/
structure WellKeyed (s : Store) : Prop where
  jobs : Keyed Job.metadata s.jobs
  pods : Keyed Pod.metadata s.pods
  scaledSets : ∀ kind, Keyed ScaledSet.metadata (s.scaledSets kind)
  daemonSets : Keyed DaemonSet.metadata s.daemonSets

theorem wellKeyed_empty : WellKeyed {} :=
  ⟨Keyed.empty, Keyed.empty, fun _ => Keyed.empty, Keyed.empty⟩

namespace WellKeyed

variable {s : Store}

theorem setJobStatus (h : WellKeyed s) (ns name : String) (status : JobStatus) :
    WellKeyed (((s.setJobStatus ns name status).toOption).getD s) := by
  unfold Store.setJobStatus
  cases hjob : s.jobs.find? ⟨ns, name⟩ with
  | none => exact h
  | some job =>
    have hkey := h.jobs _ _ hjob
    exact ⟨h.jobs.insert hkey, h.pods, h.scaledSets, h.daemonSets⟩

theorem createJob (h : WellKeyed s) {s' : Store} {ns : String} {job stored : Job}
    (hok : s.createJob ns job = .ok (stored, s')) : WellKeyed s' := by
  obtain ⟨name, hname, -, rfl, rfl⟩ := createJob_eq_ok hok
  have hkey : (⟨ns, name⟩ : ObjectKey) =
      .of { job.metadata with namespace_ := some ns } := by
    simp [ObjectKey.of, ObjectMeta.anyName, hname]
  exact ⟨h.jobs.insert hkey, h.pods, h.scaledSets, h.daemonSets⟩

theorem deleteJob (h : WellKeyed s) (ns name : String) (propagation : Propagation) :
    WellKeyed (s.deleteJob ns name propagation) := by
  unfold Store.deleteJob
  split
  · refine ⟨h.jobs.filter _, ?_, h.scaledSets, h.daemonSets⟩
    show Keyed Pod.metadata (if propagation = .orphan then s.pods else s.pods.filter _)
    split
    · exact h.pods
    · exact h.pods.filter _
  · exact h

/-- Whatever happens to a store, its objects stay where they belong. -/
theorem apply (h : WellKeyed s) (change : Change) : WellKeyed (change.apply s) := by
  cases change with
  | insertJob job => exact ⟨h.jobs.insert rfl, h.pods, h.scaledSets, h.daemonSets⟩
  | insertPod pod => exact ⟨h.jobs, h.pods.insert rfl, h.scaledSets, h.daemonSets⟩
  | insertScaledSet kind set =>
    refine ⟨h.jobs, h.pods, fun kind' => ?_, h.daemonSets⟩
    show Keyed ScaledSet.metadata (if kind' = kind then _ else _)
    split
    · exact (h.scaledSets kind').insert rfl
    · exact h.scaledSets kind'
  | insertDaemonSet set => exact ⟨h.jobs, h.pods, h.scaledSets, h.daemonSets.insert rfl⟩
  | fail operation message => exact ⟨h.jobs, h.pods, h.scaledSets, h.daemonSets⟩
  | setJobStatus ns name status => exact h.setJobStatus ns name status
  | createJob ns job =>
    rw [Change.apply, outcome_createJob]
    split
    · exact h
    · rename_i hok
      exact h.createJob hok
    · exact h
  | deleteJob ns name propagation =>
    rw [Change.apply, outcome_deleteJob]
    split
    · exact h
    · exact h.deleteJob ns name propagation

theorem after (h : WellKeyed s) (changes : List Change) : WellKeyed (s.after changes) := by
  induction changes generalizing s with
  | nil => exact h
  | cons change changes ih => exact ih (h.apply change)

end WellKeyed

/-- In every store that can come about the objects are where they belong. -/
theorem Reachable.wellKeyed {s : Store} (h : Reachable s) : WellKeyed s := by
  obtain ⟨changes, rfl⟩ := h
  exact wellKeyed_empty.after changes

end Store

end BuildYard
