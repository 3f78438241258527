import BuildYard.Proofs.Build.Steps
import BuildYard.Proofs.Cluster.Keys
/-!
# Canceling over a store

A cancellation deletes the jobs of a service one by one, by the names it read off a listing. Where
every job is stored under its own name the deletions together come to one thing: the running jobs of
the service are gone, and with them the pods that carry one of their names.

* `Store.cleared`: the store without the running jobs of a service.
* `Store.deleteJobs_eq`: deletions one after the other, as one step.
* `outcome_cancel_store`: what comes of a cancellation.
-/

namespace BuildYard

/-- Does the job carry the id of this service? -/
def Job.isOf (job : Job) (serviceId : String) : Bool :=
  (job.metadata.labels.bind (·.find? LabelKey.serviceId.text)) == some serviceId

/-- Is this a job of the service, in the namespace, that runs? -/
def isRunningBuild (ns serviceId : String) (key : ObjectKey) (job : Job) : Bool :=
  key.namespace_ == ns && job.isOf serviceId && job.isActive

@[simp] theorem isRunningBuild_self (ns serviceId name : String) (job : Job) :
    isRunningBuild ns serviceId ⟨ns, name⟩ job = (job.isOf serviceId && job.isActive) := by
  simp [isRunningBuild]

/-- Does the pod, in the namespace, carry one of these names of jobs? -/
def isPodOfAny (ns : String) (names : List String) (key : ObjectKey) (pod : Pod) : Bool :=
  key.namespace_ == ns &&
    names.any fun name => (pod.metadata.labels.bind (·.find? LabelKey.jobName.text)) == some name

namespace Store

/-- The running jobs of a service in a namespace. -/
def runningBuilds (s : Store) (ns serviceId : String) : SortedMap ObjectKey Job :=
  s.jobs.filter (isRunningBuild ns serviceId)

/-- The names of the running jobs of a service, in their order. -/
def runningNames (s : Store) (ns serviceId : String) : List String :=
  (s.runningBuilds ns serviceId).keys.map (·.name)

/-- The store without the running jobs of a service and without the pods of these jobs. -/
def cleared (s : Store) (ns serviceId : String) : Store :=
  { s with
    jobs := s.jobs.filter fun key job => !isRunningBuild ns serviceId key job
    pods := s.pods.filter fun key pod => !isPodOfAny ns (s.runningNames ns serviceId) key pod
    deletions := s.deletions ++ (s.runningNames ns serviceId).map fun name => (name, .foreground) }

theorem jobs_cleared (s : Store) (ns serviceId : String) :
    (s.cleared ns serviceId).jobs =
      s.jobs.filter fun key job => !isRunningBuild ns serviceId key job := rfl

theorem pods_cleared (s : Store) (ns serviceId : String) :
    (s.cleared ns serviceId).pods =
      s.pods.filter fun key pod => !isPodOfAny ns (s.runningNames ns serviceId) key pod := rfl

theorem deletions_cleared (s : Store) (ns serviceId : String) :
    (s.cleared ns serviceId).deletions =
      s.deletions ++ (s.runningNames ns serviceId).map fun name => (name, .foreground) := rfl

/-- The jobs of a cleared store are the jobs that were there and do not run for the service. -/
theorem find?_jobs_cleared {s : Store} {ns serviceId : String} {key : ObjectKey} {job : Job} :
    (s.cleared ns serviceId).jobs.find? key = some job ↔
      s.jobs.find? key = some job ∧ isRunningBuild ns serviceId key job = false := by
  rw [cleared, SortedMap.find?_filter_eq_some_iff, Bool.not_eq_true']

theorem WellKeyed.cleared {s : Store} (h : WellKeyed s) (ns serviceId : String) :
    WellKeyed (s.cleared ns serviceId) :=
  ⟨h.jobs.filter _, h.pods.filter _, h.scaledSets, h.daemonSets⟩

/-! ## The names of running jobs -/

theorem mem_runningNames {s : Store} {ns serviceId name : String} :
    name ∈ s.runningNames ns serviceId ↔
      ∃ job, s.jobs.find? ⟨ns, name⟩ = some job ∧ isRunningBuild ns serviceId ⟨ns, name⟩ job := by
  simp only [runningNames, SortedMap.keys, List.map_map, List.mem_map, Function.comp_apply]
  constructor
  · rintro ⟨⟨⟨ns', name'⟩, job⟩, hmem, rfl⟩
    obtain ⟨hfind, hrun⟩ :=
      SortedMap.find?_filter_eq_some_iff.1 ((SortedMap.mem_entries_iff _).1 hmem)
    obtain rfl : ns' = ns := by
      simp only [isRunningBuild, Bool.and_eq_true, beq_iff_eq] at hrun
      exact hrun.1.1
    exact ⟨job, hfind, hrun⟩
  · rintro ⟨job, hfind, hrun⟩
    exact ⟨(⟨ns, name⟩, job),
      (SortedMap.mem_entries_iff _).2 (SortedMap.find?_filter_eq_some_iff.2 ⟨hfind, hrun⟩), rfl⟩

/-- The names of running jobs are in strictly ascending order. -/
theorem pairwise_runningNames (s : Store) (ns serviceId : String) :
    (s.runningNames ns serviceId).Pairwise (· < ·) := by
  have hasc := (s.runningBuilds ns serviceId).ascending
  have hns : ∀ e ∈ (s.runningBuilds ns serviceId).entries, e.1.namespace_ = ns := by
    intro e he
    have hrun := (List.mem_filter.1 he).2
    simp only [isRunningBuild, Bool.and_eq_true, beq_iff_eq] at hrun
    exact hrun.1.1
  rw [runningNames, SortedMap.keys, List.map_map, List.pairwise_map]
  exact hasc.imp_of_mem fun {e e'} he he' hlt =>
    ObjectKey.name_lt_of_compare ((hns e he).trans (hns e' he').symm) hlt

theorem nodup_runningNames (s : Store) (ns serviceId : String) :
    (s.runningNames ns serviceId).Nodup := by
  refine (s.pairwise_runningNames ns serviceId).imp fun {a b} hlt => ?_
  rintro rfl
  exact String.lt_irrefl a hlt

/-- A listing read by a cancellation names the running jobs. -/
theorem activeNames_listJobs {s : Store} (h : Keyed Job.metadata s.jobs) (ns serviceId : String) :
    Build.activeNames (s.listJobs ns (.forService serviceId)) = s.runningNames ns serviceId := by
  simp only [Build.activeNames, listJobs, within, SortedMap.values, runningNames, runningBuilds,
    SortedMap.keys, SortedMap.filter, List.map_map, List.filter_map, List.filter_filter]
  have hsame : ∀ e : ObjectKey × Job, ((Job.isActive ∘ fun e : ObjectKey × Job => e.2) e &&
      (e.1.namespace_ == ns &&
        (Selector.forService serviceId).selects e.2.metadata.labels)) =
      isRunningBuild ns serviceId e.1 e.2 := by
    intro e
    rw [Selector.forService, Selector.selects_all_withTerm]
    exact Bool.and_comm _ _
  simp only [hsame]
  refine List.map_congr_left fun e he => ?_
  obtain ⟨hmem, -⟩ := List.mem_filter.1 he
  exact h.name_eq ((SortedMap.mem_entries_iff _).1 hmem)

/-! ## Deletions one after the other -/

/-- The store after the deletion of jobs, one after the other, with their pods. -/
def deleteJobs (s : Store) (ns : String) (names : List String) : Store :=
  names.foldl (fun s name => s.deleteJob ns name .foreground) s

/-- The deletion of a job that is there. -/
theorem deleteJob_foreground {s : Store} {ns name : String} (h : s.jobs.contains ⟨ns, name⟩ = true) :
    s.deleteJob ns name .foreground =
      { s with
        jobs := s.jobs.filter fun key _ => key ≠ ⟨ns, name⟩
        pods := s.pods.filter fun key pod => !isPodOfAny ns [name] key pod
        deletions := s.deletions ++ [(name, .foreground)] } := by
  have hpods : (fun key pod => !isPodOf ns name key pod) =
      fun key pod => !isPodOfAny ns [name] key pod := by
    funext key pod
    simp [isPodOf, isPodOfAny, Selector.forJobPods, Selector.selects_all_withTerm]
  rw [deleteJob, if_pos h, SortedMap.erase_eq_filter, if_neg (by decide), hpods]

/-- Deletions of different jobs that are there come to one step. -/
theorem deleteJobs_eq {s : Store} {ns : String} {names : List String} (hnodup : names.Nodup)
    (hthere : ∀ name ∈ names, s.jobs.contains ⟨ns, name⟩ = true) :
    s.deleteJobs ns names =
      { s with
        jobs := s.jobs.filter fun key _ => !(key.namespace_ == ns && names.contains key.name)
        pods := s.pods.filter fun key pod => !isPodOfAny ns names key pod
        deletions := s.deletions ++ names.map fun name => (name, .foreground) } := by
  induction names generalizing s with
  | nil => simp [deleteJobs, isPodOfAny, SortedMap.filter_eq_self]
  | cons name names ih =>
    obtain ⟨hnew, hnodup⟩ := List.nodup_cons.1 hnodup
    have hhead := deleteJob_foreground (hthere name List.mem_cons_self)
    have hrest : ∀ name' ∈ names,
        (s.deleteJob ns name .foreground).jobs.contains ⟨ns, name'⟩ = true := by
      intro name' hname'
      obtain ⟨job, hjob⟩ := SortedMap.contains_iff.1 (hthere name' (List.mem_cons_of_mem _ hname'))
      have hne : name' ≠ name := fun e => hnew (e ▸ hname')
      rw [hhead]
      exact SortedMap.contains_iff.2
        ⟨job, SortedMap.find?_filter_eq_some_iff.2 ⟨hjob, by simp [hne]⟩⟩
    show (s.deleteJob ns name .foreground).deleteJobs ns names = _
    rw [ih hnodup hrest, hhead]
    simp only [SortedMap.filter_filter, List.append_assoc, List.map_cons, List.singleton_append]
    congr 1
    · congr 1
      funext key job
      obtain ⟨ns', name'⟩ := key
      by_cases hns : ns' = ns <;> by_cases hname : name' = name <;> simp [hns, hname]
    · congr 1
      funext key pod
      by_cases hns : key.namespace_ = ns
      · simp [isPodOfAny, hns]
      · simp [isPodOfAny, beq_false_of_ne hns]

/-- The deletion of the running jobs of a service clears the store of them. -/
theorem deleteJobs_runningNames (s : Store) (ns serviceId : String) :
    s.deleteJobs ns (s.runningNames ns serviceId) = s.cleared ns serviceId := by
  have hthere : ∀ name ∈ s.runningNames ns serviceId, s.jobs.contains ⟨ns, name⟩ = true := by
    intro name hname
    obtain ⟨job, hjob, -⟩ := mem_runningNames.1 hname
    exact SortedMap.contains_iff.2 ⟨job, hjob⟩
  have hjobs : (s.jobs.filter fun key _ =>
        !(key.namespace_ == ns && (s.runningNames ns serviceId).contains key.name)) =
      s.jobs.filter fun key job => !isRunningBuild ns serviceId key job := by
    refine SortedMap.filter_congr fun key job hjob => ?_
    obtain ⟨ns', name⟩ := key
    by_cases hns : ns' = ns
    · subst hns
      have hiff : name ∈ s.runningNames ns' serviceId ↔
          isRunningBuild ns' serviceId ⟨ns', name⟩ job = true := by
        rw [mem_runningNames]
        constructor
        · rintro ⟨job', hjob', hrun⟩
          obtain rfl := Option.some.inj (hjob.symm.trans hjob')
          exact hrun
        · exact fun hrun => ⟨job, hjob, hrun⟩
      by_cases hrun : isRunningBuild ns' serviceId ⟨ns', name⟩ job = true
      · simp [hrun, hiff.2 hrun]
      · simp [hrun, mt hiff.1 hrun]
    · simp [isRunningBuild, beq_false_of_ne hns]
  rw [deleteJobs_eq (s.nodup_runningNames ns serviceId) hthere, cleared, hjobs]

@[simp] theorem faults_deleteJob (s : Store) (ns name : String) (propagation : Propagation) :
    (s.deleteJob ns name propagation).faults = s.faults := by
  unfold deleteJob
  split <;> rfl

end Store

namespace Build

/-! ## What comes of a cancellation -/

/-- Deletions fail at the first job or not at all. -/
theorem outcome_inOrder_deletions (ns : String) (names : List String) (s : Store) :
    (Strand.inOrder (deletions ns names)).outcome s =
      match s.faults .deleteJob, names with
      | some message, name :: _ =>
        (.error (Failure.during ("failed to delete job " ++ name) ⟨.kubernetes, message⟩), s)
      | _, _ => (.ok (), s.deleteJobs ns names) := by
  induction names generalizing s with
  | nil => cases s.faults .deleteJob <;> rfl
  | cons name names ih =>
    show (((Cluster.deletion ns name .foreground).within _).run >>= fun _ =>
      Strand.inOrder (deletions ns names) : Attempt Store Unit).outcome s = _
    have hfirst : (Cluster.deletion ns name .foreground : Strand Store Unit).run.outcome s = _ :=
      Store.outcome_deleteJob s ns name .foreground
    rw [Attempt.outcome_bind, Strand.run_within, Attempt.outcome_within, hfirst]
    cases hfault : s.faults .deleteJob with
    | some message => rfl
    | none =>
      simp only [during_ok, ih, Store.faults_deleteJob, hfault, Store.deleteJobs, List.foldl_cons]

/-- In memory nothing is waited for, so deletions side by side go on in order. -/
theorem outcome_deleteAll_store (ns : String) (names : List String) (s : Session Store) :
    (deleteAll ns names).outcome s =
      match s.cluster.faults .deleteJob, names with
      | some message, name :: _ =>
        (.error (Failure.during ("failed to delete job " ++ name) ⟨.kubernetes, message⟩), s)
      | _, _ => (.ok (), { s with cluster := s.cluster.deleteJobs ns names }) := by
  show (((Strand.inOrder (deletions ns names)).outcome s.cluster).1,
    { s with cluster := ((Strand.inOrder (deletions ns names)).outcome s.cluster).2 }) = _
  rw [outcome_inOrder_deletions]
  cases s.cluster.faults .deleteJob <;> cases names <;> rfl

/-- A cancellation over a store where every job is stored under its own name: it fails without any
effect, or clears the store of the running jobs of the service. -/
theorem outcome_cancel_store {s : Session Store} (h : Keyed Job.metadata s.cluster.jobs)
    (settings : Settings) (serviceId : String) :
    (cancel settings serviceId).outcome s =
      match s.cluster.faults .listJobs, s.cluster.faults .deleteJob,
          s.cluster.runningNames settings.namespace_ serviceId with
      | some message, _, _ =>
        (.error (Failure.during ("failed to list jobs for service ID " ++ serviceId)
          ⟨.kubernetes, message⟩), s)
      | none, some message, name :: _ =>
        (.error (Failure.during ("failed to delete job " ++ name) ⟨.kubernetes, message⟩), s)
      | none, _, names =>
        (.ok names,
          { s with
            cluster := s.cluster.cleared settings.namespace_ serviceId
            counters := s.counters.addCanceled names.length }) := by
  rw [outcome_cancel, Store.outcome_listJobs]
  cases hlist : s.cluster.faults .listJobs with
  | some message => rfl
  | none =>
    dsimp only
    rw [Store.activeNames_listJobs h, outcome_deleteAll_store]
    dsimp only
    rw [Store.deleteJobs_runningNames]
    cases s.cluster.faults .deleteJob <;>
      cases s.cluster.runningNames settings.namespace_ serviceId <;> rfl

theorem cancel_store_eq_ok {settings : Settings} {serviceId : String} {s s' : Session Store}
    {names : List String} (hkeyed : Keyed Job.metadata s.cluster.jobs)
    (h : (cancel settings serviceId).outcome s = (.ok names, s')) :
    names = s.cluster.runningNames settings.namespace_ serviceId ∧
      s' = { s with
        cluster := s.cluster.cleared settings.namespace_ serviceId
        counters := s.counters.addCanceled names.length } := by
  rw [outcome_cancel_store hkeyed] at h
  split at h
  · cases h
  · cases h
  · cases h
    exact ⟨rfl, rfl⟩

/-- A cancellation over a store that fails changes nothing. -/
theorem cancel_store_eq_error {settings : Settings} {serviceId : String} {s s' : Session Store}
    {e : Failure} (hkeyed : Keyed Job.metadata s.cluster.jobs)
    (h : (cancel settings serviceId).outcome s = (.error e, s')) :
    s' = s ∧
      ((∃ message, s.cluster.faults .listJobs = some message ∧
          e = Failure.during ("failed to list jobs for service ID " ++ serviceId)
            ⟨.kubernetes, message⟩) ∨
        (∃ message name, s.cluster.faults .deleteJob = some message ∧
          name ∈ s.cluster.runningNames settings.namespace_ serviceId ∧
          e = Failure.during ("failed to delete job " ++ name) ⟨.kubernetes, message⟩)) := by
  rw [outcome_cancel_store hkeyed] at h
  split at h
  · rename_i message hlist
    cases h
    exact ⟨rfl, .inl ⟨message, hlist, rfl⟩⟩
  · rename_i message name names _ hdelete hnames
    cases h
    exact ⟨rfl, .inr ⟨message, name, hdelete, hnames ▸ List.mem_cons_self, rfl⟩⟩
  · cases h

end Build

end BuildYard
