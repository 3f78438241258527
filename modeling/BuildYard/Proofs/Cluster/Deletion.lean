import BuildYard.Proofs.Cluster.Keys
/-!
# Deleting a job

A deletion takes out the job with a name in a namespace, notes it, and takes the job's pods along unless
they are to be orphans. Where the job is not there it succeeds all the same, and nothing changes. All of
this holds of any store, also of one where objects are not stored where they belong.

* `Deletes`: what a deletion makes of a store, through look-ups.
* `deletes_iff`: nothing else meets this description.
* `deletion_settles`: deletions are idempotent, and undo creations.
-/

namespace BuildYard.Store

variable {s s' : Store} {ns name : String} {propagation : Propagation}

/-- What a deletion makes of a store. -/
inductive Deletes (s : Store) (ns name : String) (propagation : Propagation) : Store → Prop
  /-- Without the job nothing changes, even where pods have its name on them. -/
  | absent (not_there : s.jobs.find? ⟨ns, name⟩ = none) : Deletes s ns name propagation s
  /-- The job goes and no other, and its pods go if they are not to be orphans. -/
  | present {s' : Store} {job : Job} (is_there : s.jobs.find? ⟨ns, name⟩ = some job)
      (jobs : ∀ key other, s'.jobs.find? key = some other ↔
        s.jobs.find? key = some other ∧ key ≠ ⟨ns, name⟩)
      (pods : ∀ key pod, s'.pods.find? key = some pod ↔
        s.pods.find? key = some pod ∧ ¬ (propagation ≠ .orphan ∧ key.namespace_ = ns ∧
          pod.metadata.labels.bind (·.find? "job-name") = some name))
      (deletions : s'.deletions = s.deletions ++ [(name, propagation)])
      (scaledSets : s'.scaledSets = s.scaledSets) (daemonSets : s'.daemonSets = s.daemonSets)
      (faults : s'.faults = s.faults) : Deletes s ns name propagation s'

/-! ## The description is met -/

theorem isPodOf_iff {jobName : String} {key : ObjectKey} {pod : Pod} :
    isPodOf ns jobName key pod = true ↔
      key.namespace_ = ns ∧ pod.metadata.labels.bind (·.find? "job-name") = some jobName := by
  rw [isPodOf, Selector.forJobPods, Selector.selects_all_withTerm, Bool.and_eq_true, beq_iff_eq,
    beq_iff_eq]
  rfl

/-- The pods that a deletion leaves are those of other jobs, or all of them. -/
theorem find?_kept_eq_some_iff {key : ObjectKey} {pod : Pod} :
    (if propagation = .orphan then s.pods
        else s.pods.filter fun key pod => !isPodOf ns name key pod).find? key = some pod ↔
      s.pods.find? key = some pod ∧ ¬ (propagation ≠ .orphan ∧ key.namespace_ = ns ∧
        pod.metadata.labels.bind (·.find? "job-name") = some name) := by
  rw [← isPodOf_iff]
  split
  · rename_i horphan
    simp [horphan]
  · rename_i hcascade
    rw [SortedMap.find?_filter_eq_some_iff]
    simp [hcascade]

theorem deleteJob_of_absent (h : s.jobs.find? ⟨ns, name⟩ = none) :
    s.deleteJob ns name propagation = s := by
  rw [deleteJob, if_neg]
  rw [SortedMap.contains, h]
  exact Bool.false_ne_true

/-- Whether the job is there or not, the jobs under other keys are left. -/
theorem jobs_deleteJob (s : Store) (ns name : String) (propagation : Propagation) :
    (s.deleteJob ns name propagation).jobs = s.jobs.erase ⟨ns, name⟩ := by
  cases hjob : s.jobs.find? ⟨ns, name⟩ with
  | none =>
    rw [deleteJob_of_absent hjob, SortedMap.erase_eq_self hjob]
  | some job => rw [deleteJob, if_pos (SortedMap.contains_iff.2 ⟨job, hjob⟩)]

theorem deletes_deleteJob (s : Store) (ns name : String) (propagation : Propagation) :
    Deletes s ns name propagation (s.deleteJob ns name propagation) := by
  cases hjob : s.jobs.find? ⟨ns, name⟩ with
  | none =>
    rw [deleteJob_of_absent hjob]
    exact .absent hjob
  | some job =>
    rw [deleteJob, if_pos (SortedMap.contains_iff.2 ⟨job, hjob⟩)]
    exact .present hjob (fun _ _ => SortedMap.find?_erase_eq_some_iff) (fun _ _ => find?_kept_eq_some_iff)
      rfl rfl rfl rfl

/-! ## Nothing else meets it -/

theorem Deletes.unique {t t' : Store} (h : Deletes s ns name propagation t)
    (h' : Deletes s ns name propagation t') : t = t' := by
  cases h with
  | absent hnone =>
    cases h' with
    | absent => rfl
    | present hjob => cases hnone.symm.trans hjob
  | present hjob hjobs hpods hdeletions hscaled hdaemon hfaults =>
    cases h' with
    | absent hnone => cases hnone.symm.trans hjob
    | present _ hjobs' hpods' hdeletions' hscaled' hdaemon' hfaults' =>
      have hsameJobs := SortedMap.ext_find?_iff fun key job => (hjobs key job).trans (hjobs' key job).symm
      have hsamePods := SortedMap.ext_find?_iff fun key pod => (hpods key pod).trans (hpods' key pod).symm
      cases t
      cases t'
      rw [mk.injEq]
      exact ⟨hsameJobs, hsamePods, hscaled.trans hscaled'.symm, hdaemon.trans hdaemon'.symm,
        hdeletions.trans hdeletions'.symm, hfaults.trans hfaults'.symm⟩

theorem deletes_iff : Deletes s ns name propagation s' ↔ s' = s.deleteJob ns name propagation :=
  ⟨fun h => h.unique (deletes_deleteJob s ns name propagation), fun h => h ▸ deletes_deleteJob ..⟩

/-! ## Deletions and other operations -/

/-- A deletion asks for nothing else than not to be made to fail, and is met as it is described. -/
theorem outcome_deleteJob_iff {r : Except Failure Unit} (h : s.faults .deleteJob = none) :
    (Cluster.deleteJob ns name propagation : Attempt Store Unit).outcome s = (r, s') ↔
      r = .ok () ∧ Deletes s ns name propagation s' := by
  rw [outcome_deleteJob, h, deletes_iff, Prod.mk.injEq, eq_comm, eq_comm (a := s')]

/-- After a deletion the job is not there. -/
theorem Deletes.find?_eq_none (h : Deletes s ns name propagation s') :
    s'.jobs.find? ⟨ns, name⟩ = none := by
  cases h with
  | absent hnone => exact hnone
  | present _ hjobs =>
    refine Option.eq_none_iff_forall_ne_some.2 fun job hjob => ?_
    exact ((hjobs _ job).1 hjob).2 rfl

theorem Deletes.faults_eq (h : Deletes s ns name propagation s') : s'.faults = s.faults := by
  cases h with
  | absent => rfl
  | present _ _ _ _ _ _ hfaults => exact hfaults

/-- **A deletion that is not made to fail succeeds, and takes out the job and its pods as it should; the
same deletion again changes nothing, and a deletion after a creation gives back the jobs.** -/
theorem deletion_settles (h : s.faults .deleteJob = none) :
    (∀ ns name propagation r s',
      (Cluster.deleteJob ns name propagation : Attempt Store Unit).outcome s = (r, s') ↔
        r = .ok () ∧ Deletes s ns name propagation s') ∧
    (∀ ns name propagation s', Deletes s ns name propagation s' → ∀ propagation',
      (Cluster.deleteJob ns name propagation' : Attempt Store Unit).outcome s' = (.ok (), s')) ∧
    ∀ ns job stored created,
      (Cluster.createJob ns job : Attempt Store Job).outcome s = (.ok stored, created) →
        ∃ name, job.metadata.name = some name ∧ stored.metadata.name = some name ∧
          ∀ propagation, ∃ s',
            (Cluster.deleteJob ns name propagation : Attempt Store Unit).outcome created =
              (.ok (), s') ∧ s'.jobs = s.jobs := by
  refine ⟨fun _ _ _ _ _ => outcome_deleteJob_iff h, ?_, ?_⟩
  · intro ns name propagation s' hdeletes propagation'
    have hfault : s'.faults .deleteJob = none := by rw [hdeletes.faults_eq, h]
    exact (outcome_deleteJob_iff hfault).2 ⟨rfl, .absent hdeletes.find?_eq_none⟩
  · intro ns job stored created hcreate
    rw [outcome_createJob] at hcreate
    split at hcreate
    · cases hcreate
    · rename_i hok
      cases hcreate
      obtain ⟨name, hname, hnew, rfl, rfl⟩ := createJob_eq_ok hok
      refine ⟨name, hname, hname, fun propagation => ?_⟩
      refine ⟨_, (outcome_deleteJob _ ns name propagation).trans (by rw [h]), ?_⟩
      rw [jobs_deleteJob]
      exact SortedMap.erase_insert hnew _
    · cases hcreate

/-- A job with a name, and nothing else to it. -/
def bareJob (ns name : String) : Job where
  metadata := { name := some name, namespace_ := some ns }

/-- A pod with the name of a job on it. -/
def podNamedFor (ns name jobName : String) : Pod where
  metadata := {
    name := some name
    namespace_ := some ns
    labels := some (SortedMap.ofList [("job-name", jobName)]) }

/-- Two namespaces with jobs and pods of the same names, and a pod for a job that is not there. -/
def twinYard : Store := after {} [
  .insertJob (bareJob "a" "build"), .insertJob (bareJob "b" "build"),
  .insertPod (podNamedFor "a" "pod" "build"), .insertPod (podNamedFor "b" "pod" "build"),
  .insertPod (podNamedFor "a" "stray" "gone")]

/-- The twins in the other namespace stay, and the pod whose job is not there stays when that job is
deleted. -/
theorem deletion_settles_twinYard :
    twinYard.faults .deleteJob = none ∧
      (Cluster.deleteJob "a" "gone" .background : Attempt Store Unit).outcome twinYard =
        (.ok (), twinYard) ∧
      (∃ s', (Cluster.deleteJob "a" "build" .foreground : Attempt Store Unit).outcome twinYard =
          (.ok (), s') ∧
        Deletes twinYard "a" "build" .foreground s' ∧
        s'.jobs.find? ⟨"b", "build"⟩ = some (bareJob "b" "build") ∧
        s'.pods.find? ⟨"a", "pod"⟩ = none ∧
        s'.pods.find? ⟨"b", "pod"⟩ = some (podNamedFor "b" "pod" "build") ∧
        (Cluster.deleteJob "a" "build" .orphan : Attempt Store Unit).outcome s' = (.ok (), s')) ∧
      ∃ created s', (Cluster.createJob "c" (bareJob "c" "build") : Attempt Store Job).outcome
          twinYard = (.ok (bareJob "c" "build"), created) ∧
        (Cluster.deleteJob "c" "build" .foreground : Attempt Store Unit).outcome created =
          (.ok (), s') ∧ s'.jobs = twinYard.jobs := by
  have hfault : twinYard.faults .deleteJob = none := rfl
  obtain ⟨hiff, hagain, hundone⟩ := deletion_settles hfault
  have hgone := (hiff "a" "gone" .background (.ok ()) twinYard).2 ⟨rfl, .absent rfl⟩
  obtain ⟨-, hdeletes⟩ := (hiff "a" "build" .foreground _ _).1 rfl
  obtain ⟨name, hname, -, hback⟩ := hundone "c" (bareJob "c" "build") _ _ rfl
  obtain rfl := Option.some.inj hname
  obtain ⟨s', hdelete, hjobs⟩ := hback .foreground
  exact ⟨hfault, hgone, ⟨_, rfl, hdeletes, rfl, rfl, rfl, hagain _ _ _ _ hdeletes .orphan⟩,
    _, s', rfl, hdelete, hjobs⟩

end BuildYard.Store
