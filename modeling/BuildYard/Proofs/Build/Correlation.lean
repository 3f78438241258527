import BuildYard.Proofs.Build.Cancellations
import BuildYard.Proofs.Build.Replacement
import BuildYard.Proofs.Cluster.Listing
import BuildYard.Proofs.Label.BuildLabels
/-!
# Following a build by its labels

A build is found again by labels alone: its job by the id of the service, its pods by the name of the
job, and from either of them the ids that were submitted. The job, the template of its pods, the
selectors and the deletion have to agree on the keys and on the values for this.

* `Job.Makes`: the pods that carry the labels of a job's template.
* `Correlated`: a stored job and its pods are found by its labels, and a cancellation finds them.
* `submit_correlates`: a submission that succeeds leaves such a job.
-/

namespace BuildYard

/-! ## Pods of a job -/

/-- The labels that the template of a job gives to its pods. -/
def Job.podLabels (job : Job) : Option Labels :=
  job.spec.bind fun spec => spec.template.metadata.bind (·.labels)

/-- Does the pod carry the labels of the job's template? It may carry others too. -/
def Job.Makes (job : Job) (pod : Pod) : Prop :=
  ∃ labels labels', job.podLabels = some labels ∧ pod.metadata.labels = some labels' ∧
    labels.HeldBy labels'

namespace Build

variable {request : BuildRequest} {name : String} {at_ : Instant} {settings : Settings}

/-- The job of a build has the labels of its template. -/
theorem labels_manifest (request : BuildRequest) (name : String) (at_ : Instant)
    (settings : Settings) :
    (manifest request name at_ settings).metadata.labels = some (labels request name) ∧
      (manifest request name at_ settings).podLabels = some (labels request name) :=
  ⟨rfl, rfl⟩

/-- A pod of a build carries the name of the build's job. -/
theorem jobName_of_makes {pod : Pod} (h : (manifest request name at_ settings).Makes pod) :
    pod.metadata.labels.bind (·.find? LabelKey.jobName.text) = some name := by
  obtain ⟨podLabels, carried, hmade, hcarried, hheld⟩ := h
  rw [(labels_manifest request name at_ settings).2] at hmade
  obtain rfl := Option.some.inj hmade
  rw [hcarried]
  exact hheld _ _ (BuildLabels.find?_toLabels _ .jobName)

/-! ## Looking for a build -/

variable {ns : String} {s : Store}

/-- A job of a build that is stored is listed for its service and for no other. -/
theorem mem_listJobs_forService {key : String}
    (h : s.jobs.find? ⟨ns, key⟩ = some (manifest request name at_ settings)) (serviceId : String) :
    manifest request name at_ settings ∈ s.listJobs ns (.forService serviceId) ↔
      serviceId = request.serviceId := by
  have hselected : ∀ job : Job, (Selector.forService serviceId).selects job.metadata.labels =
      job.isOf serviceId := fun job => Selector.selects_all_withTerm ..
  rw [Store.listJobs, Store.mem_within]
  simp only [hselected, isOf_manifest, beq_iff_eq]
  constructor
  · rintro ⟨-, -, heq⟩
    exact heq.symm
  · rintro rfl
    exact ⟨key, h, rfl⟩

/-- A pod of a build that is stored is listed for the job of the build and for no other. -/
theorem mem_listPods_forJobPods {key : String} {pod : Pod}
    (h : s.pods.find? ⟨ns, key⟩ = some pod)
    (hmakes : (manifest request name at_ settings).Makes pod) (jobName : String) :
    pod ∈ s.listPods ns (.forJobPods jobName) ↔ jobName = name := by
  have hselected : (Selector.forJobPods jobName).selects pod.metadata.labels =
      (some name == some jobName) := by
    rw [Selector.forJobPods, Selector.selects_all_withTerm, jobName_of_makes hmakes]
  rw [Store.listPods, Store.mem_within]
  simp only [hselected, beq_iff_eq, Option.some.injEq]
  constructor
  · rintro ⟨-, -, heq⟩
    exact heq.symm
  · rintro rfl
    exact ⟨key, h, rfl⟩

/-! ## Canceling a build -/

/-- A cancellation that is not made to fail finds a build that runs, and leaves neither its job nor a
pod of it. -/
theorem cancel_running {v : Session Store} {status : JobStatus}
    (hkeyed : Keyed Job.metadata v.cluster.jobs)
    (hstored : v.cluster.jobs.find? ⟨settings.namespace_, name⟩ =
      some { manifest request name at_ settings with status := some status })
    (hactive : 0 < status.active.getD 0)
    (hlist : v.cluster.faults .listJobs = none) (hdelete : v.cluster.faults .deleteJob = none) :
    ∃ names v', (cancel settings request.serviceId).outcome v = (.ok names, v') ∧
      name ∈ names ∧
      v'.cluster.jobs.find? ⟨settings.namespace_, name⟩ = none ∧
      ∀ key pod, v.cluster.pods.find? ⟨settings.namespace_, key⟩ = some pod →
        (manifest request name at_ settings).Makes pod →
          v'.cluster.pods.find? ⟨settings.namespace_, key⟩ = none := by
  have hrun : isRunningBuild settings.namespace_ request.serviceId ⟨settings.namespace_, name⟩
      { manifest request name at_ settings with status := some status } = true := by
    have hof : Job.isOf { manifest request name at_ settings with status := some status }
        request.serviceId = true :=
      (isOf_manifest request name at_ settings _).trans (beq_self_eq_true _)
    have hisActive : Job.isActive { manifest request name at_ settings with
        status := some status } = true := decide_eq_true hactive
    rw [isRunningBuild_self, hof, hisActive, Bool.and_self]
  have hname : name ∈ v.cluster.runningNames settings.namespace_ request.serviceId :=
    Store.mem_runningNames.2 ⟨_, hstored, hrun⟩
  have houtcome := outcome_cancel_eq hkeyed settings request.serviceId
  rw [refusal?_eq_none_iff.2 ⟨hlist, .inl hdelete⟩] at houtcome
  refine ⟨_, _, houtcome, hname, ?_, ?_⟩
  · refine Option.eq_none_iff_forall_ne_some.2 fun job hjob => ?_
    obtain ⟨hfound, hidle⟩ := Store.find?_jobs_cleared.1 hjob
    obtain rfl := Option.some.inj (hstored.symm.trans hfound)
    rw [hrun] at hidle
    cases hidle
  · intro key pod hpod hmakes
    have hgone : isPodOfAny settings.namespace_
        (v.cluster.runningNames settings.namespace_ request.serviceId)
        ⟨settings.namespace_, key⟩ pod = true := by
      rw [isPodOfAny, beq_self_eq_true, Bool.true_and, List.any_eq_true]
      exact ⟨name, hname, beq_iff_eq.2 (jobName_of_makes hmakes)⟩
    show (v.cluster.cleared _ _).pods.find? _ = none
    rw [Store.pods_cleared, SortedMap.find?_filter, hpod, Option.filter_some_neg (by simp [hgone])]

/-! ## All of it together -/

/-- A job that is stored under a name is the build of the request, and is found by its labels. -/
structure Correlated (settings : Settings) (request : BuildRequest) (name : String) (job : Job)
    (s : Store) : Prop where
  stored : s.jobs.find? ⟨settings.namespace_, name⟩ = some job
  /-- The job and its template carry the same labels. -/
  template : job.metadata.labels = job.podLabels
  /-- The labels tell what was submitted. -/
  ids : job.metadata.labels.bind BuildLabels.ofLabels? =
    some ⟨request.serviceId, request.jobId, name⟩
  /-- The job is listed for its service alone. -/
  listed : ∀ serviceId, ∃ jobs,
    (Cluster.listJobs settings.namespace_ (.forService serviceId)).outcome s = (.ok jobs, s) ∧
      (job ∈ jobs ↔ serviceId = request.serviceId)
  /-- Wherever a pod with the labels of the template is, it is listed for the job alone. -/
  podsListed : ∀ (t : Store) key pod,
    t.pods.find? ⟨settings.namespace_, key⟩ = some pod → job.Makes pod →
      t.faults .listPods = none → ∀ jobName, ∃ pods,
        (Cluster.listPods settings.namespace_ (.forJobPods jobName)).outcome t = (.ok pods, t) ∧
          (pod ∈ pods ↔ jobName = name)
  /-- Once the job is set to run, a cancellation for its service deletes it with such pods, whatever
  else has happened before. -/
  canceled : ∀ changes status,
    (s.after changes).jobs.find? ⟨settings.namespace_, name⟩ = some job →
    (s.after changes).faults .listJobs = none → (s.after changes).faults .deleteJob = none →
    0 < status.active.getD 0 →
      ∃ t, (s.after changes).setJobStatus settings.namespace_ name status = .ok t ∧
        ∀ v : Session Store, v.cluster = t → ∃ names v',
          (cancel settings request.serviceId).outcome v = (.ok names, v') ∧
          name ∈ names ∧
          v'.cluster.jobs.find? ⟨settings.namespace_, name⟩ = none ∧
          ∀ key pod, t.pods.find? ⟨settings.namespace_, key⟩ = some pod → job.Makes pod →
            v'.cluster.pods.find? ⟨settings.namespace_, key⟩ = none

/-- The job of a build is found by its labels where it is stored. -/
theorem correlated_manifest (hs : s.WellKeyed) (hlist : s.faults .listJobs = none)
    (hstored : s.jobs.find? ⟨settings.namespace_, name⟩ =
      some (manifest request name at_ settings)) :
    Correlated settings request name (manifest request name at_ settings) s where
  stored := hstored
  template := rfl
  ids := BuildLabels.ofLabels?_toLabels _
  listed serviceId := by
    refine ⟨_, ?_, mem_listJobs_forService hstored serviceId⟩
    rw [Store.outcome_listJobs, hlist]
  podsListed t key pod hpod hmakes hpods jobName := by
    refine ⟨_, ?_, mem_listPods_forJobPods hpod hmakes jobName⟩
    rw [Store.outcome_listPods, hpods]
  canceled changes status hjob hlist hdelete hactive := by
    have hset : (s.after changes).setJobStatus settings.namespace_ name status =
        .ok { s.after changes with
          jobs := (s.after changes).jobs.insert ⟨settings.namespace_, name⟩
            { manifest request name at_ settings with status := some status } } := by
      rw [Store.setJobStatus, hjob]
    have hkeyed := (hs.after changes).setJobStatus settings.namespace_ name status
    rw [hset] at hkeyed
    refine ⟨_, hset, ?_⟩
    rintro v hv
    obtain ⟨names, v', houtcome, hname, hgone, hpods⟩ := cancel_running (v := v)
      (by rw [hv]; exact hkeyed.jobs) (by rw [hv]; exact SortedMap.find?_insert_self ..) hactive
      (by rw [hv]; exact hlist) (by rw [hv]; exact hdelete)
    exact ⟨names, v', houtcome, hname, hgone, by rw [hv] at hpods; exact hpods⟩

/-- **A submission leaves a build that is found by its labels.** From every store that can come about,
a submission that succeeds stores a job whose labels are those of its template and tell the ids that
were submitted with the name that was answered; the job is listed for its service alone, its pods for
the job alone; and once it runs, a cancellation of the service names it and deletes it with its pods,
unless listings or deletions are made to fail. The ids are read from labels exactly when these hold
every label that is written for the ids. -/
theorem submit_correlates (settings : Settings) :
    (∀ (request : BuildRequest) (s s' : Session Store) (name : String), s.cluster.Reachable →
      (submit settings request).outcome s = (.ok name, s') →
        ∃ job, Correlated settings request name job s'.cluster) ∧
    ∀ (labels : Labels) (ids : BuildLabels),
      BuildLabels.ofLabels? labels = some ids ↔ ids.toLabels.HeldBy labels := by
  refine ⟨fun request s s' name hs hok => ?_, fun labels ids => ids.ofLabels?_eq_some_iff⟩
  obtain ⟨-, -, -, hcluster, -⟩ := submit_store_eq_ok hs.wellKeyed.jobs hok
  obtain ⟨-, -, names, s₁, -, -, hcancel, -, -⟩ := submit_eq_ok_iff.1 hok
  have hlist : s.cluster.faults .listJobs = none := by
    cases hrefused : refusal? s.cluster settings.namespace_ request.serviceId with
    | none => exact (refusal?_eq_none_iff.1 hrefused).1
    | some e =>
      rw [outcome_cancel_eq hs.wellKeyed.jobs, hrefused] at hcancel
      cases hcancel
  have hcleared := hs.wellKeyed.cleared settings.namespace_ request.serviceId
  rw [hcluster]
  exact ⟨_, correlated_manifest
    ⟨hcleared.jobs.insert rfl, hcleared.pods, hcleared.scaledSets, hcleared.daemonSets⟩ hlist
    (SortedMap.find?_insert_self ..)⟩

/-- A pod with the labels of a build and one of its own. -/
def buildPod (request : BuildRequest) (jobName : String) : Pod where
  metadata := {
    name := some "pod"
    namespace_ := some "unbind-system"
    labels := some ((labels request jobName).insert "controller-uid" "1") }

theorem makes_buildPod (request : BuildRequest) (name : String) (at_ : Instant)
    (settings : Settings) :
    (manifest request name at_ settings).Makes (buildPod request name) := by
  refine ⟨_, _, rfl, rfl, fun text value hfind => ?_⟩
  obtain ⟨key, rfl⟩ := BuildLabels.exists_key_of_find?_toLabels _ hfind
  have hne : key.text ≠ "controller-uid" := by cases key <;> decide
  rw [SortedMap.find?_insert_of_ne _ hne]
  exact hfind

/-- A build for the service of `busyYard`. -/
def newRequest : BuildRequest := { serviceId := "svc", jobId := "new" }

/-- `busyYard` after that build has been submitted. -/
def submittedYard : Session Store := ((submit {} newRequest).outcome busyYard).2

/-- The build gets a pod and comes to run; a cancellation names it and takes the pod away. -/
theorem submit_correlates_busyYard :
    busyYard.cluster.Reachable ∧
      (submit {} newRequest).outcome busyYard = (.ok "new-deployment-0", submittedYard) ∧
      ∃ t names v',
        (submittedYard.cluster.after
            [.insertPod (buildPod newRequest "new-deployment-0")]).setJobStatus
          "unbind-system" "new-deployment-0" { active := some 1 } = .ok t ∧
        t.pods.contains ⟨"unbind-system", "pod"⟩ = true ∧
        (cancel {} "svc").outcome ⟨t, {}, .epoch⟩ = (.ok names, v') ∧
        "new-deployment-0" ∈ names ∧
        v'.cluster.pods.find? ⟨"unbind-system", "pod"⟩ = none := by
  have hs : busyYard.cluster.Reachable := ⟨_, rfl⟩
  have hname : ((submit {} newRequest).outcome busyYard).1 = .ok "new-deployment-0" := rfl
  have hsubmit : (submit {} newRequest).outcome busyYard = (.ok "new-deployment-0", submittedYard) :=
    Prod.ext hname rfl
  obtain ⟨job, hjob⟩ := (submit_correlates {}).1 newRequest busyYard submittedYard _ hs hsubmit
  have hstored : submittedYard.cluster.jobs.find? ⟨"unbind-system", "new-deployment-0"⟩ =
      some (manifest newRequest "new-deployment-0" .epoch {}) := rfl
  obtain rfl := Option.some.inj (hstored.symm.trans hjob.stored)
  obtain ⟨t, hset, hcancel⟩ := hjob.canceled [.insertPod (buildPod newRequest "new-deployment-0")]
    { active := some 1 } hstored rfl rfl (by decide)
  obtain ⟨names, v', houtcome, hmem, -, hpods⟩ := hcancel ⟨t, {}, .epoch⟩ rfl
  have hpod : t.pods.find? ⟨"unbind-system", "pod"⟩ =
      some (buildPod newRequest "new-deployment-0") := by
    obtain rfl := Except.ok.inj (Eq.trans (Eq.symm hset) rfl)
    rfl
  exact ⟨hs, hsubmit, t, names, v', hset, SortedMap.contains_iff.2 ⟨_, hpod⟩, houtcome, hmem,
    hpods _ _ hpod (makes_buildPod ..)⟩

end Build

end BuildYard
