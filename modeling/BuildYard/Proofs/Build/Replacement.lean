import BuildYard.Proofs.Build.Clearance
/-!
# What a submission does to a store

A submission over a store either replaces the running builds of its service by the new one, or fails.
A failure before the creation leaves everything as it was; a failure of the creation leaves what the
cancellation alone would have left.

* `outcome_create_manifest`: what comes of creating the job of a build.
* `submit_replaces_running`: the state after a submission that succeeds.
* `submit_failure_effect`: the state after a submission that fails, and exactly when it reports a
  conflict.
-/

namespace BuildYard.Build

/-! ## The creation -/

/-- The job of a build is stored as it is made, unless its name is taken. -/
theorem outcome_create_manifest (settings : Settings) (request : BuildRequest) (name : String)
    (at_ : Instant) (s : Store) :
    (Cluster.createJob settings.namespace_ (manifest request name at_ settings)).outcome s =
      match s.faults .createJob with
      | some message => (.error ⟨.kubernetes, message⟩, s)
      | none =>
        if s.jobs.contains ⟨settings.namespace_, name⟩ then
          (.error ⟨.conflict, "jobs \"" ++ name ++ "\" already exists"⟩, s)
        else
          (.ok (manifest request name at_ settings),
            { s with jobs :=
                s.jobs.insert ⟨settings.namespace_, name⟩ (manifest request name at_ settings) }) := by
  rw [Store.outcome_createJob]
  cases s.faults .createJob with
  | some message => rfl
  | none =>
    have hcreate : s.createJob settings.namespace_ (manifest request name at_ settings) =
        if s.jobs.contains ⟨settings.namespace_, name⟩ then
          .error ⟨.conflict, "jobs \"" ++ name ++ "\" already exists"⟩
        else
          .ok (manifest request name at_ settings,
            { s with jobs :=
                s.jobs.insert ⟨settings.namespace_, name⟩ (manifest request name at_ settings) }) :=
      rfl
    rw [hcreate]
    by_cases hthere : s.jobs.contains ⟨settings.namespace_, name⟩ = true
    · simp only [if_pos hthere]
    · simp only [if_neg hthere]

/-- A new job is not active. -/
theorem isActive_manifest (request : BuildRequest) (name : String) (at_ : Instant)
    (settings : Settings) : (manifest request name at_ settings).isActive = false := rfl

/-- A new job is of the service that the request names. -/
theorem isOf_manifest (request : BuildRequest) (name : String) (at_ : Instant)
    (settings : Settings) (serviceId : String) :
    (manifest request name at_ settings).isOf serviceId = (request.serviceId == serviceId) := by
  show ((labels request name).find? LabelKey.serviceId.text == some serviceId) = _
  rw [labels, BuildLabels.find?_serviceId_toLabels]
  rfl

/-! ## A submission that succeeds -/

/-- A submission over a store succeeds when it is not made to fail and no job that stays has the name
of the new one; then the new job takes the place of the running ones. -/
theorem submit_store_eq_ok {settings : Settings} {request : BuildRequest} {s s' : Session Store}
    {name : String} (hkeyed : Keyed Job.metadata s.cluster.jobs)
    (hok : (submit settings request).outcome s = (.ok name, s')) :
    name = jobName request s.now ∧
      (s.cluster.cleared settings.namespace_ request.serviceId).jobs.find?
        ⟨settings.namespace_, name⟩ = none ∧
      s'.now = s.now ∧
      s'.cluster =
        { s.cluster.cleared settings.namespace_ request.serviceId with
          jobs := (s.cluster.cleared settings.namespace_ request.serviceId).jobs.insert
            ⟨settings.namespace_, name⟩ (manifest request name s.now settings) } ∧
      s'.counters = (s.counters.addCanceled
        (s.cluster.runningNames settings.namespace_ request.serviceId).length).addSubmitted := by
  obtain ⟨-, hname, names, s₁, stored, c, hcancel, hcreate, rfl⟩ := submit_eq_ok_iff.1 hok
  obtain ⟨rfl, rfl⟩ := cancel_store_eq_ok hkeyed hcancel
  rw [outcome_create_manifest] at hcreate
  split at hcreate
  · cases hcreate
  · split at hcreate
    · cases hcreate
    · rename_i hnew
      cases hcreate
      exact ⟨hname, by simpa [SortedMap.contains] using hnew, rfl, rfl, rfl⟩

/-- **A submission that succeeds replaces the running builds of its service by the new one.** The
jobs afterwards are those before without the running ones of the service in the namespace, and the
new one under its name; so no job of the service runs there, and every other job is untouched. The
names of the jobs that are gone are added to the deletions, in ascending order, and the pods that are
gone are those in the namespace that carry one of these names. -/
theorem submit_replaces_running (settings : Settings) (request : BuildRequest)
    {s s' : Session Store} {name : String} (hs : s.cluster.Reachable)
    (hok : (submit settings request).outcome s = (.ok name, s')) :
    name = buildJobName request.jobId s.now.seconds ∧
      s'.cluster.jobs =
        (s.cluster.jobs.filter fun key job =>
          !isRunningBuild settings.namespace_ request.serviceId key job).insert
            ⟨settings.namespace_, name⟩ (manifest request name s.now settings) ∧
      (∀ key job, s'.cluster.jobs.find? key = some job →
        isRunningBuild settings.namespace_ request.serviceId key job = false) ∧
      (∀ key job, s.cluster.jobs.find? key = some job →
        isRunningBuild settings.namespace_ request.serviceId key job = false →
          s'.cluster.jobs.find? key = some job) ∧
      ∃ gone : List String,
        gone.Pairwise (· < ·) ∧
        (∀ n, n ∈ gone ↔ ∃ job, s.cluster.jobs.find? ⟨settings.namespace_, n⟩ = some job ∧
          isRunningBuild settings.namespace_ request.serviceId ⟨settings.namespace_, n⟩ job) ∧
        s'.cluster.deletions = s.cluster.deletions ++ gone.map (fun n => (n, .foreground)) ∧
        s'.cluster.pods =
          s.cluster.pods.filter fun key pod => !isPodOfAny settings.namespace_ gone key pod := by
  obtain ⟨hname, hnew, -, hcluster, -⟩ := submit_store_eq_ok hs.wellKeyed.jobs hok
  refine ⟨hname, by rw [hcluster]; rfl, ?_, ?_,
    s.cluster.runningNames settings.namespace_ request.serviceId,
    s.cluster.pairwise_runningNames _ _, fun n => Store.mem_runningNames,
    by rw [hcluster]; rfl, by rw [hcluster]; rfl⟩
  · intro key job hjob
    rw [hcluster, SortedMap.find?_insert] at hjob
    split at hjob
    · obtain rfl := Option.some.inj hjob
      simp [isRunningBuild, isActive_manifest]
    · exact (Store.find?_jobs_cleared.1 hjob).2
  · intro key job hjob hrun
    have hkept : (s.cluster.cleared settings.namespace_ request.serviceId).jobs.find? key =
        some job :=
      Store.find?_jobs_cleared.2 ⟨hjob, hrun⟩
    have hne : key ≠ ⟨settings.namespace_, name⟩ := by
      rintro rfl
      rw [hnew] at hkept
      cases hkept
    rw [hcluster, SortedMap.find?_insert_of_ne _ hne]
    exact hkept

/-- A job of a service with a number of running pods, and nothing else. -/
def plainJob (name serviceId : String) (active : Int) : Job where
  metadata := {
    name := some name
    namespace_ := some "unbind-system"
    labels := some (SortedMap.ofList [(LabelKey.serviceId.text, serviceId)]) }
  status := some { active := some active }

/-- A running job of a service, a finished one, and one of another service. -/
def busyYard : Session Store where
  cluster := Store.after {} [
    .insertJob (plainJob "old" "svc" 1),
    .insertJob (plainJob "done" "svc" 0),
    .insertJob (plainJob "other" "else" 1)]
  now := .epoch

/-- The running job makes room, and the jobs that stay are untouched. -/
theorem submit_replaces_running_busyYard :
    busyYard.cluster.Reachable ∧
      ((submit {} { serviceId := "svc", jobId := "new" }).outcome busyYard).1 =
        .ok "new-deployment-0" ∧
      ∀ key job,
        ((submit {} { serviceId := "svc", jobId := "new" }).outcome busyYard).2.cluster.jobs.find?
          key = some job → isRunningBuild "unbind-system" "svc" key job = false := by
  have hs : busyYard.cluster.Reachable := ⟨_, rfl⟩
  have hname : ((submit {} { serviceId := "svc", jobId := "new" }).outcome busyYard).1 =
      .ok "new-deployment-0" := rfl
  exact ⟨hs, hname, (submit_replaces_running {} { serviceId := "svc", jobId := "new" } hs
    (Prod.ext hname rfl)).2.2.1⟩

/-! ## A submission that fails -/

/-- A creation that fails changes nothing, and reports a conflict when it is not made to fail. -/
theorem create_manifest_eq_error {settings : Settings} {request : BuildRequest} {name : String}
    {at_ : Instant} {s c : Store} {e : Failure}
    (h : (Cluster.createJob settings.namespace_ (manifest request name at_ settings)).outcome s =
      (.error e, c)) :
    c = s ∧ (e.kind = .conflict ↔ s.faults .createJob = none) ∧
      (s.faults .createJob = none → s.jobs.contains ⟨settings.namespace_, name⟩ = true) := by
  rw [outcome_create_manifest] at h
  split at h
  · rename_i message hfault
    cases h
    simp [hfault]
  · rename_i hfault
    split at h
    · rename_i hthere
      cases h
      simp [hfault, hthere]
    · cases h

/-- The job that a new build of a service would collide with stays in the cancellation. -/
theorem contains_cleared_iff {s : Store} {ns serviceId name : String} :
    (s.cleared ns serviceId).jobs.contains ⟨ns, name⟩ = true ↔
      ∃ job, s.jobs.find? ⟨ns, name⟩ = some job ∧ ¬ (job.isOf serviceId ∧ job.isActive) := by
  rw [SortedMap.contains_iff]
  refine exists_congr fun job => ?_
  rw [Store.find?_jobs_cleared, isRunningBuild_self, ← Bool.and_eq_true, Bool.not_eq_true]

/-- A submission over a store that fails has had no effect, or is a creation that failed after the
cancellation. -/
theorem submit_store_eq_error {settings : Settings} {request : BuildRequest} {s s' : Session Store}
    {e : Failure} (hkeyed : Keyed Job.metadata s.cluster.jobs)
    (h : (submit settings request).outcome s = (.error e, s')) :
    (s' = s ∧
      (checkRequest request s.now = .error e ∨
        (∃ message, s.cluster.faults .listJobs = some message ∧
          e = Failure.during ("failed to list jobs for service ID " ++ request.serviceId)
            ⟨.kubernetes, message⟩) ∨
        ∃ message name, s.cluster.faults .deleteJob = some message ∧
          e = Failure.during ("failed to delete job " ++ name) ⟨.kubernetes, message⟩)) ∨
    ∃ names e₀,
      (cancel settings request.serviceId).outcome s = (.ok names, s') ∧
      ((Cluster.createJob settings.namespace_
        (manifest request (jobName request s.now) s.now settings)).outcome s'.cluster).1 =
          .error e₀ ∧
      e = e₀.during ("failed to create job " ++ jobName request s.now) ∧
      s'.counters.submitted = s.counters.submitted := by
  rcases submit_eq_error_iff.1 h with ⟨hcheck, rfl⟩ | ⟨-, hcancel⟩ |
    ⟨-, names, s₁, e₀, c, hcancel, hcreate, rfl, rfl⟩
  · exact .inl ⟨rfl, .inl hcheck⟩
  · obtain ⟨rfl, hlist | ⟨message, name, hdelete, -, he⟩⟩ := cancel_store_eq_error hkeyed hcancel
    · exact .inl ⟨rfl, .inr (.inl hlist)⟩
    · exact .inl ⟨rfl, .inr (.inr ⟨message, name, hdelete, he⟩)⟩
  · obtain ⟨rfl, -⟩ := create_manifest_eq_error hcreate
    have hsubmitted : s₁.counters.submitted = s.counters.submitted := by
      obtain ⟨-, rfl⟩ := cancel_store_eq_ok hkeyed hcancel
      rfl
    exact .inr ⟨names, e₀, hcancel, by rw [hcreate], rfl, hsubmitted⟩

/-- What a submission has come through when it reports a conflict, and what it has met. -/
theorem of_submit_conflict {settings : Settings} {request : BuildRequest} {s s' : Session Store}
    {e : Failure} (hkeyed : Keyed Job.metadata s.cluster.jobs)
    (h : (submit settings request).outcome s = (.error e, s')) (hkind : e.kind = .conflict) :
    HasLabelValues request s.now ∧
      (∃ names s₁, (cancel settings request.serviceId).outcome s = (.ok names, s₁)) ∧
      s.cluster.faults .createJob = none ∧
      ∃ job, s.cluster.jobs.find? ⟨settings.namespace_, jobName request s.now⟩ = some job ∧
        ¬ (job.isOf request.serviceId ∧ job.isActive) := by
  rcases submit_eq_error_iff.1 h with ⟨hcheck, -⟩ | ⟨-, hcancel⟩ |
    ⟨hcheck, names, s₁, e₀, c, hcancel, hcreate, rfl, -⟩
  · rw [kind_of_checkRequest hcheck] at hkind
    cases hkind
  · obtain ⟨-, ⟨message, -, rfl⟩ | ⟨message, name, -, -, rfl⟩⟩ :=
      cancel_store_eq_error hkeyed hcancel
    · cases hkind
    · cases hkind
  · obtain ⟨-, hconflict, hthere⟩ := create_manifest_eq_error hcreate
    obtain ⟨-, rfl⟩ := cancel_store_eq_ok hkeyed hcancel
    have hfault := hconflict.1 (by rwa [Failure.kind_during] at hkind)
    exact ⟨checkRequest_eq_ok_iff.1 hcheck, ⟨names, _, hcancel⟩, hfault,
      contains_cleared_iff.1 (hthere hfault)⟩

/-- **A submission that fails leaves everything as it was, or is a creation that failed after the
cancellation.** In the first case a label value was refused, the listing failed or a deletion failed;
in the second the failure is that of the creation with its context, and the state is what the
cancellation alone comes to. A conflict is reported exactly when the label values are good, the
cancellation succeeds, the creation is not made to fail, and a job that is no running job of the
service has the name already. -/
theorem submit_failure_effect (settings : Settings) (request : BuildRequest) {s : Session Store}
    (hs : s.cluster.Reachable) :
    (∀ e s', (submit settings request).outcome s = (.error e, s') →
      (s' = s ∧
        (checkRequest request s.now = .error e ∨
          (∃ message, s.cluster.faults .listJobs = some message ∧
            e = Failure.during ("failed to list jobs for service ID " ++ request.serviceId)
              ⟨.kubernetes, message⟩) ∨
          ∃ message name, s.cluster.faults .deleteJob = some message ∧
            e = Failure.during ("failed to delete job " ++ name) ⟨.kubernetes, message⟩)) ∨
      ∃ names e₀,
        (cancel settings request.serviceId).outcome s = (.ok names, s') ∧
        ((Cluster.createJob settings.namespace_
          (manifest request (jobName request s.now) s.now settings)).outcome s'.cluster).1 =
            .error e₀ ∧
        e = e₀.during ("failed to create job " ++ jobName request s.now) ∧
        s'.counters.submitted = s.counters.submitted) ∧
    ((∃ e s', (submit settings request).outcome s = (.error e, s') ∧ e.kind = .conflict) ↔
      HasLabelValues request s.now ∧
      (∃ names s₁, (cancel settings request.serviceId).outcome s = (.ok names, s₁)) ∧
      s.cluster.faults .createJob = none ∧
      ∃ job, s.cluster.jobs.find? ⟨settings.namespace_, jobName request s.now⟩ = some job ∧
        ¬ (job.isOf request.serviceId ∧ job.isActive)) := by
  have hkeyed := hs.wellKeyed.jobs
  refine ⟨fun e s' h => submit_store_eq_error hkeyed h, ⟨?_, ?_⟩⟩
  · rintro ⟨e, s', h, hkind⟩
    exact of_submit_conflict hkeyed h hkind
  · rintro ⟨hlabels, ⟨names, s₁, hcancel⟩, hfault, htaken⟩
    have hs₁ := (cancel_store_eq_ok hkeyed hcancel).2
    have hcreate := outcome_create_manifest settings request (jobName request s.now) s.now s₁.cluster
    have hfault₁ : s₁.cluster.faults .createJob = none := by
      rw [hs₁]
      exact hfault
    have hthere : s₁.cluster.jobs.contains ⟨settings.namespace_, jobName request s.now⟩ = true := by
      rw [hs₁]
      exact contains_cleared_iff.2 htaken
    simp only [hfault₁, if_pos hthere] at hcreate
    exact ⟨_, _, submit_eq_error_iff.2 (.inr (.inr
      ⟨checkRequest_eq_ok_iff.2 hlabels, names, s₁, _, _, hcancel, hcreate, rfl, rfl⟩)),
      by rw [Failure.kind_during]⟩

/-- A running job of a service, and a finished one that has the name of the next build. -/
def takenYard : Session Store where
  cluster := Store.after {} [
    .insertJob (plainJob "old" "svc" 1),
    .insertJob (plainJob "new-deployment-0" "svc" 0)]
  now := .epoch

/-- A finished job of the service is in the way of the next build. -/
theorem submit_failure_effect_takenYard :
    takenYard.cluster.Reachable ∧
      ∃ e s', (submit {} { serviceId := "svc", jobId := "new" }).outcome takenYard =
        (.error e, s') ∧ e.kind = .conflict := by
  have hs : takenYard.cluster.Reachable := ⟨_, rfl⟩
  have hlabels : HasLabelValues { serviceId := "svc", jobId := "new" } .epoch := by
    unfold HasLabelValues
    decide +kernel
  have hcancel : ((cancel {} "svc").outcome takenYard).1 = .ok ["old"] := rfl
  exact ⟨hs, (submit_failure_effect {} { serviceId := "svc", jobId := "new" } hs).2.2
    ⟨hlabels, ⟨_, _, Prod.ext hcancel rfl⟩, rfl, plainJob "new-deployment-0" "svc" 0, rfl,
      by decide⟩⟩

end BuildYard.Build
