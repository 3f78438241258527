import BuildYard.Proofs.Build.Replacement
/-!
# Running builds over time

Submissions and cancellations one after the other, with the controller of jobs at work between them:
it gives a new job the status of one that runs, and a job that runs the status of one that has ended.

A new job waits until the controller starts it, and a submission leaves waiting jobs alone. So two
builds of one service can come to run at the same time, without any two calls at once
(`not_atMostOneRunning_twoWaiting`). That takes a submission made while another job of the service
waits: `atMostOneRunning_always_iff` says that a run without such a submission never has two running
jobs of a service, whatever the controller does, and that a run with one can come to have them.
-/

namespace BuildYard.Build

/-! ## What happens -/

/-- Does a job with this status run? -/
def runs (status : JobStatus) : Bool := 0 < status.active.getD 0

/-- May the controller follow one status by another? It starts a job without a status, and ends a
job that runs. -/
def mayFollow (before : Option JobStatus) (after : JobStatus) : Bool :=
  match before with
  | none => runs after
  | some before => runs before && !runs after

/-- Something that happens: a call, or an update by the controller of jobs. -/
inductive Event where
  | submit (request : BuildRequest) (at_ : Instant)
  | cancel (serviceId : String)
  | update (name : String) (status : JobStatus)

/-- Is the event an update by the controller? -/
def Event.IsUpdate (event : Event) : Prop := ∃ name status, event = .update name status

/-- The state after an event; an update that the controller would not make changes nothing. -/
def Event.apply (settings : Settings) (s : Session Store) : Event → Session Store
  | .submit request at_ => ((Build.submit settings request).outcome { s with now := at_ }).2
  | .cancel serviceId => ((Build.cancel settings serviceId).outcome s).2
  | .update name status =>
    match s.cluster.jobs.find? ⟨settings.namespace_, name⟩ with
    | none => s
    | some job =>
      if mayFollow job.status status then
        { s with cluster :=
            Store.Change.apply s.cluster (.setJobStatus settings.namespace_ name status) }
      else s

/-- The state after events, one after the other. -/
def run (settings : Settings) (s : Session Store) (events : List Event) : Session Store :=
  events.foldl (Event.apply settings) s

/-- No two jobs of a service run. -/
def AtMostOneRunning (s : Store) : Prop :=
  ∀ serviceId key key' job job',
    s.jobs.find? key = some job → s.jobs.find? key' = some job' →
    job.isOf serviceId → job'.isOf serviceId → job.isActive → job'.isActive → key = key'

/-- If the event is a submission that succeeds, no job of its service waits to be started. -/
def FindsNoneWaiting (settings : Settings) (s : Session Store) : Event → Prop
  | .submit request at_ =>
    (∃ name, ((Build.submit settings request).outcome { s with now := at_ }).1 = .ok name) →
      ∀ key job, s.cluster.jobs.find? key = some job → job.isOf request.serviceId →
        job.status ≠ none
  | .cancel _ => True
  | .update _ _ => True

/-- Every submission that succeeds in the course of the events finds no job of its service that waits
to be started. -/
def Patient (settings : Settings) (s : Session Store) (events : List Event) : Prop :=
  ∀ early event, early ++ [event] <+: events →
    FindsNoneWaiting settings (run settings s early) event

@[simp] theorem run_nil (settings : Settings) (s : Session Store) : run settings s [] = s := rfl

@[simp] theorem run_cons (settings : Settings) (s : Session Store) (event : Event)
    (events : List Event) :
    run settings s (event :: events) = run settings (event.apply settings s) events := rfl

theorem run_append (settings : Settings) (s : Session Store) (events events' : List Event) :
    run settings s (events ++ events') = run settings (run settings s events) events' :=
  List.foldl_append

/-! ## Where the jobs of a state come from -/

/-- After a submission a job was there before, and has survived the cancellation if the submission
succeeded, or it is the new one. -/
theorem find?_after_submit {settings : Settings} {request : BuildRequest} {s : Session Store}
    (hkeyed : Keyed Job.metadata s.cluster.jobs) {key : ObjectKey} {job : Job}
    (h : ((submit settings request).outcome s).2.cluster.jobs.find? key = some job) :
    (s.cluster.jobs.find? key = some job ∧
      ((∃ name, ((submit settings request).outcome s).1 = .ok name) →
        isRunningBuild settings.namespace_ request.serviceId key job = false)) ∨
    ∃ name, ((submit settings request).outcome s).1 = .ok name ∧
      key = ⟨settings.namespace_, name⟩ ∧ job = manifest request name s.now settings := by
  rcases hsubmit : (submit settings request).outcome s with ⟨e | name, s'⟩
  · rw [hsubmit] at h
    have hno : ¬ ∃ name, (Except.error e : Except Failure String) = .ok name := by simp
    refine .inl ⟨?_, fun hok => absurd hok hno⟩
    rcases submit_store_eq_error hkeyed hsubmit with ⟨rfl, -⟩ | ⟨names, -, hcancel, -⟩
    · exact h
    · obtain ⟨-, rfl⟩ := cancel_store_eq_ok hkeyed hcancel
      exact (Store.find?_jobs_cleared.1 h).1
  · rw [hsubmit] at h
    obtain ⟨-, -, -, hcluster, -⟩ := submit_store_eq_ok hkeyed hsubmit
    rw [hcluster, SortedMap.find?_insert] at h
    split at h
    · rename_i hkey
      obtain rfl := Option.some.inj h
      exact .inr ⟨name, rfl, Std.LawfulEqOrd.eq_of_compare hkey, rfl⟩
    · obtain ⟨hbefore, hkept⟩ := Store.find?_jobs_cleared.1 h
      exact .inl ⟨hbefore, fun _ => hkept⟩

/-- After a cancellation a job was there before. -/
theorem find?_after_cancel {settings : Settings} {serviceId : String} {s : Session Store}
    (hkeyed : Keyed Job.metadata s.cluster.jobs) {key : ObjectKey} {job : Job}
    (h : ((cancel settings serviceId).outcome s).2.cluster.jobs.find? key = some job) :
    s.cluster.jobs.find? key = some job := by
  rcases hcancel : (cancel settings serviceId).outcome s with ⟨e | names, s'⟩
  · obtain ⟨rfl, -⟩ := cancel_store_eq_error hkeyed hcancel
    rwa [hcancel] at h
  · obtain ⟨-, rfl⟩ := cancel_store_eq_ok hkeyed hcancel
    rw [hcancel] at h
    exact (Store.find?_jobs_cleared.1 h).1

/-- An update that the controller makes. -/
theorem apply_update {settings : Settings} {s : Session Store} {name : String} {status : JobStatus}
    {job : Job} (hjob : s.cluster.jobs.find? ⟨settings.namespace_, name⟩ = some job)
    (hmay : mayFollow job.status status) :
    ((Event.update name status).apply settings s).cluster.jobs =
      s.cluster.jobs.insert ⟨settings.namespace_, name⟩ { job with status := some status } := by
  simp [Event.apply, hjob, hmay, Store.Change.apply, Store.setJobStatus, Except.toOption]

/-- After an update a job was there before, or has got a status that may follow the one it had. -/
theorem find?_after_update {settings : Settings} {s : Session Store} {name : String}
    {status : JobStatus} {key : ObjectKey} {job : Job}
    (h : ((Event.update name status).apply settings s).cluster.jobs.find? key = some job) :
    s.cluster.jobs.find? key = some job ∨
      ∃ before, s.cluster.jobs.find? key = some before ∧ mayFollow before.status status ∧
        job = { before with status := some status } := by
  cases hjob : s.cluster.jobs.find? ⟨settings.namespace_, name⟩ with
  | none =>
    rw [Event.apply, hjob] at h
    exact .inl h
  | some before =>
    by_cases hmay : mayFollow before.status status = true
    · rw [apply_update hjob hmay, SortedMap.find?_insert] at h
      split at h
      · rename_i hkey
        obtain rfl := Std.LawfulEqOrd.eq_of_compare hkey
        exact .inr ⟨before, hjob, hmay, (Option.some.inj h).symm⟩
      · exact .inl h
    · rw [Event.apply, hjob] at h
      simp only [if_neg hmay] at h
      exact .inl h

/-- The event is a submission that succeeds and stores the job under the key. -/
def Creates (settings : Settings) (s : Session Store) (event : Event) (key : ObjectKey)
    (job : Job) : Prop :=
  ∃ request at_ name, event = .submit request at_ ∧
    ((Build.submit settings request).outcome { s with now := at_ }).1 = .ok name ∧
    key = ⟨settings.namespace_, name⟩ ∧ job = manifest request name at_ settings

/-- After an event a job was there before with the same metadata, or the event has created it. -/
theorem origin_of_apply {settings : Settings} {s : Session Store}
    (hkeyed : Keyed Job.metadata s.cluster.jobs) {event : Event} {key : ObjectKey} {job : Job}
    (h : (event.apply settings s).cluster.jobs.find? key = some job) :
    (∃ before, s.cluster.jobs.find? key = some before ∧ job.metadata = before.metadata) ∨
      Creates settings s event key job := by
  cases event with
  | submit request at_ =>
    rcases find?_after_submit (s := { s with now := at_ }) hkeyed h with
      ⟨hbefore, -⟩ | ⟨name, hok, hkey, hjob⟩
    · exact .inl ⟨job, hbefore, rfl⟩
    · exact .inr ⟨request, at_, name, rfl, hok, hkey, hjob⟩
  | cancel serviceId => exact .inl ⟨job, find?_after_cancel hkeyed h, rfl⟩
  | update name status =>
    rcases find?_after_update h with hbefore | ⟨before, hbefore, -, rfl⟩
    · exact .inl ⟨job, hbefore, rfl⟩
    · exact .inl ⟨before, hbefore, rfl⟩

theorem keyed_apply {settings : Settings} {s : Session Store}
    (hkeyed : Keyed Job.metadata s.cluster.jobs) (event : Event) :
    Keyed Job.metadata (event.apply settings s).cluster.jobs := by
  intro key job hjob
  rcases origin_of_apply hkeyed hjob with ⟨before, hbefore, hsame⟩ |
    ⟨request, at_, name, -, -, rfl, rfl⟩
  · rw [hsame]
    exact hkeyed key before hbefore
  · rfl

/-! ## Every job is in the namespace of the builds -/

/-- Every job is stored in the namespace of the settings and under its own name. -/
structure Housed (settings : Settings) (s : Store) : Prop where
  keyed : Keyed Job.metadata s.jobs
  inNamespace : ∀ key job, s.jobs.find? key = some job → key.namespace_ = settings.namespace_

namespace Housed

variable {settings : Settings} {s : Session Store}

theorem apply (h : Housed settings s.cluster) (event : Event) :
    Housed settings (event.apply settings s).cluster := by
  refine ⟨keyed_apply h.keyed event, fun key job hjob => ?_⟩
  rcases origin_of_apply h.keyed hjob with ⟨before, hbefore, -⟩ | ⟨request, at_, name, -, -, rfl, -⟩
  · exact h.inNamespace key before hbefore
  · rfl

theorem run (h : Housed settings s.cluster) (events : List Event) :
    Housed settings (run settings s events).cluster := by
  induction events generalizing s with
  | nil => exact h
  | cons event events ih => exact ih (h.apply event)

end Housed

/-! ## At most one job of a service waits or runs -/

/-- Does the job wait to be started, or run? -/
def IsOpen (job : Job) : Prop := job.status = none ∨ job.isActive

/-- No two jobs of a service wait or run. -/
def AtMostOneOpen (s : Store) : Prop :=
  ∀ serviceId key key' job job',
    s.jobs.find? key = some job → s.jobs.find? key' = some job' →
    job.isOf serviceId → job'.isOf serviceId → IsOpen job → IsOpen job' → key = key'

theorem AtMostOneOpen.atMostOneRunning {s : Store} (h : AtMostOneOpen s) : AtMostOneRunning s :=
  fun serviceId key key' job job' hjob hjob' hof hof' hrun hrun' =>
    h serviceId key key' job job' hjob hjob' hof hof' (.inr hrun) (.inr hrun')

/-- A job that is open after an update was open before. -/
theorem isOpen_of_mayFollow {job : Job} {status : JobStatus} (h : mayFollow job.status status) :
    IsOpen job := by
  cases hstatus : job.status with
  | none => exact .inl hstatus
  | some before =>
    rw [hstatus] at h
    simp only [mayFollow, Bool.and_eq_true] at h
    refine .inr ?_
    simpa [Job.isActive, Job.activePods, hstatus, runs] using h.1

/-- An event that finds no job waiting where it matters leaves at most one job of a service open. -/
theorem AtMostOneOpen.apply {settings : Settings} {s : Session Store}
    (hhoused : Housed settings s.cluster) (h : AtMostOneOpen s.cluster) {event : Event}
    (hnone : FindsNoneWaiting settings s event) :
    AtMostOneOpen (event.apply settings s).cluster := by
  intro serviceId key key' job job' hjob hjob' hof hof' hopen hopen'
  cases event with
  | submit request at_ =>
    -- a job from before is closed if a new one of its service is created
    have hclosed : ∀ {key job} name,
        ((Build.submit settings request).outcome { s with now := at_ }).1 = .ok name →
        s.cluster.jobs.find? key = some job →
        ((∃ name, ((Build.submit settings request).outcome { s with now := at_ }).1 = .ok name) →
          isRunningBuild settings.namespace_ request.serviceId key job = false) →
        job.isOf request.serviceId → ¬ IsOpen job := by
      rintro key job name hok hbefore hkept hof (hwaits | hruns)
      · exact hnone ⟨name, hok⟩ key job hbefore hof hwaits
      · have hns := hhoused.inNamespace key job hbefore
        have hkept := hkept ⟨name, hok⟩
        simp [isRunningBuild, hns, hof, hruns] at hkept
    rcases find?_after_submit (s := { s with now := at_ }) hhoused.keyed hjob with
        ⟨hold, hkept⟩ | ⟨name, hok, rfl, rfl⟩ <;>
      rcases find?_after_submit (s := { s with now := at_ }) hhoused.keyed hjob' with
        ⟨hold', hkept'⟩ | ⟨name', hok', rfl, rfl⟩
    · exact h serviceId key key' job job' hold hold' hof hof' hopen hopen'
    · rw [isOf_manifest, beq_iff_eq] at hof'
      exact absurd hopen (hclosed name' hok' hold hkept (hof' ▸ hof))
    · rw [isOf_manifest, beq_iff_eq] at hof
      exact absurd hopen' (hclosed name hok hold' hkept' (hof ▸ hof'))
    · rw [Except.ok.inj (hok.symm.trans hok')]
  | cancel id =>
    exact h serviceId key key' job job' (find?_after_cancel hhoused.keyed hjob)
      (find?_after_cancel hhoused.keyed hjob') hof hof' hopen hopen'
  | update name status =>
    have hbefore : ∀ {key job},
        ((Event.update name status).apply settings s).cluster.jobs.find? key = some job →
        job.isOf serviceId → IsOpen job →
        ∃ before, s.cluster.jobs.find? key = some before ∧ before.isOf serviceId ∧
          IsOpen before := by
      intro key job hjob hof hopen
      rcases find?_after_update hjob with hold | ⟨before, hold, hmay, rfl⟩
      · exact ⟨job, hold, hof, hopen⟩
      · exact ⟨before, hold, hof, isOpen_of_mayFollow hmay⟩
    obtain ⟨before, hold, hofb, hopenb⟩ := hbefore hjob hof hopen
    obtain ⟨before', hold', hofb', hopenb'⟩ := hbefore hjob' hof' hopen'
    exact h serviceId key key' before before' hold hold' hofb hofb' hopenb hopenb'

/-! ## A patient run -/

theorem patient_nil (settings : Settings) (s : Session Store) : Patient settings s [] := by
  intro early event hbefore
  simp at hbefore

theorem patient_cons_iff {settings : Settings} {s : Session Store} {event : Event}
    {events : List Event} :
    Patient settings s (event :: events) ↔
      FindsNoneWaiting settings s event ∧ Patient settings (event.apply settings s) events := by
  constructor
  · intro h
    refine ⟨h [] event (by simp), fun early next hnext => ?_⟩
    exact h (event :: early) next (by simpa using hnext)
  · rintro ⟨hnone, hrest⟩ early next hnext
    cases early with
    | nil =>
      obtain rfl : next = event := by simpa using hnext
      exact hnone
    | cons first early =>
      have htail := List.cons_prefix_cons.1 hnext
      obtain rfl := htail.1
      exact hrest early next htail.2

/-- Updates by the controller find no job waiting where it matters. -/
theorem patient_updates {settings : Settings} {s : Session Store} {updates : List Event}
    (h : ∀ event ∈ updates, event.IsUpdate) : Patient settings s updates := by
  intro early event hbefore
  obtain ⟨name, status, rfl⟩ := h event (hbefore.subset (by simp))
  trivial

/-- Over a patient run at most one job of a service stays open. -/
theorem AtMostOneOpen.run {settings : Settings} {s : Session Store} {events : List Event}
    (hhoused : Housed settings s.cluster) (h : AtMostOneOpen s.cluster)
    (hpatient : Patient settings s events) : AtMostOneOpen (run settings s events).cluster := by
  induction events generalizing s with
  | nil => exact h
  | cons event events ih =>
    obtain ⟨hnone, hrest⟩ := patient_cons_iff.1 hpatient
    exact ih (hhoused.apply event) (h.apply hhoused hnone) hrest

/-! ## Two jobs that wait -/

/-- The status of a job with one running pod. -/
def started : JobStatus := { active := some 1 }

/-- Two jobs of a service that wait can both be started. -/
theorem not_atMostOneRunning_of_waiting {settings : Settings} {s : Session Store}
    {serviceId name name' : String} {job job' : Job} (hne : name' ≠ name)
    (hjob : s.cluster.jobs.find? ⟨settings.namespace_, name⟩ = some job)
    (hjob' : s.cluster.jobs.find? ⟨settings.namespace_, name'⟩ = some job')
    (hof : job.isOf serviceId) (hof' : job'.isOf serviceId) (hwaits : job.status = none)
    (hwaits' : job'.status = none) :
    ¬ AtMostOneRunning
      (run settings s [.update name started, .update name' started]).cluster := by
  have hmay : ∀ {job : Job}, job.status = none → mayFollow job.status started = true := by
    intro job hnone
    rw [hnone]
    rfl
  have hkey : (⟨settings.namespace_, name'⟩ : ObjectKey) ≠ ⟨settings.namespace_, name⟩ := by
    simpa using hne
  have hone := apply_update hjob (hmay hwaits)
  have hnext : ((Event.update name started).apply settings s).cluster.jobs.find?
      ⟨settings.namespace_, name'⟩ = some job' := by
    rw [hone, SortedMap.find?_insert_of_ne _ hkey]
    exact hjob'
  have htwo := apply_update hnext (hmay hwaits')
  have hfind : (run settings s [.update name started, .update name' started]).cluster.jobs.find?
      ⟨settings.namespace_, name⟩ = some { job with status := some started } := by
    rw [run_cons, run_cons, run_nil, htwo, SortedMap.find?_insert_of_ne _ hkey.symm, hone,
      SortedMap.find?_insert_self]
  have hfind' : (run settings s [.update name started, .update name' started]).cluster.jobs.find?
      ⟨settings.namespace_, name'⟩ = some { job' with status := some started } := by
    rw [run_cons, run_cons, run_nil, htwo, SortedMap.find?_insert_self]
  intro h
  exact hkey (h serviceId _ _ _ _ hfind hfind' hof hof' rfl rfl).symm

/-- A submission that succeeds while another job of its service waits leaves two jobs of the service
that wait. -/
theorem not_atMostOneRunning_of_submit {settings : Settings} {s : Session Store}
    (hhoused : Housed settings s.cluster) {request : BuildRequest} {at_ : Instant} {name : String}
    (hok : ((Build.submit settings request).outcome { s with now := at_ }).1 = .ok name)
    {key : ObjectKey} {job : Job} (hjob : s.cluster.jobs.find? key = some job)
    (hof : job.isOf request.serviceId) (hwaits : job.status = none) :
    ¬ AtMostOneRunning (run settings s
      [.submit request at_, .update key.name started, .update name started]).cluster := by
  obtain ⟨ns, old⟩ := key
  obtain rfl : ns = settings.namespace_ := hhoused.inNamespace _ _ hjob
  obtain ⟨-, hnew, -, hcluster, -⟩ :=
    submit_store_eq_ok (s := { s with now := at_ }) hhoused.keyed (Prod.ext hok rfl)
  have hkept : (s.cluster.cleared settings.namespace_ request.serviceId).jobs.find?
      ⟨settings.namespace_, old⟩ = some job := by
    refine Store.find?_jobs_cleared.2 ⟨hjob, ?_⟩
    rw [isRunningBuild_self, Job.isActive, Job.activePods, hwaits]
    simp
  have hne : name ≠ old := by
    rintro rfl
    exact absurd (hnew.symm.trans hkept) (by simp)
  have hkey : (⟨settings.namespace_, old⟩ : ObjectKey) ≠ ⟨settings.namespace_, name⟩ := by
    simpa using hne.symm
  rw [run_cons]
  refine not_atMostOneRunning_of_waiting hne ?_ ?_ hof
    ((isOf_manifest request name at_ settings _).trans (beq_self_eq_true _)) hwaits rfl
  · show ((Build.submit settings request).outcome { s with now := at_ }).2.cluster.jobs.find? _ = _
    rw [hcluster, SortedMap.find?_insert_of_ne _ hkey]
    exact hkept
  · show ((Build.submit settings request).outcome { s with now := at_ }).2.cluster.jobs.find? _ = _
    rw [hcluster, SortedMap.find?_insert_self]

/-! ## When at most one build of a service runs -/

/-- **A run keeps to one running job of each service, whatever the controller does, exactly when it is
patient.** Started without jobs, the state after every beginning of the run followed by any updates
has at most one running job of each service if and only if every submission of the run that succeeds
finds no job of its service that waits to be started. -/
theorem atMostOneRunning_always_iff (settings : Settings) {s : Session Store}
    (hempty : s.cluster.jobs = .empty) (events : List Event) :
    (∀ early updates, early <+: events → (∀ event ∈ updates, event.IsUpdate) →
      AtMostOneRunning (run settings s (early ++ updates)).cluster) ↔
    Patient settings s events := by
  have hnojob : ∀ key job, s.cluster.jobs.find? key ≠ some job := by
    intro key job
    simp [hempty]
  have hhoused : Housed settings s.cluster :=
    ⟨fun key job hjob => absurd hjob (hnojob key job),
      fun key job hjob => absurd hjob (hnojob key job)⟩
  have hopen : AtMostOneOpen s.cluster :=
    fun _ key _ job _ hjob => absurd hjob (hnojob key job)
  constructor
  · intro h early event hbefore
    cases event with
    | submit request at_ =>
      rintro ⟨name, hok⟩ key job hjob hof hwaits
      refine not_atMostOneRunning_of_submit (hhoused.run early) hok hjob hof hwaits ?_
      rw [← run_append]
      have hboth := h (early ++ [.submit request at_])
        [.update key.name started, .update name started] hbefore (by simp [Event.IsUpdate])
      simpa using hboth
    | cancel serviceId => trivial
    | update name status => trivial
  · rintro h early updates ⟨late, rfl⟩ hupdates
    rw [run_append]
    refine (AtMostOneOpen.run (hhoused.run early) ?_ (patient_updates hupdates)).atMostOneRunning
    refine hopen.run hhoused fun first event hbefore => ?_
    exact h first event (hbefore.trans (List.prefix_append early late))

/-- A yard without jobs. -/
def quietYard : Session Store := { cluster := {}, now := .epoch }

/-- A submission for a service, the start of its job, and another submission for the service. -/
def startedBetween : List Event := [
  .submit { serviceId := "svc", jobId := "a" } .epoch,
  .update "a-deployment-0" started,
  .submit { serviceId := "svc", jobId := "b" } .epoch]

/-- The second submission replaces the job that runs, so one job runs when the second is started. -/
theorem atMostOneRunning_always_iff_startedBetween :
    quietYard.cluster.jobs = .empty ∧ Patient {} quietYard startedBetween ∧
      AtMostOneRunning
        (run {} quietYard (startedBetween ++ [.update "b-deployment-0" started])).cluster := by
  have hpatient : Patient {} quietYard startedBetween := by
    refine patient_cons_iff.2 ⟨fun _ key job hjob => ?_, patient_cons_iff.2 ⟨trivial,
      patient_cons_iff.2 ⟨fun _ key job hjob _ hwaits => ?_, patient_nil _ _⟩⟩⟩
    · simp [quietYard] at hjob
    · have hall : ((run {} quietYard (startedBetween.take 2)).cluster.jobs.entries.all
          fun e => e.2.status.isSome) = true := rfl
      have hsome := List.all_eq_true.1 hall _ ((SortedMap.mem_entries_iff _).2 hjob)
      simp [hwaits] at hsome
  exact ⟨rfl, hpatient, (atMostOneRunning_always_iff {} rfl startedBetween).2 hpatient _ _
    List.prefix_rfl (by simp [Event.IsUpdate])⟩

/-! ## Two builds of one service at the same time -/

/-- Two submissions for a service, after which the controller starts both jobs. -/
def twoWaiting : List Event := [
  .submit { serviceId := "svc", jobId := "a" } .epoch,
  .submit { serviceId := "svc", jobId := "b" } .epoch,
  .update "a-deployment-0" started,
  .update "b-deployment-0" started]

/-- Calls one after the other do not keep to one running job of a service. -/
theorem not_atMostOneRunning_twoWaiting :
    quietYard.cluster.jobs = .empty ∧
      ¬ AtMostOneRunning (run {} quietYard twoWaiting).cluster := by
  refine ⟨rfl, fun h => ?_⟩
  have hkey := h "svc" ⟨"unbind-system", "a-deployment-0"⟩ ⟨"unbind-system", "b-deployment-0"⟩ _ _
    rfl rfl rfl rfl rfl rfl
  exact absurd hkey (by decide)

end BuildYard.Build
