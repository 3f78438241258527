import BuildYard.Proofs.Build.Timeline
import BuildYard.Proofs.Label.BuildName
/-!
# What stands in the way of a build

A submission is refused for its ids, for the length of the name that its job would have, or because
that name is taken.

* `checks_pass_iff_fits`: the checks of a submission come to the two ids and the length of the name.
* `name_taken_in_same_second`: over a run, a name is taken by a submission of the same job id in the
  same second, and by no other.
-/

namespace BuildYard.Build

/-! ## Names that are too long -/

/-- The ids of a submission are label values, and so is the name of its job in a second: the id, the
separator and the number do not come to more than 63 octets. -/
structure Fits (serviceId jobId : String) (seconds : Int) : Prop where
  service : IsLabelValue serviceId
  job : IsLabelValue jobId
  short : jobId.utf8ByteSize + 12 + (toString seconds).length ≤ 63

theorem fits_iff {serviceId jobId : String} {seconds : Int} :
    Fits serviceId jobId seconds ↔
      labelFault? serviceId = none ∧ labelFault? jobId = none ∧
        labelFault? (buildJobName jobId seconds) = none := by
  constructor
  · rintro ⟨hservice, hjob, hshort⟩
    have hjob := labelFault?_eq_none_iff_isLabelValue.2 hjob
    refine ⟨labelFault?_eq_none_iff_isLabelValue.2 hservice, hjob, ?_⟩
    rw [labelFault?_buildJobName hjob, if_neg (Nat.not_lt_of_le hshort)]
  · rintro ⟨hservice, hjob, hname⟩
    refine ⟨labelFault?_eq_none_iff_isLabelValue.1 hservice,
      labelFault?_eq_none_iff_isLabelValue.1 hjob, ?_⟩
    rw [← utf8ByteSize_buildJobName]
    exact (labelFault?_eq_none_iff.1 hname).1

/-- What is said of a name with too many octets. -/
def tooLongName (octets : Nat) : Failure :=
  ⟨.validation, "job-name must be at most 63 characters, got " ++ toString octets⟩

theorem checkLabelValue_buildJobName {jobId : String} (h : labelFault? jobId = none)
    (seconds : Int) :
    checkLabelValue "job-name" (buildJobName jobId seconds) =
      if 63 < jobId.utf8ByteSize + 12 + (toString seconds).length then
        .error (tooLongName (jobId.utf8ByteSize + 12 + (toString seconds).length))
      else .ok () := by
  have hfault := labelFault?_buildJobName h seconds
  unfold checkLabelValue
  split at hfault
  · rename_i hlong
    rw [hfault, if_pos hlong]
    rfl
  · rename_i hshort
    rw [hfault, if_neg hshort]

/-- **The checks of a submission pass when the ids are label values and the name of the job is short
enough.** The name is then put together from a label value, the separator and a number of any size and
sign, and nothing but its length can be wrong with it. -/
theorem checks_pass_iff_fits :
    (∀ (request : BuildRequest) (at_ : Instant),
      checkRequest request at_ = .ok () ↔ Fits request.serviceId request.jobId at_.seconds) ∧
    (∀ (serviceId jobId : String) (seconds : Int),
      checkLabelValue "serviceID" serviceId = .ok () ∧ checkLabelValue "jobID" jobId = .ok () ∧
        checkLabelValue "job-name" (buildJobName jobId seconds) = .ok () ↔
      Fits serviceId jobId seconds) ∧
    ∀ (jobId : String) (seconds : Int), IsLabelValue jobId → ∀ e,
      checkLabelValue "job-name" (buildJobName jobId seconds) = .error e ↔
        63 < jobId.utf8ByteSize + 12 + (toString seconds).length ∧
          e = tooLongName (jobId.utf8ByteSize + 12 + (toString seconds).length) := by
  refine ⟨fun request at_ => ?_, fun serviceId jobId seconds => ?_,
    fun jobId seconds hjob e => ?_⟩
  · exact checkRequest_eq_ok_iff.trans fits_iff.symm
  · simp only [checkLabelValue_eq_ok_iff, fits_iff]
  · rw [checkLabelValue_buildJobName (labelFault?_eq_none_iff_isLabelValue.2 hjob)]
    generalize jobId.utf8ByteSize + 12 + (toString seconds).length = octets
    by_cases hlong : 63 < octets
    · simp [hlong, eq_comm]
    · simp [hlong]

/-- An id of 41 octets leaves room for a second of ten digits, and for no sign. -/
theorem checks_pass_iff_fits_longId :
    let jobId := "0123456789012345678901234567890123456789a"
    IsLabelValue jobId ∧
      checkLabelValue "job-name" (buildJobName jobId 1700000000) = .ok () ∧
      checkLabelValue "job-name" (buildJobName jobId (-1700000000)) =
        .error ⟨.validation, "job-name must be at most 63 characters, got 64"⟩ := by
  intro jobId
  have hjob : IsLabelValue jobId := labelFault?_eq_none_iff_isLabelValue.1 (by decide +kernel)
  have hfits : Fits jobId jobId 1700000000 := ⟨hjob, hjob, by decide +kernel⟩
  exact ⟨hjob, ((checks_pass_iff_fits.2.1 jobId jobId 1700000000).2 hfits).2.2,
    (checks_pass_iff_fits.2.2 jobId (-1700000000) hjob _).2 ⟨by decide +kernel, by decide +kernel⟩⟩

/-! ## Names that are taken -/

variable {settings : Settings} {s : Session Store}

/-- The submission is one of the events, and succeeds in its place among them. -/
def Succeeds (settings : Settings) (s : Session Store) (events : List Event)
    (request : BuildRequest) (at_ : Instant) : Prop :=
  ∃ early, early ++ [.submit request at_] <+: events ∧
    ∃ name, ((submit settings request).outcome { run settings s early with now := at_ }).1 =
      .ok name

theorem Succeeds.cons {event : Event} {events : List Event} {request : BuildRequest}
    {at_ : Instant} (h : Succeeds settings (event.apply settings s) events request at_) :
    Succeeds settings s (event :: events) request at_ := by
  obtain ⟨early, hprefix, hok⟩ := h
  exact ⟨event :: early, List.cons_prefix_cons.2 ⟨rfl, hprefix⟩, hok⟩

/-- A job that is stored after a run was stored before it, or its name is that of a submission of the
run that succeeded. -/
theorem origin_of_run (hkeyed : Keyed Job.metadata s.cluster.jobs) {events : List Event}
    {key : ObjectKey} {job : Job} (h : (run settings s events).cluster.jobs.find? key = some job) :
    (∃ before, s.cluster.jobs.find? key = some before) ∨
      ∃ request at_, Succeeds settings s events request at_ ∧
        key.name = buildJobName request.jobId at_.seconds := by
  -- From the first event on: a job that was stored after it is traced one step further back.
  induction events generalizing s with
  | nil => exact .inl ⟨job, h⟩
  | cons event events ih =>
    rcases ih (keyed_apply hkeyed event) h with ⟨between, hbetween⟩ | ⟨request, at_, hok, hname⟩
    · rcases origin_of_apply hkeyed hbetween with ⟨before, hbefore, -⟩ |
        ⟨request, at_, name, rfl, hok, rfl, -⟩
      · exact .inl ⟨before, hbefore⟩
      · obtain ⟨-, hname, -⟩ := submit_eq_ok_iff.1 (Prod.ext hok rfl)
        exact .inr ⟨request, at_, ⟨[], by simp, name, hok⟩, hname⟩
    · exact .inr ⟨request, at_, hok.cons, hname⟩

theorem keyed_run (hkeyed : Keyed Job.metadata s.cluster.jobs) (events : List Event) :
    Keyed Job.metadata (run settings s events).cluster.jobs := by
  induction events generalizing s with
  | nil => exact hkeyed
  | cons event events ih => exact ih (keyed_apply hkeyed event)

/-- **The name of a build is taken in one second at most, and by one id of a job.** Two submissions
that succeed, whenever and wherever, give the same name exactly when they carry the same id of the job
in the same second. And a submission that comes after a run and meets a conflict has found a job that
was there before the run, or the run has a submission of the same id in the same second. -/
theorem name_taken_in_same_second :
    (∀ (jobId jobId' : String) (seconds seconds' : Int),
      buildJobName jobId seconds = buildJobName jobId' seconds' ↔
        jobId = jobId' ∧ seconds = seconds') ∧
    (∀ (settings settings' : Settings) (request request' : BuildRequest) (s s' : Session Store)
      (name name' : String),
      ((submit settings request).outcome s).1 = .ok name →
      ((submit settings' request').outcome s').1 = .ok name' →
        (name = name' ↔ request.jobId = request'.jobId ∧ s.now.seconds = s'.now.seconds)) ∧
    ∀ (settings : Settings) (s : Session Store), s.cluster.Reachable →
      ∀ (events : List Event) (request : BuildRequest) (at_ : Instant) (e : Failure),
      ((submit settings request).outcome { run settings s events with now := at_ }).1 = .error e →
      e.kind = .conflict →
        (∃ job, s.cluster.jobs.find?
          ⟨settings.namespace_, buildJobName request.jobId at_.seconds⟩ = some job) ∨
        ∃ request' at', Succeeds settings s events request' at' ∧
          request'.jobId = request.jobId ∧ at'.seconds = at_.seconds := by
  refine ⟨fun _ _ _ _ => buildJobName_inj, ?_, ?_⟩
  · intro settings settings' request request' s s' name name' hok hok'
    obtain ⟨-, rfl, -⟩ := submit_eq_ok_iff.1 (Prod.ext hok rfl)
    obtain ⟨-, rfl, -⟩ := submit_eq_ok_iff.1 (Prod.ext hok' rfl)
    exact buildJobName_inj
  · intro settings s hs events request at_ e he hkind
    obtain ⟨-, -, -, job, hjob, -⟩ :=
      of_submit_conflict (s := { run settings s events with now := at_ })
        (keyed_run hs.wellKeyed.jobs events) (Prod.ext he rfl) hkind
    refine (origin_of_run hs.wellKeyed.jobs hjob).imp_right ?_
    rintro ⟨request', at', hok, hname⟩
    obtain ⟨hid, hsecond⟩ := buildJobName_inj.1 hname
    exact ⟨request', at', hok, hid.symm, hsecond.symm⟩

/-- A yard where the build of a job was asked for in the first second of 1970. -/
def askedYard : Session Store :=
  { run {} quietYard [.submit { serviceId := "svc", jobId := "a" } .epoch] with now := .epoch }

/-- A build that waits is in the way of another one of the same job in the same second, which would
have got the same name. -/
theorem name_taken_in_same_second_askedYard :
    quietYard.cluster.Reachable ∧
      (∃ name name',
        ((submit {} { serviceId := "svc", jobId := "a" }).outcome quietYard).1 = .ok name ∧
        ((submit {} { serviceId := "other", jobId := "a" }).outcome quietYard).1 = .ok name' ∧
        name = name') ∧
      (∃ e, ((submit {} { serviceId := "other", jobId := "a" }).outcome askedYard).1 = .error e ∧
        e.kind = .conflict) ∧
      ∃ request' at',
        Succeeds {} quietYard [.submit { serviceId := "svc", jobId := "a" } .epoch] request' at' ∧
          request'.jobId = "a" ∧ at'.seconds = 0 := by
  have hs : quietYard.cluster.Reachable := ⟨[], rfl⟩
  have hmeets : (match ((submit {} { serviceId := "other", jobId := "a" }).outcome askedYard).1 with
      | .ok _ => none
      | .error e => some e.kind) = some FailureKind.conflict := by decide +kernel
  refine ⟨hs, ⟨buildJobName "a" 0, buildJobName "a" 0, rfl, rfl, ?_⟩, ?_⟩
  · exact (name_taken_in_same_second.2.1 {} {} { serviceId := "svc", jobId := "a" }
      { serviceId := "other", jobId := "a" } quietYard quietYard _ _ rfl rfl).2 ⟨rfl, rfl⟩
  · cases he : ((submit {} { serviceId := "other", jobId := "a" }).outcome askedYard).1 with
    | ok name =>
      rw [he] at hmeets
      cases hmeets
    | error e =>
      rw [he] at hmeets
      have hkind := Option.some.inj hmeets
      refine ⟨⟨e, rfl, hkind⟩, ?_⟩
      rcases name_taken_in_same_second.2.2 {} quietYard hs _ _ _ e he hkind with
        ⟨job, hjob⟩ | hsame
      · simp [quietYard] at hjob
      · exact hsame

end BuildYard.Build
