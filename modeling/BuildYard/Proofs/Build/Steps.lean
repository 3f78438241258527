import BuildYard.Build.Dispatch
import BuildYard.Proofs.Cluster.Joining
/-!
# Submitting and canceling, step by step

What comes of a submission and of a cancellation over any cluster, in terms of what comes of the
operations they ask of the cluster.

* `outcome_deleteAll`: the deletions of a cancellation go on side by side.
* `outcome_cancel`: a cancellation lists, deletes and counts.
* `outcome_submit`: a submission checks, cancels, creates and counts.
* `submit_eq_ok_iff`, `submit_eq_error_iff`: the ways in which a submission succeeds and fails.
-/

namespace BuildYard.Build

variable {σ : Type}

/-! ## The checks -/

/-- The ids of a request and the name of its job are label values. -/
def HasLabelValues (request : BuildRequest) (at_ : Instant) : Prop :=
  labelFault? request.serviceId = none ∧ labelFault? request.jobId = none ∧
    labelFault? (jobName request at_) = none

theorem checkRequest_eq_ok_iff {request : BuildRequest} {at_ : Instant} :
    checkRequest request at_ = .ok () ↔ HasLabelValues request at_ := by
  unfold checkRequest HasLabelValues
  rw [← checkLabelValue_eq_ok_iff "serviceID",
    ← checkLabelValue_eq_ok_iff "jobID",
    ← checkLabelValue_eq_ok_iff "job-name"]
  cases checkLabelValue "serviceID" request.serviceId with
  | error e => simp [bind, Except.bind]
  | ok =>
    cases checkLabelValue "jobID" request.jobId with
    | error e => simp [bind, Except.bind]
    | ok => simp [bind, Except.bind]

theorem kind_of_checkRequest {request : BuildRequest} {at_ : Instant} {e : Failure}
    (h : checkRequest request at_ = .error e) : e.kind = .validation := by
  unfold checkRequest at h
  cases hservice : checkLabelValue "serviceID" request.serviceId with
  | error e' =>
    rw [hservice] at h
    cases h
    exact kind_of_checkLabelValue hservice
  | ok =>
    rw [hservice] at h
    cases hjob : checkLabelValue "jobID" request.jobId with
    | error e' =>
      rw [hjob] at h
      cases h
      exact kind_of_checkLabelValue hjob
    | ok =>
      rw [hjob] at h
      exact kind_of_checkLabelValue h

/-! ## Deletions -/

variable [Cluster σ]

/-- Deletions side by side come to one of the ends that strands come to, and change nothing but the
cluster. -/
theorem outcome_deleteAll (ns : String) (names : List String) (s : Session σ) :
    ∃ r c, (deleteAll ns names).outcome s = (r, { s with cluster := c }) ∧
      Strand.Joins (deletions ns names) s.cluster r c :=
  ⟨_, _, rfl, Strand.joins_byTurns ..⟩

/-! ## A cancellation -/

theorem outcome_cancel (settings : Settings) (serviceId : String) (s : Session σ) :
    (cancel settings serviceId).outcome s =
      match (Cluster.listJobs settings.namespace_ (.forService serviceId)).outcome s.cluster with
      | (.error e, c) =>
        (.error (e.during ("failed to list jobs for service ID " ++ serviceId)),
          { s with cluster := c })
      | (.ok jobs, c) =>
        match (deleteAll settings.namespace_ (activeNames jobs)).outcome
            { s with cluster := c } with
        | (.error e, s') => (.error e, s')
        | (.ok (), s') =>
          (.ok (activeNames jobs),
            { s' with counters := s'.counters.addCanceled (activeNames jobs).length }) := by
  rw [cancel, Attempt.outcome_bind, Attempt.outcome_within, Session.outcome_onCluster]
  rcases (Cluster.listJobs settings.namespace_ (.forService serviceId)).outcome s.cluster
    with ⟨e | jobs, c⟩
  · rfl
  · show ((deleteAll settings.namespace_ (activeNames jobs) >>= _).outcome _) = _
    rw [Attempt.outcome_bind]
    dsimp only
    rcases (deleteAll settings.namespace_ (activeNames jobs)).outcome { s with cluster := c }
      with ⟨_ | _, s'⟩ <;> rfl

/-! ## A submission -/

theorem outcome_submit (settings : Settings) (request : BuildRequest) (s : Session σ) :
    (submit settings request).outcome s =
      match checkRequest request s.now with
      | .error e => (.error e, s)
      | .ok () =>
        match (cancel settings request.serviceId).outcome s with
        | (.error e, s₁) => (.error e, s₁)
        | (.ok _, s₁) =>
          match (Cluster.createJob settings.namespace_
              (manifest request (jobName request s.now) s.now settings)).outcome s₁.cluster with
          | (.error e, c) =>
            (.error (e.during ("failed to create job " ++ jobName request s.now)),
              { s₁ with cluster := c })
          | (.ok _, c) =>
            (.ok (jobName request s.now),
              { s₁ with cluster := c, counters := s₁.counters.addSubmitted }) := by
  rw [submit, Attempt.outcome_bind, Session.outcome_clock]
  show ((Attempt.ofResult (checkRequest request s.now) >>= _).outcome s) = _
  rw [Attempt.outcome_bind, Attempt.outcome_ofResult]
  rcases checkRequest request s.now with e | ⟨⟩
  · rfl
  · show ((cancel settings request.serviceId >>= _).outcome s) = _
    rw [Attempt.outcome_bind]
    rcases (cancel settings request.serviceId).outcome s with ⟨e | names, s₁⟩
    · rfl
    · show ((Attempt.within _ _ >>= _).outcome s₁) = _
      rw [Attempt.outcome_bind, Attempt.outcome_within, Session.outcome_onCluster]
      dsimp only
      rcases (Cluster.createJob settings.namespace_
        (manifest request (jobName request s.now) s.now settings)).outcome s₁.cluster
        with ⟨_ | _, c⟩ <;> rfl

/-- A submission succeeds exactly when each of its steps does. -/
theorem submit_eq_ok_iff {settings : Settings} {request : BuildRequest} {s s' : Session σ}
    {name : String} :
    (submit settings request).outcome s = (.ok name, s') ↔
      checkRequest request s.now = .ok () ∧ name = jobName request s.now ∧
        ∃ names s₁ stored c,
          (cancel settings request.serviceId).outcome s = (.ok names, s₁) ∧
          (Cluster.createJob settings.namespace_
            (manifest request name s.now settings)).outcome s₁.cluster = (.ok stored, c) ∧
          s' = { s₁ with cluster := c, counters := s₁.counters.addSubmitted } := by
  rw [outcome_submit]
  constructor
  · intro h
    split at h
    · cases h
    · rename_i hcheck
      split at h
      · cases h
      · rename_i names s₁ hcancel
        split at h
        · cases h
        · rename_i stored c hcreate
          cases h
          exact ⟨hcheck, rfl, names, s₁, stored, c, hcancel, hcreate, rfl⟩
  · rintro ⟨hcheck, rfl, names, s₁, stored, c, hcancel, hcreate, rfl⟩
    simp only [hcheck, hcancel, hcreate]

/-- A submission fails in one of three places: the checks, the cancellation, the creation. -/
theorem submit_eq_error_iff {settings : Settings} {request : BuildRequest} {s s' : Session σ}
    {e : Failure} :
    (submit settings request).outcome s = (.error e, s') ↔
      (checkRequest request s.now = .error e ∧ s' = s) ∨
      (checkRequest request s.now = .ok () ∧
        (cancel settings request.serviceId).outcome s = (.error e, s')) ∨
      (checkRequest request s.now = .ok () ∧
        ∃ names s₁ e₀ c,
          (cancel settings request.serviceId).outcome s = (.ok names, s₁) ∧
          (Cluster.createJob settings.namespace_
            (manifest request (jobName request s.now) s.now settings)).outcome s₁.cluster =
              (.error e₀, c) ∧
          e = e₀.during ("failed to create job " ++ jobName request s.now) ∧
          s' = { s₁ with cluster := c }) := by
  rw [outcome_submit]
  constructor
  · intro h
    split at h
    · rename_i hcheck
      cases h
      exact .inl ⟨hcheck, rfl⟩
    · rename_i hcheck
      split at h
      · rename_i hcancel
        cases h
        exact .inr (.inl ⟨hcheck, hcancel⟩)
      · rename_i names s₁ hcancel
        split at h
        · rename_i e₀ c hcreate
          cases h
          exact .inr (.inr ⟨hcheck, names, s₁, e₀, c, hcancel, hcreate, rfl, rfl⟩)
        · cases h
  · rintro (⟨hcheck, rfl⟩ | ⟨hcheck, hcancel⟩ |
      ⟨hcheck, names, s₁, e₀, c, hcancel, hcreate, rfl, rfl⟩)
    · simp only [hcheck]
    · simp only [hcheck, hcancel]
    · simp only [hcheck, hcancel, hcreate]

end BuildYard.Build
