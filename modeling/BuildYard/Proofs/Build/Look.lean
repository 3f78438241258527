import BuildYard.Build.Tracking
import BuildYard.Cluster.Store
/-!
# One look at a build

A look at a build lists the pods of its job only where the job alone does not explain a failure.
What is found is the same as if the pods had always been listed: everywhere else they do not matter
(`statusOf_eq_of_not_needsPods`), because a condition that says that the job failed always gives a
reason, be it only punctuation (`conditionReason_ne_empty`). So a listing that fails is noticed
exactly where the pods are needed (`status_agrees_with_full_listing`).
-/

namespace BuildYard

namespace Build

/-! ## Where the pods matter -/

/-- The conditions of a job. -/
def conditionsOf (job : Job) : List JobCondition := (job.status.bind (·.conditions)).getD []

/-- The job has failed, has not succeeded, and has no condition that says that it failed. -/
structure IsUnexplained (job : Job) : Prop where
  failed : 0 < job.failedPods
  not_succeeded : job.succeededPods ≤ 0
  no_condition : ∀ c ∈ conditionsOf job, ¬ (c.type_ = "Failed" ∧ c.status = "True")

theorem failedCondition?_eq_find? (job : Job) :
    failedCondition? job = (conditionsOf job).find? saysFailed := by
  unfold failedCondition? conditionsOf
  rcases job.status with _ | status
  · rfl
  · rcases hconditions : status.conditions with _ | conditions <;> simp [hconditions]

theorem needsPods_iff (job : Job) : needsPods job = true ↔ IsUnexplained job := by
  have hcondition : (failedCondition? job).isNone = true ↔
      ∀ c ∈ conditionsOf job, ¬ (c.type_ = "Failed" ∧ c.status = "True") := by
    rw [failedCondition?_eq_find?, Option.isNone_iff_eq_none, List.find?_eq_none]
    simp only [saysFailed, Bool.and_eq_true, beq_iff_eq]
  simp only [needsPods, Bool.and_eq_true, decide_eq_true_eq, Bool.not_eq_true',
    decide_eq_false_iff_not, Int.not_lt, hcondition]
  constructor
  · rintro ⟨⟨hfailed, hsucceeded⟩, hnone⟩
    exact ⟨hfailed, hsucceeded, hnone⟩
  · rintro ⟨hfailed, hsucceeded, hnone⟩
    exact ⟨⟨hfailed, hsucceeded⟩, hnone⟩

/-- A condition always gives a reason, whatever it leaves out. -/
theorem conditionReason_ne_empty (c : JobCondition) : conditionReason c ≠ "" := by
  intro h
  have hchars := congrArg String.toList h
  simp [conditionReason] at hchars

theorem failureReason_of_condition {job : Job} {c : JobCondition}
    (h : failedCondition? job = some c) (pods : List Pod) :
    failureReason job pods = conditionReason c := by
  simp [failureReason, h, Text.nonEmpty, Option.filter, conditionReason_ne_empty]

/-- Where the pods are not needed they make no difference. -/
theorem statusOf_eq_of_not_needsPods {job : Job} (h : needsPods job = false) (pods pods' : List Pod)
    (now : Instant) : statusOf job pods now = statusOf job pods' now := by
  unfold statusOf
  dsimp only
  split
  · rfl
  · rename_i hsucceeded
    split
    · rename_i hfailed
      have hsome : (failedCondition? job).isSome = true := by
        simpa [needsPods, hsucceeded, hfailed] using h
      obtain ⟨c, hc⟩ := Option.isSome_iff_exists.1 hsome
      rw [failureReason_of_condition hc, failureReason_of_condition hc]
    · rfl

/-! ## What comes of a look -/

theorem outcome_status {σ : Type} [Cluster σ] (ns name : String) (s : Session σ) :
    (status ns name).outcome s =
      match (Cluster.getJob ns name).outcome s.cluster with
      | (.error e, c) => (.error (e.during ("failed to get job " ++ name)), { s with cluster := c })
      | (.ok job, c) =>
        match (if needsPods job then
            (Cluster.listPods ns (.forJobPods name)).outcome c else (.ok [], c)) with
        | (.error e, c') =>
          (.error (e.during ("failed to list pods for job " ++ name)), { s with cluster := c' })
        | (.ok pods, c') =>
          (.ok (statusOf job pods s.now),
            { s with
              cluster := c'
              counters := s.counters.addPoll (statusOf job pods s.now).phase }) := by
  rw [status, Attempt.outcome_bind, Attempt.outcome_within, Session.outcome_onCluster]
  rcases (Cluster.getJob ns name).outcome s.cluster with ⟨e | job, c⟩
  · rfl
  · dsimp only [during_ok]
    by_cases hneeded : needsPods job = true
    · simp only [if_pos hneeded]
      rw [Attempt.outcome_bind, Attempt.outcome_within, Session.outcome_onCluster]
      dsimp only
      rcases (Cluster.listPods ns (.forJobPods name)).outcome c with ⟨e | pods, c'⟩ <;> rfl
    · simp only [if_neg hneeded]
      rfl

/-- The pods that a look at a job in a store goes by. -/
def podsFor (s : Store) (ns name : String) (job : Job) : Except Failure (List Pod) :=
  if needsPods job then
    during ("failed to list pods for job " ++ name)
      ((Cluster.listPods ns (.forJobPods name) : Attempt Store (List Pod)).outcome s).1
  else .ok []

/-- A look at a build in a store fails without any effect, or is counted. -/
theorem outcome_status_store (ns name : String) (s : Session Store) :
    (status ns name).outcome s =
      match during ("failed to get job " ++ name)
          ((Cluster.getJob ns name : Attempt Store Job).outcome s.cluster).1 with
      | .error e => (.error e, s)
      | .ok job =>
        match podsFor s.cluster ns name job with
        | .error e => (.error e, s)
        | .ok pods =>
          (.ok (statusOf job pods s.now),
            { s with counters := s.counters.addPoll (statusOf job pods s.now).phase }) := by
  have hget : (Cluster.getJob ns name : Attempt Store Job).outcome s.cluster =
      (((Cluster.getJob ns name : Attempt Store Job).outcome s.cluster).1, s.cluster) := by
    rw [Store.outcome_getJob]
  have hlist : (Cluster.listPods ns (.forJobPods name) : Attempt Store (List Pod)).outcome
      s.cluster = (((Cluster.listPods ns (.forJobPods name) : Attempt Store (List Pod)).outcome
        s.cluster).1, s.cluster) := by
    rw [Store.outcome_listPods]
  rw [outcome_status, hget]
  dsimp only
  cases ((Cluster.getJob ns name : Attempt Store Job).outcome s.cluster).1 with
  | error e => rfl
  | ok job =>
    dsimp only [during_ok, podsFor]
    by_cases hneeded : needsPods job = true
    · simp only [if_pos hneeded]
      rw [hlist]
      cases ((Cluster.listPods ns (.forJobPods name) : Attempt Store (List Pod)).outcome
        s.cluster).1 <;> rfl
    · simp only [if_neg hneeded]

/-! ## Pods that are listed only where they are needed -/

/-- The pods of a namespace that are labelled with the name of a job, in name order. -/
def podsOfJob (s : Store) (ns name : String) : List Pod :=
  Store.within s.pods ns fun pod =>
    (pod.metadata.labels.bind (·.find? LabelKey.jobName.text)) == some name

theorem listPods_forJobPods (s : Store) (ns name : String) :
    s.listPods ns (.forJobPods name) = podsOfJob s ns name := by
  simp only [Store.listPods, podsOfJob, Selector.forJobPods, Selector.selects_all_withTerm]

/-- What a look at a job that is there comes to. -/
theorem status_of_find {ns name : String} {job : Job} {s : Session Store}
    (hget : s.cluster.faults .getJob = none)
    (hjob : s.cluster.jobs.find? ⟨ns, name⟩ = some job) :
    ((status ns name).outcome s).1 =
      (podsFor s.cluster ns name job).map fun pods => statusOf job pods s.now := by
  have hfound : ((Cluster.getJob ns name : Attempt Store Job).outcome s.cluster).1 = .ok job := by
    rw [Store.outcome_getJob]
    simp only [hget, Store.lookup, hjob]
  rw [outcome_status_store, hfound]
  dsimp only [during_ok]
  cases podsFor s.cluster ns name job <;> rfl

/-- **Listing the pods only where they are needed makes no difference.** A look at a job that is
there finds the status that the job has with all the pods that carry its name. Where the pods cannot
be listed, the look fails if the failure of the job is unexplained, and otherwise finds the status
that the job has with any pods. -/
theorem status_agrees_with_full_listing {ns name : String} {job : Job} {s : Session Store}
    (hget : s.cluster.faults .getJob = none)
    (hjob : s.cluster.jobs.find? ⟨ns, name⟩ = some job) :
    (s.cluster.faults .listPods = none →
      ((status ns name).outcome s).1 =
        .ok (statusOf job (podsOfJob s.cluster ns name) s.now)) ∧
    ∀ message, s.cluster.faults .listPods = some message →
      (IsUnexplained job →
        ((status ns name).outcome s).1 =
          .error (Failure.during ("failed to list pods for job " ++ name)
            ⟨.kubernetes, message⟩)) ∧
      (¬ IsUnexplained job →
        ∀ pods, ((status ns name).outcome s).1 = .ok (statusOf job pods s.now)) := by
  have hunneeded : ¬ IsUnexplained job →
      ∀ pods, ((status ns name).outcome s).1 = .ok (statusOf job pods s.now) := by
    intro hexplained pods
    have hneeds : needsPods job = false := by
      rw [← Bool.not_eq_true, needsPods_iff]
      exact hexplained
    rw [status_of_find hget hjob, podsFor, hneeds, statusOf_eq_of_not_needsPods hneeds pods []]
    rfl
  refine ⟨fun hlist => ?_, fun message hlist => ⟨fun hunexplained => ?_, hunneeded⟩⟩
  · by_cases hunexplained : IsUnexplained job
    · have hpods : podsFor s.cluster ns name job = .ok (podsOfJob s.cluster ns name) := by
        simp only [podsFor, if_pos ((needsPods_iff job).2 hunexplained), Store.outcome_listPods,
          hlist, listPods_forJobPods, during_ok]
      rw [status_of_find hget hjob, hpods]
      rfl
    · exact hunneeded hunexplained _
  · have hpods : podsFor s.cluster ns name job =
        .error (Failure.during ("failed to list pods for job " ++ name)
          ⟨.kubernetes, message⟩) := by
      simp only [podsFor, if_pos ((needsPods_iff job).2 hunexplained), Store.outcome_listPods,
        hlist, during_error]
    rw [status_of_find hget hjob, hpods]
    rfl

/-- A job that has failed, with some conditions. -/
def failedJob (conditions : List JobCondition) : Job where
  metadata := { name := some "build", namespace_ := some "builds" }
  status := some { failed := some 1, conditions := some conditions }

/-- A pod of the job whose container ran out of memory. -/
def killedPod : Pod where
  metadata := {
    name := some "build-1"
    namespace_ := some "builds"
    labels := some (SortedMap.ofList [(LabelKey.jobName.text, "build")]) }
  status := some { containerStatuses := some [{
    name := "app"
    state := some { terminated := some { exitCode := 137, reason := some "OOMKilled" } } }] }

/-- The job and its pod. -/
def failedStore (conditions : List JobCondition) : Store :=
  (Store.insertJob {} (failedJob conditions)).insertPod killedPod

/-- A condition that says that the job failed, and nothing else. -/
def blankCondition : JobCondition where
  type_ := "Failed"
  status := "True"

/-- The pod explains the failure, a listing that fails is noticed where the pod is needed, and a
condition does without the pod. -/
theorem status_agrees_with_full_listing_failedStore :
    ((status "builds" "build").outcome ⟨failedStore [], {}, .epoch⟩).1 =
      .ok (statusOf (failedJob []) [killedPod] .epoch) ∧
    (statusOf (failedJob []) [killedPod] .epoch).failureReason =
      "OOMKilled (Container: app, Exit Code: 137)" ∧
    ((status "builds" "build").outcome ⟨(failedStore []).fail .listPods "down", {}, .epoch⟩).1 =
      .error ⟨.kubernetes, "failed to list pods for job build: down"⟩ ∧
    ∀ pods, ((status "builds" "build").outcome
        ⟨(failedStore [blankCondition]).fail .listPods "down", {}, .epoch⟩).1 =
      .ok (statusOf (failedJob [blankCondition]) pods .epoch) := by
  have hunexplained : IsUnexplained (failedJob []) :=
    ⟨by decide, by decide, by simp [conditionsOf, failedJob]⟩
  have hexplained : ¬ IsUnexplained (failedJob [blankCondition]) := fun h =>
    h.no_condition blankCondition (by simp [conditionsOf, failedJob]) ⟨rfl, rfl⟩
  refine ⟨(status_agrees_with_full_listing rfl rfl).1 rfl, by decide +kernel,
    ((status_agrees_with_full_listing rfl rfl).2 "down" rfl).1 hunexplained,
    ((status_agrees_with_full_listing rfl rfl).2 "down" rfl).2 hexplained⟩

end Build

end BuildYard
