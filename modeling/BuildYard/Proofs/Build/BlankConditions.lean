import BuildYard.Proofs.Build.Coherence
/-!
# Conditions that explain nothing

A condition can say that a job failed and leave out why. It should not stand in the way of what comes
after it, but the reason that it gives is never empty: the separator `": "` is left of it
(`Explains.eq_separator_iff`). So such a condition hides the other conditions and all of the pods where
it is the first that says that the job failed, and only there (`fallsThrough_iff`).
-/

namespace BuildYard.Build

variable {job : Job} {pods : List Pod} {now : Instant}

/-! ## Jobs without such conditions -/

instance (c : JobCondition) : Decidable (SaysFailed c) := inferInstanceAs (Decidable (_ ∧ _))

/-- The condition leaves out both what happened and why, or has empty texts for them. -/
def SaysNothing (c : JobCondition) : Prop := c.reason.getD "" = "" ∧ c.message.getD "" = ""

instance (c : JobCondition) : Decidable (SaysNothing c) := inferInstanceAs (Decidable (_ ∧ _))

/-- The job without the conditions that say that it failed and nothing else. -/
def withoutBlankFailures (job : Job) : Job :=
  { job with
    status := job.status.map fun status => { status with
      conditions := status.conditions.map fun conditions =>
        conditions.filter fun c => ¬ (SaysFailed c ∧ SaysNothing c) } }

theorem conditionsOf_withoutBlankFailures (job : Job) :
    conditionsOf (withoutBlankFailures job) =
      (conditionsOf job).filter fun c => ¬ (SaysFailed c ∧ SaysNothing c) := by
  unfold conditionsOf withoutBlankFailures
  rcases job.status with _ | status
  · rfl
  · rcases hconditions : status.conditions with _ | conditions <;> simp [hconditions]

theorem mem_withoutBlankFailures {c : JobCondition}
    (h : c ∈ conditionsOf (withoutBlankFailures job)) :
    c ∈ conditionsOf job ∧ ¬ (SaysFailed c ∧ SaysNothing c) := by
  rw [conditionsOf_withoutBlankFailures, List.mem_filter] at h
  exact ⟨h.1, of_decide_eq_true h.2⟩

theorem hasSucceeded_withoutBlankFailures :
    HasSucceeded (withoutBlankFailures job) ↔ HasSucceeded job := by
  unfold HasSucceeded withoutBlankFailures
  cases job.status <;> rfl

theorem hasFailed_withoutBlankFailures :
    HasFailed (withoutBlankFailures job) ↔ HasFailed job := by
  unfold HasFailed withoutBlankFailures
  cases job.status <;> rfl

/-- Conditions make no build succeed or fail. -/
theorem failed_withoutBlankFailures (h : (statusOf job pods now).phase = .failed) :
    (statusOf (withoutBlankFailures job) pods now).phase = .failed := by
  rw [((derived_statusOf _ _).phaseByCounts now).failed_iff] at h ⊢
  rwa [hasSucceeded_withoutBlankFailures, hasFailed_withoutBlankFailures]

/-! ## What is left of a condition that says nothing -/

theorem reason_eq_separator_iff {c : JobCondition} :
    c.reason.getD "" ++ ": " ++ c.message.getD "" = ": " ↔ SaysNothing c := by
  constructor
  · intro h
    have hlength := congrArg (fun s => s.toList.length) h
    simp only [String.toList_append, List.length_append] at hlength
    have hseparator : (": " : String).toList.length = 2 := rfl
    constructor
    · exact String.toList_injective (List.eq_nil_of_length_eq_zero (by omega))
    · exact String.toList_injective (List.eq_nil_of_length_eq_zero (by omega))
  · rintro ⟨hreason, hmessage⟩
    rw [hreason, hmessage]
    rfl

theorem ne_separator_of_mem {reason : String} {c : Char} (hmem : c ∈ reason.toList)
    (hc : c ∉ (": " : String).toList) : reason ≠ ": " := by
  rintro rfl
  exact hc hmem

/-- A reason is the bare separator exactly where the first condition that says that the job failed says
nothing else. -/
theorem Explains.eq_separator_iff {reason : String} (h : Explains job pods reason) :
    reason = ": " ↔ ∃ c, FirstWith SaysFailed (conditionsOf job) c ∧ SaysNothing c := by
  have hnone : (∀ c ∈ conditionsOf job, ¬ SaysFailed c) →
      ¬ ∃ c, FirstWith SaysFailed (conditionsOf job) c ∧ SaysNothing c := by
    rintro hno ⟨c, hfirst, -⟩
    have hsome := failedCondition?_eq_some_iff.2 hfirst
    rw [failedCondition?_eq_none_iff.2 hno] at hsome
    cases hsome
  cases h with
  | @condition c first =>
    rw [reason_eq_separator_iff]
    constructor
    · intro hnothing
      exact ⟨c, first, hnothing⟩
    · rintro ⟨c', first', hnothing⟩
      have hsame := (failedCondition?_eq_some_iff.2 first).symm.trans
        (failedCondition?_eq_some_iff.2 first')
      obtain rfl := Option.some.inj hsame
      exact hnothing
  | container no_condition =>
    exact iff_of_false (ne_separator_of_mem (c := '(') (by simp) (by decide)) (hnone no_condition)
  | pod no_condition =>
    exact iff_of_false (ne_separator_of_mem (c := 'P') (by simp) (by decide)) (hnone no_condition)
  | unknown no_condition => exact iff_of_false (by decide) (hnone no_condition)

/-- What explains a failure and is not the bare separator also explains it without the conditions that
say nothing. -/
theorem Explains.withoutBlankFailures {reason : String} (h : Explains job pods reason)
    (hreason : reason ≠ ": ") : Explains (withoutBlankFailures job) pods reason := by
  have hno : (∀ c ∈ conditionsOf job, ¬ SaysFailed c) →
      ∀ c ∈ conditionsOf (Build.withoutBlankFailures job), ¬ SaysFailed c :=
    fun hno c hc => hno c (mem_withoutBlankFailures hc).1
  cases h with
  | @condition c first =>
    refine .condition ?_
    rw [conditionsOf_withoutBlankFailures]
    refine first.filter (decide_eq_true fun hblank => hreason ?_)
    exact reason_eq_separator_iff.2 hblank.2
  | container no_condition first ended_with => exact .container (hno no_condition) first ended_with
  | pod no_condition no_container first => exact .pod (hno no_condition) no_container first
  | unknown no_condition no_container no_pod => exact .unknown (hno no_condition) no_container no_pod

/-- Without those conditions no reason is the bare separator. -/
theorem Explains.ne_separator {reason : String}
    (h : Explains (Build.withoutBlankFailures job) pods reason) : reason ≠ ": " := by
  intro heq
  obtain ⟨c, hfirst, hnothing⟩ := h.eq_separator_iff.1 heq
  exact (mem_withoutBlankFailures hfirst.mem).2 ⟨hfirst.holds, hnothing⟩

/-! ## What comes after -/

/-- **Where conditions that say nothing do no harm.** A failed build has the same reason as without the
conditions that say that it failed and nothing else exactly if the first condition that says that it
failed is none of these. If it is, its reason is the separator of a reason and a message. -/
theorem fallsThrough_iff (h : (statusOf job pods now).phase = .failed) :
    ((statusOf job pods now).failureReason =
        (statusOf (withoutBlankFailures job) pods now).failureReason ↔
      ∀ c, FirstWith SaysFailed (conditionsOf job) c → ¬ SaysNothing c) ∧
    ∀ c, FirstWith SaysFailed (conditionsOf job) c → SaysNothing c →
      (statusOf job pods now).failureReason = ": " := by
  rw [failureReason_statusOf h, failureReason_statusOf (failed_withoutBlankFailures h)]
  have hwith := explains_failureReason job pods
  have hwithout := explains_failureReason (withoutBlankFailures job) pods
  refine ⟨⟨fun hsame c hfirst hnothing => ?_, fun hexplains => ?_⟩, fun c hfirst hnothing => ?_⟩
  · have hseparator := hwith.eq_separator_iff.2 ⟨c, hfirst, hnothing⟩
    exact hwithout.ne_separator (hsame ▸ hseparator)
  · have hreason : failureReason job pods ≠ ": " := fun heq => by
      obtain ⟨c, hfirst, hnothing⟩ := hwith.eq_separator_iff.1 heq
      exact hexplains c hfirst hnothing
    exact (failureReason_of_explains (hwith.withoutBlankFailures hreason)).symm
  · exact hwith.eq_separator_iff.2 ⟨c, hfirst, hnothing⟩

/-- A condition that says why the job failed. -/
def exceededCondition : JobCondition where
  type_ := "Failed"
  status := "True"
  reason := some "DeadlineExceeded"

/-- Behind a condition that says why, one that says nothing does no harm; in front of it, it hides it. -/
theorem fallsThrough_iff_exceededCondition :
    let job := failedJob [exceededCondition, blankCondition]
    let job' := failedJob [blankCondition, exceededCondition]
    ((statusOf job [killedPod] .epoch).phase = .failed ∧
      (statusOf job [killedPod] .epoch).failureReason =
        (statusOf (withoutBlankFailures job) [killedPod] .epoch).failureReason) ∧
    (statusOf job' [killedPod] .epoch).phase = .failed ∧
      (statusOf job' [killedPod] .epoch).failureReason = ": " := by
  intro job job'
  have hfailed : (statusOf job [killedPod] .epoch).phase = .failed := rfl
  have hfailed' : (statusOf job' [killedPod] .epoch).phase = .failed := rfl
  have hfirst : failedCondition? job = some exceededCondition := rfl
  have hfirst' : failedCondition? job' = some blankCondition := rfl
  refine ⟨⟨hfailed, (fallsThrough_iff hfailed).1.2 fun c hc => ?_⟩, hfailed', ?_⟩
  · obtain rfl := Option.some.inj (hfirst.symm.trans (failedCondition?_eq_some_iff.2 hc))
    decide
  · exact (fallsThrough_iff hfailed').2 _ (failedCondition?_eq_some_iff.1 hfirst') (by decide)

/-- A condition that says nothing hides the pod that explains the failure. -/
theorem not_fallsThrough_blankCondition :
    let job := failedJob [blankCondition]
    (statusOf job [killedPod] .epoch).phase = .failed ∧
    (statusOf job [killedPod] .epoch).failureReason = ": " ∧
    (statusOf (withoutBlankFailures job) [killedPod] .epoch).failureReason =
      "OOMKilled (Container: app, Exit Code: 137)" := by
  decide +kernel

end BuildYard.Build
