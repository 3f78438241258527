import BuildYard.Proofs.Build.Reasons
/-!
# The fields of a status agree

A job can report any counts, times and conditions together. Whatever it reports, the phase of the
build goes by the counts alone, and the reason and the times are there exactly where the phase calls
for them (`coherent_statusOf`). The clock is seen in a time that the job does not report, and nowhere
else.
-/

namespace BuildYard.Build

variable {job : Job} {pods : List Pod} {now now' : Instant}

/-! ## The counts -/

/-- A number of pods that is known and positive. -/
def IsPositive (count : Option Int) : Prop := ∃ n, count = some n ∧ 0 < n

theorem isPositive_iff {count : Option Int} : IsPositive count ↔ 0 < count.getD 0 := by
  cases count <;> simp [IsPositive]

/-- Pods of the job succeeded. -/
def HasSucceeded (job : Job) : Prop := IsPositive (job.status.bind (·.succeeded))

/-- Pods of the job failed. -/
def HasFailed (job : Job) : Prop := IsPositive (job.status.bind (·.failed))

/-- Pods of the job run. -/
def HasActive (job : Job) : Prop := IsPositive (job.status.bind (·.active))

theorem isActive_iff : job.isActive = true ↔ HasActive job := by
  rw [Job.isActive, decide_eq_true_eq, HasActive, isPositive_iff]
  rfl

/-- What the counts of a job make of its status at any time, success before failure and failure before
running. -/
inductive Derived (job : Job) (pods : List Pod) : (Instant → BuildStatus) → Prop
  | succeeded (succeeded : HasSucceeded job) :
      Derived job pods fun now =>
        { phase := .succeeded
          startTime := job.status.bind (·.startTime)
          completedTime := some ((job.status.bind (·.completionTime)).getD now) }
  | failed (not_succeeded : ¬ HasSucceeded job) (failed : HasFailed job) :
      Derived job pods fun now =>
        { phase := .failed
          failureReason := failureReason job pods
          startTime := job.status.bind (·.startTime)
          failedTime := some (failedTime job now) }
  | running (not_succeeded : ¬ HasSucceeded job) (not_failed : ¬ HasFailed job)
      (active : HasActive job) :
      Derived job pods fun now =>
        { phase := .running, startTime := some ((job.status.bind (·.startTime)).getD now) }
  | pending (not_succeeded : ¬ HasSucceeded job) (not_failed : ¬ HasFailed job)
      (not_active : ¬ HasActive job) :
      Derived job pods fun _ => { phase := .pending }

theorem derived_statusOf (job : Job) (pods : List Pod) : Derived job pods (statusOf job pods) := by
  have hsucceeded : 0 < job.succeededPods ↔ HasSucceeded job := isPositive_iff.symm
  have hfailed : 0 < job.failedPods ↔ HasFailed job := isPositive_iff.symm
  by_cases succeeded : HasSucceeded job
  · have hstatus : statusOf job pods = fun now => _ :=
      funext fun now => if_pos (hsucceeded.2 succeeded)
    rw [hstatus]
    exact .succeeded succeeded
  have hnot_succeeded := mt hsucceeded.1 succeeded
  by_cases failed : HasFailed job
  · have hstatus : statusOf job pods = fun now => _ :=
      funext fun now => (if_neg hnot_succeeded).trans (if_pos (hfailed.2 failed))
    rw [hstatus]
    exact .failed succeeded failed
  have hnot_failed := mt hfailed.1 failed
  by_cases active : HasActive job
  · have hstatus : statusOf job pods = fun now => _ :=
      funext fun now => (if_neg hnot_succeeded).trans <|
        (if_neg hnot_failed).trans (if_pos (isActive_iff.2 active))
    rw [hstatus]
    exact .running succeeded failed active
  · have hstatus : statusOf job pods = fun now => _ :=
      funext fun now => (if_neg hnot_succeeded).trans <|
        (if_neg hnot_failed).trans (if_neg (mt isActive_iff.1 active))
    rw [hstatus]
    exact .pending succeeded failed active

/-! ## The clock -/

/-- The same time, or each the time of its own clock. -/
def SameTime (now now' : Instant) (t t' : Option Instant) : Prop :=
  t = t' ∨ (t = some now ∧ t' = some now')

theorem sameTime_getD (t : Option Instant) :
    SameTime now now' (some (t.getD now)) (some (t.getD now')) := by
  cases t with
  | none => exact .inr ⟨rfl, rfl⟩
  | some t => exact .inl rfl

/-- Two statuses that differ at most in times of the clock. -/
structure SameUpToClock (now now' : Instant) (s s' : BuildStatus) : Prop where
  phase : s.phase = s'.phase
  failureReason : s.failureReason = s'.failureReason
  startTime : SameTime now now' s.startTime s'.startTime
  completedTime : SameTime now now' s.completedTime s'.completedTime
  failedTime : SameTime now now' s.failedTime s'.failedTime

theorem Derived.sameUpToClock {status : Instant → BuildStatus} (h : Derived job pods status)
    (now now' : Instant) : SameUpToClock now now' (status now) (status now') := by
  cases h with
  | succeeded => exact ⟨rfl, rfl, .inl rfl, sameTime_getD _, .inl rfl⟩
  | failed => exact ⟨rfl, rfl, .inl rfl, .inl rfl, sameTime_getD _⟩
  | running => exact ⟨rfl, rfl, sameTime_getD _, .inl rfl, .inl rfl⟩
  | pending => exact ⟨rfl, rfl, .inl rfl, .inl rfl, .inl rfl⟩

/-! ## The fields -/

/-- The phase goes by the counts, success before failure and failure before running. -/
structure PhaseByCounts (job : Job) (phase : BuildPhase) : Prop where
  succeeded_iff : phase = .succeeded ↔ HasSucceeded job
  failed_iff : phase = .failed ↔ ¬ HasSucceeded job ∧ HasFailed job
  running_iff : phase = .running ↔ ¬ HasSucceeded job ∧ ¬ HasFailed job ∧ HasActive job
  pending_iff : phase = .pending ↔ ¬ HasSucceeded job ∧ ¬ HasFailed job ∧ ¬ HasActive job

/-- A status of the build that a job runs whose fields agree with each other and with the job. -/
structure Coherent (job : Job) (s : BuildStatus) : Prop where
  phase : PhaseByCounts job s.phase
  failureReason_iff : s.failureReason ≠ "" ↔ s.phase = .failed
  completedTime_iff : s.completedTime.isSome = true ↔ s.phase = .succeeded
  failedTime_iff : s.failedTime.isSome = true ↔ s.phase = .failed
  started : s.phase = .succeeded ∨ s.phase = .failed → s.startTime = job.status.bind (·.startTime)
  started_running : s.phase = .running → s.startTime.isSome = true
  started_pending : s.phase = .pending → s.startTime = none

theorem Derived.phaseByCounts {status : Instant → BuildStatus} (h : Derived job pods status)
    (now : Instant) : PhaseByCounts job (status now).phase := by
  cases h with
  | succeeded h => constructor <;> simp [h]
  | failed hsucceeded h => constructor <;> simp [hsucceeded, h]
  | running hsucceeded hfailed h => constructor <;> simp [hsucceeded, hfailed, h]
  | pending hsucceeded hfailed hactive => constructor <;> simp [hsucceeded, hfailed, hactive]

theorem Derived.coherent {status : Instant → BuildStatus} (h : Derived job pods status)
    (now : Instant) : Coherent job (status now) := by
  have hphase := h.phaseByCounts now
  cases h with
  | failed =>
    have hreason := (explains_failureReason job pods).ne_empty
    refine ⟨hphase, ?_, ?_, ?_, ?_, ?_, ?_⟩ <;> simp [hreason]
  | succeeded | running | pending => refine ⟨hphase, ?_, ?_, ?_, ?_, ?_, ?_⟩ <;> simp

/-- **Every status is coherent, and shows the clock only in times that the job does not report.** -/
theorem coherent_statusOf (job : Job) (pods : List Pod) (now : Instant) :
    Coherent job (statusOf job pods now) ∧
      ∀ now', SameUpToClock now now' (statusOf job pods now) (statusOf job pods now') :=
  ⟨(derived_statusOf job pods).coherent now, (derived_statusOf job pods).sameUpToClock now⟩

end BuildYard.Build
