import BuildYard.Proofs.Build.Coherence
import BuildYard.Proofs.Time.Counting
/-!
# When a build failed

A failed build has always failed at some time, and at one only: the time of the transition that its
job reports, or else its start and its deadline added up, or else the present. `FailsAt` has a case for
each of the three (`failsAt_iff_failedTime`).
-/

namespace BuildYard.Build

/-! ## The time of a failure -/

/-- The first condition that says that the job failed tells when it came to say so. -/
def TransitionAt (job : Job) (t : Instant) : Prop :=
  ∃ c, FirstWith SaysFailed (conditionsOf job) c ∧ c.lastTransitionTime = some t

/-- The job has started, and may be active for so many seconds from then on. -/
def RunsFor (job : Job) (start : Instant) (n : Int) : Prop :=
  job.status.bind (·.startTime) = some start ∧ job.spec.bind (·.activeDeadlineSeconds) = some n

/-- The times at which a failed job has failed, seen at a time: there is one for each job. -/
inductive FailsAt (job : Job) (now : Instant) : Instant → Prop
  | transition {t : Instant} (transition : TransitionAt job t) : FailsAt job now t
  | deadline {start t : Instant} {n : Int} (no_transition : ∀ t, ¬ TransitionAt job t)
      (runs : RunsFor job start n) (counted : start.Counted n t.seconds t.nanos)
      (in_range : Instant.InRange t.seconds) : FailsAt job now t
  | present (no_transition : ∀ t, ¬ TransitionAt job t)
      (no_deadline : ∀ start n seconds nanos, RunsFor job start n →
        start.Counted n seconds nanos → ¬ Instant.InRange seconds) : FailsAt job now now

theorem transition_eq_some_iff {job : Job} {t : Instant} :
    (failedCondition? job).bind (·.lastTransitionTime) = some t ↔ TransitionAt job t := by
  simp only [Option.bind_eq_some_iff, failedCondition?_eq_some_iff, TransitionAt]

theorem transition_eq_none_iff {job : Job} :
    (failedCondition? job).bind (·.lastTransitionTime) = none ↔ ∀ t, ¬ TransitionAt job t := by
  simp only [Option.eq_none_iff_forall_ne_some, ne_eq, transition_eq_some_iff]

theorem deadline?_eq_some_iff {job : Job} {t : Instant} :
    deadline? job = some t ↔ ∃ start n, RunsFor job start n ∧ start.addSeconds? n = some t := by
  unfold deadline? RunsFor
  rcases job.status with _ | status
  · simp
  · rcases job.spec with _ | spec
    · simp
    · simp only [Option.bind_eq_bind, Option.bind_some, Option.bind_eq_some_iff, exists_and_left,
        and_assoc, ← Instant.add_ofSeconds?]

/-- The deadline is the time counted from the start, if that is in the range. -/
theorem deadline?_eq_of_counted {job : Job} {start : Instant} {n seconds : Int} {nanos : Nat}
    (hruns : RunsFor job start n) (hcounted : start.Counted n seconds nanos) :
    deadline? job = Instant.of? seconds nanos := by
  refine Option.ext fun t => ?_
  rw [deadline?_eq_some_iff, ← Instant.addSeconds?_of_counted hcounted]
  constructor
  · rintro ⟨start', n', ⟨hstart, hn⟩, hadd⟩
    obtain rfl := Option.some.inj (hruns.1.symm.trans hstart)
    obtain rfl := Option.some.inj (hruns.2.symm.trans hn)
    exact hadd
  · intro hadd
    exact ⟨start, n, hruns, hadd⟩

theorem deadline?_eq_none_iff {job : Job} :
    deadline? job = none ↔ ∀ start n seconds nanos, RunsFor job start n →
      start.Counted n seconds nanos → ¬ Instant.InRange seconds := by
  constructor
  · intro hnone start n seconds nanos hruns hcounted hrange
    obtain ⟨t, ht⟩ := hcounted.exists_of? hrange
    rw [deadline?_eq_of_counted hruns hcounted, ht] at hnone
    cases hnone
  · intro h
    rw [Option.eq_none_iff_forall_ne_some]
    intro t ht
    obtain ⟨start, n, hruns, hadd⟩ := deadline?_eq_some_iff.1 ht
    obtain ⟨seconds, nanos, hcounted⟩ := start.exists_counted n
    rw [Instant.addSeconds?_of_counted hcounted] at hadd
    obtain ⟨rfl, -⟩ := Instant.of?_eq_some_iff.1 hadd
    exact h start n _ nanos hruns hcounted t.inRange_seconds

theorem failsAt_failedTime (job : Job) (now : Instant) : FailsAt job now (failedTime job now) := by
  unfold failedTime
  cases htransition : (failedCondition? job).bind (·.lastTransitionTime) with
  | some t => exact .transition (transition_eq_some_iff.1 htransition)
  | none =>
    have hno := transition_eq_none_iff.1 htransition
    rw [Option.none_or]
    cases hdeadline : deadline? job with
    | none => exact .present hno (deadline?_eq_none_iff.1 hdeadline)
    | some t =>
      obtain ⟨start, n, hruns, hadd⟩ := deadline?_eq_some_iff.1 hdeadline
      obtain ⟨seconds, nanos, hcounted⟩ := start.exists_counted n
      rw [Instant.addSeconds?_of_counted hcounted] at hadd
      obtain ⟨rfl, rfl⟩ := Instant.of?_eq_some_iff.1 hadd
      exact .deadline hno hruns hcounted t.inRange_seconds

theorem failedTime_of_failsAt {job : Job} {now t : Instant} (h : FailsAt job now t) :
    failedTime job now = t := by
  unfold failedTime
  cases h with
  | transition transition => rw [transition_eq_some_iff.2 transition]; rfl
  | deadline no_transition runs counted in_range =>
    rw [transition_eq_none_iff.2 no_transition, deadline?_eq_of_counted runs counted,
      Instant.of?_eq_some_iff.2 ⟨rfl, rfl⟩]
    rfl
  | present no_transition no_deadline =>
    rw [transition_eq_none_iff.2 no_transition, deadline?_eq_none_iff.2 no_deadline]
    rfl

theorem failedTime_statusOf {job : Job} {pods : List Pod} {now : Instant}
    (h : (statusOf job pods now).phase = .failed) :
    (statusOf job pods now).failedTime = some (failedTime job now) := by
  have hderived := derived_statusOf job pods
  generalize statusOf job pods = status at hderived h ⊢
  cases hderived with
  | failed => rfl
  | succeeded | running | pending => cases h

/-- **When a build failed.** A failed build always has a time of failure, and only one: the time of the
transition that its job reports, or else the time that is counted from its start by its deadline, if it
has both and that time is in the range, or else the present. -/
theorem failsAt_iff_failedTime {job : Job} {pods : List Pod} {now : Instant}
    (h : (statusOf job pods now).phase = .failed) :
    ∃ t, (statusOf job pods now).failedTime = some t ∧ ∀ t', FailsAt job now t' ↔ t' = t := by
  refine ⟨failedTime job now, failedTime_statusOf h, fun t' => ⟨fun ht => ?_, ?_⟩⟩
  · exact (failedTime_of_failsAt ht).symm
  · rintro rfl
    exact failsAt_failedTime job now

/-- A job that failed, having started at the start of 1970. -/
def epochJob (deadline : Int) : Job where
  spec := some { activeDeadlineSeconds := some deadline }
  status := some { failed := some 1, startTime := some .epoch }

/-- A deadline can lead to the last second of all. One that is a second longer leads nowhere, like the
longest of all, and the failure is left to the present. -/
theorem failsAt_iff_failedTime_lastSecond :
    let now : Instant := ⟨1700000000, 0, by decide⟩
    ((statusOf (epochJob 8210266876799) [] now).phase = .failed ∧
      FailsAt (epochJob 8210266876799) now ⟨8210266876799, 0, by decide⟩) ∧
    ∀ deadline ∈ [8210266876800, 9223372036854775807, -9223372036854775808],
      (statusOf (epochJob deadline) [] now).phase = .failed ∧ FailsAt (epochJob deadline) now now := by
  intro now
  have hfailed : ∀ deadline, (statusOf (epochJob deadline) [] now).phase = .failed := fun _ => rfl
  constructor
  · obtain ⟨t, ht, hall⟩ := failsAt_iff_failedTime (hfailed 8210266876799)
    have hlast : (statusOf (epochJob 8210266876799) [] now).failedTime =
        some ⟨8210266876799, 0, by decide⟩ := by decide
    exact ⟨hfailed _, (hall _).2 (Option.some.inj (hlast.symm.trans ht))⟩
  · have hpresent : ∀ deadline ∈ [8210266876800, 9223372036854775807, -9223372036854775808],
        (statusOf (epochJob deadline) [] now).failedTime = some now := by decide
    intro deadline hdeadline
    obtain ⟨t, ht, hall⟩ := failsAt_iff_failedTime (hfailed deadline)
    have hnow := hpresent deadline hdeadline
    exact ⟨hfailed _, (hall _).2 (Option.some.inj (hnow.symm.trans ht))⟩

/-- A job that failed, having started inside the leap second at the end of 2016. -/
def leapStartJob : Job where
  spec := some { activeDeadlineSeconds := some 1200 }
  status := some {
    failed := some 1
    startTime := some ⟨1483228799, Instant.second, by decide⟩ }

/-- A start inside a leap second does not leave a failure to the present: the deadline counts from the
second before. -/
theorem not_failsAtPresent_leapStart :
    ¬ ∀ (job : Job) (pods : List Pod) (now start : Instant),
        (statusOf job pods now).phase = .failed → (∀ t, ¬ TransitionAt job t) →
        job.status.bind (·.startTime) = some start → start.isLeap = true →
        (statusOf job pods now).failedTime = some now := by
  intro h
  have hpresent := h leapStartJob [] .epoch _ (by decide) ?_ rfl (by decide)
  · exact absurd hpresent (by decide)
  · rw [← transition_eq_none_iff]
    rfl

end BuildYard.Build
