import BuildYard.Proofs.Health.Classification
/-!
# Why a container crashes

The current state of a container explains a crash before its history does, and a container that waits
after a crash explains it only if it has something to say. `CrashesBecause` has a case for each of the
three reasons, and `explained_instanceOf` says that the instance of a container gives the one that
applies. A crash for which none applies is one of a container that waits without a word.
-/

namespace BuildYard.Health

variable {c : ContainerStatus}

/-! ## What is reported -/

/-- The container waits for a restart after a crash, and says this about it. -/
def SaysOfCrash (c : ContainerStatus) (message : String) : Prop :=
  InCrashLoop c ∧ (∃ w, c.waiting? = some w ∧ w.message = some message) ∧ message ≠ ""

/-- What the container does now is that it has ended. -/
def HasEnded (c : ContainerStatus) (t : TerminatedState) : Prop :=
  c.running? = none ∧ c.waiting? = none ∧ c.terminated? = some t

/-- The last run of the container, the one before its current state, has ended. -/
def LastRunEnded (c : ContainerStatus) (t : TerminatedState) : Prop :=
  c.lastState.bind (·.terminated) = some t

/-- The reasons that are given for a crash. -/
inductive CrashesBecause (c : ContainerStatus) : String → Prop
  | message {message : String} (said : SaysOfCrash c message) : CrashesBecause c message
  | ended {t : TerminatedState} (no_message : ∀ message, ¬ SaysOfCrash c message)
      (has_ended : HasEnded c t) (failed : t.exitCode ≠ 0) :
      CrashesBecause c ("Terminated with exit code: " ++ toString t.exitCode ++ ", reason: " ++
        t.reason.getD "")
  | restarts {t : TerminatedState} (no_message : ∀ message, ¬ SaysOfCrash c message)
      (not_ended : ¬ EndedBadly c) (last : LastRunEnded c t) (failed : t.exitCode ≠ 0)
      (often : 3 < c.restartCount) :
      CrashesBecause c ("Container restarted " ++ toString c.restartCount ++
        " times, last exit code: " ++ toString t.exitCode)

theorem endedBadly_iff : EndedBadly c ↔ ∃ t, HasEnded c t ∧ t.exitCode ≠ 0 := by
  constructor
  · rintro ⟨hrunning, hwaiting, t, hended, hcode⟩
    exact ⟨t, ⟨hrunning, hwaiting, hended⟩, hcode⟩
  · rintro ⟨t, ⟨hrunning, hwaiting, hended⟩, hcode⟩
    exact ⟨hrunning, hwaiting, t, hended, hcode⟩

/-- A container that waits after a crash has not ended. -/
theorem not_endedBadly_of_inCrashLoop (h : InCrashLoop c) : ¬ EndedBadly c := by
  obtain ⟨-, w, -, hwaiting, -⟩ := h
  rintro ⟨-, hnone, -⟩
  rw [hwaiting] at hnone
  cases hnone

theorem number_eq_toString (i : Int) : number i = toString i := Text.signedDecimal_eq_toString i

/-! ## The current state -/

theorem currentCrashReason_waiting_iff {w : WaitingState} {reason : String} :
    currentCrashReason (.waiting w) = some reason ↔
      waitsToRestart w = true ∧ w.message = some reason ∧ reason ≠ "" := by
  rw [← Text.nonEmpty_eq_some_iff, currentCrashReason]
  split <;> simp [*]

theorem currentCrashReason_terminated_iff {t : TerminatedState} {reason : String} :
    currentCrashReason (.terminated t) = some reason ↔
      t.exitCode ≠ 0 ∧ "Terminated with exit code: " ++ toString t.exitCode ++ ", reason: " ++
        t.reason.getD "" = reason := by
  rw [currentCrashReason, number_eq_toString]
  split <;> simp [*]

/-- The current state gives a reason as it is reported. -/
theorem currentCrashReason_of_iff {reason : String} :
    currentCrashReason (.of c) = some reason ↔
      SaysOfCrash c reason ∨
      ∃ t, HasEnded c t ∧ t.exitCode ≠ 0 ∧ "Terminated with exit code: " ++ toString t.exitCode ++
        ", reason: " ++ t.reason.getD "" = reason := by
  constructor
  · intro h
    cases hcurrent : CurrentState.of c with
    | running | unreported =>
      rw [hcurrent] at h
      cases h
    | waiting w =>
      rw [hcurrent, currentCrashReason_waiting_iff] at h
      obtain ⟨hrestart, hmessage, hne⟩ := h
      obtain ⟨hrunning, hwaiting⟩ := of_eq_waiting_iff.1 hcurrent
      obtain ⟨reason', hreason, hsame⟩ := waitsToRestart_iff.1 hrestart
      exact .inl ⟨⟨hrunning, w, reason', hwaiting, hreason, hsame⟩, ⟨w, hwaiting, hmessage⟩, hne⟩
    | terminated t =>
      rw [hcurrent, currentCrashReason_terminated_iff] at h
      exact .inr ⟨t, of_eq_terminated_iff.1 hcurrent, h⟩
  · rintro (⟨⟨hrunning, w, reason', hwaiting, hreason, hsame⟩, ⟨w', hwaiting', hmessage⟩, hne⟩ |
      ⟨t, hended, h⟩)
    · obtain rfl := Option.some.inj (hwaiting.symm.trans hwaiting')
      rw [of_eq_waiting_iff.2 ⟨hrunning, hwaiting⟩, currentCrashReason_waiting_iff]
      exact ⟨waitsToRestart_iff.2 ⟨reason', hreason, hsame⟩, hmessage, hne⟩
    · rw [of_eq_terminated_iff.2 hended, currentCrashReason_terminated_iff]
      exact h

theorem currentCrashReason_of_eq_none_iff :
    currentCrashReason (.of c) = none ↔
      (∀ message, ¬ SaysOfCrash c message) ∧ ¬ EndedBadly c := by
  rw [Option.eq_none_iff_forall_ne_some, endedBadly_iff]
  simp only [ne_eq, currentCrashReason_of_iff, not_or, forall_and]
  refine and_congr_right fun _ => ⟨?_, ?_⟩
  · rintro h ⟨t, hended, hcode⟩
    exact h _ ⟨t, hended, hcode, rfl⟩
  · rintro h reason ⟨t, hended, hcode, -⟩
    exact h ⟨t, hended, hcode⟩

/-! ## The history -/

theorem restartReason_eq_some_iff {reason : String} :
    restartReason c = some reason ↔
      ∃ t, LastRunEnded c t ∧ t.exitCode ≠ 0 ∧ 3 < c.restartCount ∧
        "Container restarted " ++ toString c.restartCount ++ " times, last exit code: " ++
          toString t.exitCode = reason := by
  have hrule : ∀ t : TerminatedState,
      (restartThreshold < c.restartCount && t.exitCode ≠ 0) = true ↔
        t.exitCode ≠ 0 ∧ 3 < c.restartCount := fun t => by
    rw [Bool.and_eq_true, decide_eq_true_eq, decide_eq_true_eq]
    exact and_comm
  rw [restartReason, Option.map_eq_some_iff]
  refine exists_congr fun t => ?_
  rw [restartsTooOften, Option.filter_eq_some_iff, hrule, number_eq_toString, number_eq_toString,
    and_assoc, and_assoc]
  rfl

/-! ## The reason of a crash -/

theorem crashLoopReason_eq_some_iff {reason : String} :
    crashLoopReason c = some reason ↔ CrashesBecause c reason := by
  rw [crashLoopReason_eq, Option.or_eq_some_iff, currentCrashReason_of_iff,
    currentCrashReason_of_eq_none_iff, restartReason_eq_some_iff]
  constructor
  · rintro ((hmessage | ⟨t, hended, hcode, rfl⟩) | ⟨⟨hsilent, hended⟩, t, hlast, hcode, hoften, rfl⟩)
    · exact .message hmessage
    · refine .ended (fun message hmessage => ?_) hended hcode
      exact not_endedBadly_of_inCrashLoop hmessage.1 (endedBadly_iff.2 ⟨t, hended, hcode⟩)
    · exact .restarts hsilent hended hlast hcode hoften
  · intro h
    cases h with
    | message said => exact .inl (.inl said)
    | ended no_message has_ended failed => exact .inl (.inr ⟨_, has_ended, failed, rfl⟩)
    | restarts no_message not_ended last failed often =>
      exact .inr ⟨⟨no_message, not_ended⟩, _, last, failed, often, rfl⟩

/-- No reason is given where none of the three rules has one. -/
theorem crashLoopReason_eq_none_iff :
    crashLoopReason c = none ↔
      (∀ message, ¬ SaysOfCrash c message) ∧ ¬ EndedBadly c ∧ ¬ KeepsEndingBadly c := by
  rw [crashLoopReason_eq, Option.or_eq_none_iff, currentCrashReason_of_eq_none_iff, and_assoc,
    ← isSome_restartsTooOften_iff, ← isSome_restartReason, Bool.not_eq_true,
    Option.isSome_eq_false_iff, Option.isNone_iff_eq_none]

/-- A crash goes unexplained where the container waits without a word. -/
theorem unexplained_iff :
    isCrashing c = true ∧ crashLoopReason c = none ↔
      InCrashLoop c ∧ (∀ w message, c.waiting? = some w → w.message = some message → message = "") ∧
        ¬ KeepsEndingBadly c := by
  rw [isCrashing_iff, crashLoopReason_eq_none_iff]
  constructor
  · rintro ⟨hcrash, hsilent, hended, hkeeps⟩
    have hloop : InCrashLoop c := hcrash.resolve_right (not_or.2 ⟨hended, hkeeps⟩)
    refine ⟨hloop, fun w message hwaiting hmessage => ?_, hkeeps⟩
    by_contra hne
    exact hsilent message ⟨hloop, ⟨w, hwaiting, hmessage⟩, hne⟩
  · rintro ⟨hloop, hsilent, hkeeps⟩
    refine ⟨.inl hloop, ?_, not_endedBadly_of_inCrashLoop hloop, hkeeps⟩
    rintro message ⟨-, ⟨w, hwaiting, hmessage⟩, hne⟩
    exact hne (hsilent w message hwaiting hmessage)

/-! ## The exit code -/

theorem exitCode_of_eq_some_iff {n : Int} :
    (CurrentState.of c).exitCode = some n ↔ ∃ t, HasEnded c t ∧ t.exitCode = n := by
  constructor
  · intro h
    cases hcurrent : CurrentState.of c with
    | running | unreported | waiting =>
      rw [hcurrent] at h
      cases h
    | terminated t =>
      rw [hcurrent] at h
      exact ⟨t, of_eq_terminated_iff.1 hcurrent, Option.some.inj h⟩
  · rintro ⟨t, hended, rfl⟩
    rw [of_eq_terminated_iff.2 hended]
    rfl

theorem lastExitCode_instanceOf_eq_some_iff {n : Int} :
    (instanceOf c).lastExitCode = some n ↔
      (∃ t, HasEnded c t ∧ t.exitCode = n) ∨
      ((∀ t, ¬ HasEnded c t) ∧ ∃ t, LastRunEnded c t ∧ t.exitCode = n) := by
  show (CurrentState.of c).exitCode.or ((lastEnd? c).map (·.exitCode)) = some n ↔ _
  rw [Option.or_eq_some_iff, Option.map_eq_some_iff, exitCode_of_eq_some_iff,
    Option.eq_none_iff_forall_ne_some]
  refine or_congr_right (and_congr_left fun _ => ?_)
  simp only [ne_eq, exitCode_of_eq_some_iff, not_exists, not_and]
  exact ⟨fun h t hended => h _ t hended rfl, fun h n t hended _ => h t hended⟩

/-! ## The instance of a container -/

/-- An instance explains a container: each field comes from the first state that has something for it,
the current one before the last. -/
structure Explained (c : ContainerStatus) (i : Instance) : Prop where
  reason_iff : ∀ reason, i.crashLoopReason = some reason ↔ CrashesBecause c reason
  unexplained_iff : i.isCrashing = true ∧ i.crashLoopReason = none ↔
    InCrashLoop c ∧ (∀ w message, c.waiting? = some w → w.message = some message → message = "") ∧
      ¬ KeepsEndingBadly c
  exit_code_iff : ∀ n, i.lastExitCode = some n ↔
    (∃ t, HasEnded c t ∧ t.exitCode = n) ∨
    ((∀ t, ¬ HasEnded c t) ∧ ∃ t, LastRunEnded c t ∧ t.exitCode = n)
  termination_iff : i.lastTermination.isSome = true ↔ ∃ t, LastRunEnded c t

/-- **Every container is explained by its current state first, and then by its last run.** -/
theorem explained_instanceOf (c : ContainerStatus) : Explained c (instanceOf c) where
  reason_iff _ := crashLoopReason_eq_some_iff
  unexplained_iff := unexplained_iff
  exit_code_iff _ := lastExitCode_instanceOf_eq_some_iff
  termination_iff := by
    show ((lastEnd? c).map terminationSummary).isSome = true ↔ _
    rw [Option.isSome_map, Option.isSome_iff_exists]
    rfl

end BuildYard.Health
