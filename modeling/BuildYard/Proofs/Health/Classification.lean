import BuildYard.Health.Container
import Mathlib.Data.List.Forall2
/-!
# When a container is crashing

A container crashes by what it does now (it waits for a restart after a crash, or it has ended with a
code other than zero), or by its history (it was restarted often, and its last run ended with such a
code). `classifies_instanceOf` says that the instance of a container goes by these three rules, and
that its other fields agree with them.

The rules are tried one after the other, the rule about restarts only where nothing is known yet about
why the container crashes; this comes to the same as trying all of them (`verdict_of`).
-/

namespace BuildYard

/-! ## The states that are reported -/

namespace ContainerStatus

/-- What is reported of a container that runs. -/
def running? (c : ContainerStatus) : Option RunningState := c.state.bind (·.running)

/-- What is reported of a container that waits. -/
def waiting? (c : ContainerStatus) : Option WaitingState := c.state.bind (·.waiting)

/-- What is reported of a container that has ended. -/
def terminated? (c : ContainerStatus) : Option TerminatedState := c.state.bind (·.terminated)

end ContainerStatus

namespace Health

variable {c : ContainerStatus}

theorem of_eq_waiting_iff {w : WaitingState} :
    CurrentState.of c = .waiting w ↔ c.running? = none ∧ c.waiting? = some w := by
  unfold CurrentState.of ContainerStatus.running? ContainerStatus.waiting?
  rcases c.state with _ | ⟨_ | running, _ | waiting, _ | terminated⟩ <;> simp

theorem of_eq_terminated_iff {t : TerminatedState} :
    CurrentState.of c = .terminated t ↔
      c.running? = none ∧ c.waiting? = none ∧ c.terminated? = some t := by
  unfold CurrentState.of ContainerStatus.running? ContainerStatus.waiting?
    ContainerStatus.terminated?
  rcases c.state with _ | ⟨_ | running, _ | waiting, _ | terminated⟩ <;> simp

/-! ## Texts that differ in case -/

/-- The same character, or the two forms of an ASCII letter. -/
def SameLetter (a b : Char) : Prop :=
  a = b ∨ (a.isUpper ∧ b.toNat = a.toNat + 32) ∨ (b.isUpper ∧ a.toNat = b.toNat + 32)

theorem isUpper_iff {a : Char} : a.isUpper = true ↔ 65 ≤ a.toNat ∧ a.toNat ≤ 90 := by
  show decide ('A'.val ≤ a.val ∧ a.val ≤ 'Z'.val) = true ↔ _
  rw [decide_eq_true_eq, UInt32.le_iff_toNat_le, UInt32.le_iff_toNat_le]
  exact Iff.rfl

theorem toNat_toLower (a : Char) :
    a.toLower.toNat = if a.isUpper then a.toNat + 32 else a.toNat := by
  unfold Char.toLower
  split
  · rename_i h
    have hupper : a.isUpper = true := decide_eq_true h
    obtain ⟨hlow, hhigh⟩ := isUpper_iff.1 hupper
    have hval : a.val.toNat = a.toNat := rfl
    have hshift : (32 : UInt32).toNat = 32 := rfl
    rw [if_pos hupper]
    show (a.val + 32).toNat = _
    rw [UInt32.toNat_add, hshift]
    omega
  · rename_i h
    have hupper : ¬ a.isUpper = true := fun hupper => h (of_decide_eq_true hupper)
    rw [if_neg hupper]

theorem toLower_eq_iff {a b : Char} : a.toLower = b.toLower ↔ SameLetter a b := by
  rw [← Char.toNat_inj, toNat_toLower, toNat_toLower, SameLetter, ← Char.toNat_inj]
  simp only [isUpper_iff]
  split <;> split <;> omega

theorem sameIgnoringCase_iff {a b : String} :
    sameIgnoringCase a b = true ↔ List.Forall₂ SameLetter a.toList b.toList := by
  have hsame : (fun x y : Char => x.toLower = y.toLower) = SameLetter := by
    funext x y
    exact propext toLower_eq_iff
  rw [sameIgnoringCase, decide_eq_true_eq, ← List.forall₂_eq_eq_eq, List.forall₂_map_left_iff,
    List.forall₂_map_right_iff, hsame]

theorem waitsToRestart_iff {w : WaitingState} :
    waitsToRestart w = true ↔
      ∃ reason, w.reason = some reason ∧
        List.Forall₂ SameLetter reason.toList "CrashLoopBackOff".toList := by
  rw [waitsToRestart, Option.any_eq_true]
  exact exists_congr fun reason => and_congr_right fun _ => sameIgnoringCase_iff

/-! ## The rules -/

/-- The container waits for a restart after a crash. -/
def InCrashLoop (c : ContainerStatus) : Prop :=
  c.running? = none ∧ ∃ w reason, c.waiting? = some w ∧ w.reason = some reason ∧
    List.Forall₂ SameLetter reason.toList "CrashLoopBackOff".toList

/-- The container has ended with a code other than zero. -/
def EndedBadly (c : ContainerStatus) : Prop :=
  c.running? = none ∧ c.waiting? = none ∧ ∃ t, c.terminated? = some t ∧ t.exitCode ≠ 0

/-- The container was restarted often, and its last run ended with a code other than zero. -/
def KeepsEndingBadly (c : ContainerStatus) : Prop :=
  ∃ t, c.lastState.bind (·.terminated) = some t ∧ t.exitCode ≠ 0 ∧ 3 < c.restartCount

theorem currentCrash_iff {s : CurrentState} :
    currentCrash s = true ↔
      (∃ w, s = .waiting w ∧ waitsToRestart w = true) ∨ ∃ t, s = .terminated t ∧ t.exitCode ≠ 0 := by
  cases s <;> simp [currentCrash]

theorem currentCrash_of_iff : currentCrash (.of c) = true ↔ InCrashLoop c ∨ EndedBadly c := by
  simp only [currentCrash_iff, of_eq_waiting_iff, of_eq_terminated_iff, waitsToRestart_iff]
  refine or_congr ⟨?_, ?_⟩ ⟨?_, ?_⟩
  · rintro ⟨w, ⟨hrunning, hwaiting⟩, reason, hreason⟩
    exact ⟨hrunning, w, reason, hwaiting, hreason⟩
  · rintro ⟨hrunning, w, reason, hwaiting, hreason⟩
    exact ⟨w, ⟨hrunning, hwaiting⟩, reason, hreason⟩
  · rintro ⟨t, ⟨hrunning, hwaiting, hended⟩, hcode⟩
    exact ⟨hrunning, hwaiting, t, hended, hcode⟩
  · rintro ⟨hrunning, hwaiting, t, hended, hcode⟩
    exact ⟨t, ⟨hrunning, hwaiting, hended⟩, hcode⟩

theorem isSome_restartsTooOften_iff : (restartsTooOften c).isSome = true ↔ KeepsEndingBadly c := by
  rw [restartsTooOften, Option.isSome_filter, Option.any_eq_true]
  refine exists_congr fun t => and_congr_right fun _ => ?_
  rw [Bool.and_eq_true, decide_eq_true_eq, decide_eq_true_eq]
  exact and_comm

/-! ## The rules one after the other -/

/-- A reason is given for crashes only. -/
theorem currentCrash_of_reason {s : CurrentState} (h : (currentCrashReason s).isSome = true) :
    currentCrash s = true := by
  cases s with
  | running | unreported => cases h
  | waiting w =>
    by_cases hrestart : waitsToRestart w = true
    · exact hrestart
    · simp [currentCrashReason, hrestart] at h
  | terminated t =>
    by_cases hcode : t.exitCode = 0
    · simp [currentCrashReason, hcode] at h
    · exact decide_eq_true hcode

theorem isSome_restartReason : (restartReason c).isSome = (restartsTooOften c).isSome :=
  Option.isSome_map

/-- **The rules one after the other.** The rule about restarts is left out where a reason is known, and
not where the container is known to crash; this makes no difference, because a reason is given for
crashes only. -/
theorem verdict_of :
    Verdict.of c = ⟨currentCrash (.of c) || (restartsTooOften c).isSome,
      (currentCrashReason (.of c)).or (restartReason c)⟩ := by
  unfold Verdict.of Verdict.byRestarts Verdict.byCurrent
  rw [← isSome_restartReason]
  cases hreason : currentCrashReason (.of c) with
  | some reason =>
    have hcrash := currentCrash_of_reason (s := .of c) (by rw [hreason]; rfl)
    simp [hcrash]
  | none => cases restartReason c <;> simp

theorem isCrashing_eq : isCrashing c = (currentCrash (.of c) || (restartsTooOften c).isSome) :=
  congrArg Verdict.crashing verdict_of

theorem crashLoopReason_eq :
    crashLoopReason c = (currentCrashReason (.of c)).or (restartReason c) :=
  congrArg Verdict.reason verdict_of

theorem isCrashing_iff :
    isCrashing c = true ↔ InCrashLoop c ∨ EndedBadly c ∨ KeepsEndingBadly c := by
  rw [isCrashing_eq, Bool.or_eq_true, currentCrash_of_iff, isSome_restartsTooOften_iff, or_assoc]

theorem isCrashing_of_reason (h : (crashLoopReason c).isSome = true) : isCrashing c = true := by
  rw [crashLoopReason_eq, Option.isSome_or, Bool.or_eq_true, isSome_restartReason] at h
  rw [isCrashing_eq, Bool.or_eq_true]
  exact h.imp_left currentCrash_of_reason

/-! ## The instance of a container -/

/-- What a container does shows neither that it keeps crashing nor that its pod is being deleted. -/
theorem calmState_ne (current : CurrentState) (started : Option Bool) (ready : Bool) :
    calmState current started ready ≠ .crashing ∧
      calmState current started ready ≠ .terminating := by
  unfold calmState
  cases current <;> dsimp only <;> repeat' split
  all_goals simp

theorem ready_instanceOf_iff :
    (instanceOf c).ready = true ↔ c.ready = true ∧ ¬ isCrashing c = true := by
  show (c.ready && !isCrashing c) = true ↔ _
  simp

theorem derivedState_instanceOf_of_crashing (h : isCrashing c = true) :
    (instanceOf c).derivedState = .crashing := if_pos h

theorem derivedState_instanceOf_of_calm (h : ¬ isCrashing c = true) :
    (instanceOf c).derivedState =
      calmState (.of c) c.started (instanceOf c).ready := if_neg h

theorem derivedState_instanceOf_eq_crashing_iff :
    (instanceOf c).derivedState = .crashing ↔ isCrashing c = true := by
  refine ⟨fun h => ?_, derivedState_instanceOf_of_crashing⟩
  by_contra hcalm
  rw [derivedState_instanceOf_of_calm hcalm] at h
  exact (calmState_ne ..).1 h

theorem derivedState_instanceOf_ne_terminating : (instanceOf c).derivedState ≠ .terminating := by
  by_cases hcrash : isCrashing c = true
  · simp [derivedState_instanceOf_of_crashing hcrash]
  · rw [derivedState_instanceOf_of_calm hcrash]
    exact (calmState_ne ..).2

/-- An instance goes by the three rules: it crashes where one of them applies, and its other fields
agree. -/
structure Classifies (c : ContainerStatus) (i : Instance) : Prop where
  crashing_iff : i.isCrashing = true ↔ InCrashLoop c ∨ EndedBadly c ∨ KeepsEndingBadly c
  ready_iff : i.ready = true ↔ c.ready = true ∧ ¬ i.isCrashing = true
  derived_iff : i.derivedState = .crashing ↔ i.isCrashing = true
  reported : i.state = .running ∨ i.state = .waiting ∨ i.state = .terminated
  explained : i.crashLoopReason.isSome = true → i.isCrashing = true

/-- **Every container is classified by the three rules.** -/
theorem classifies_instanceOf (c : ContainerStatus) : Classifies c (instanceOf c) where
  crashing_iff := isCrashing_iff
  ready_iff := ready_instanceOf_iff
  derived_iff := derivedState_instanceOf_eq_crashing_iff
  reported := by
    show (CurrentState.of c).state = .running ∨ (CurrentState.of c).state = .waiting ∨
      (CurrentState.of c).state = .terminated
    cases CurrentState.of c <;> simp [CurrentState.state]
  explained := isCrashing_of_reason

end Health

end BuildYard
