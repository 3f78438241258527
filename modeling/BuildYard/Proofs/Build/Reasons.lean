import BuildYard.Proofs.Build.Look
import BuildYard.Proofs.Lists.FirstAndLast
/-!
# Why a build failed

A condition of the job explains a failure before any pod does, and a container that ended badly before
a pod in phase `Failed`, wherever in the list of pods the two are. `Explains` says so in terms of the
first condition, container or pod that counts, and the reason of a build that failed is the one that
it names (`failureReason_eq_iff_explains`).

The pods are gone through once, and the reason of the first pod in phase `Failed` is kept until the end;
this comes to the same as going through them twice (`podsReason?_eq`).
-/

namespace BuildYard.Build

open Text (nonEmpty)

/-! ## What counts -/

/-- The condition says that the job failed. -/
def SaysFailed (c : JobCondition) : Prop := c.type_ = "Failed" ∧ c.status = "True"

/-- The container has ended with a code other than zero. -/
def EndedWith (c : ContainerStatus) (ended : TerminatedState) : Prop :=
  c.state.bind (·.terminated) = some ended ∧ ended.exitCode ≠ 0

/-- The pod is in phase `Failed`. -/
def InPhaseFailed (pod : Pod) : Prop := pod.status.bind (·.phase) = some "Failed"

/-- A text as it is written, or `blank` where it is absent or empty. -/
def writtenOr (blank : String) (write : String → String) (text : Option String) : String :=
  if text.getD "" = "" then blank else write (text.getD "")

/-- The reasons that a job and its pods give for a failure. -/
inductive Explains (job : Job) (pods : List Pod) : String → Prop
  | condition {c : JobCondition} (first : FirstWith SaysFailed (conditionsOf job) c) :
      Explains job pods (c.reason.getD "" ++ ": " ++ c.message.getD "")
  | container {c : ContainerStatus} {ended : TerminatedState}
      (no_condition : ∀ c ∈ conditionsOf job, ¬ SaysFailed c)
      (first : FirstWith (fun c => ∃ ended, EndedWith c ended) (pods.flatMap containersOf) c)
      (ended_with : EndedWith c ended) :
      Explains job pods
        (writtenOr "Error" id ended.reason ++ writtenOr "" (": " ++ ·) ended.message ++
          " (Container: " ++ c.name ++ ", Exit Code: " ++ toString ended.exitCode ++ ")")
  | pod {pod : Pod}
      (no_condition : ∀ c ∈ conditionsOf job, ¬ SaysFailed c)
      (no_container : ∀ c ∈ pods.flatMap containersOf, ∀ ended, ¬ EndedWith c ended)
      (first : FirstWith InPhaseFailed pods pod) :
      Explains job pods ("Pod failed: " ++ (pod.status.bind (·.reason)).getD "")
  | unknown
      (no_condition : ∀ c ∈ conditionsOf job, ¬ SaysFailed c)
      (no_container : ∀ c ∈ pods.flatMap containersOf, ∀ ended, ¬ EndedWith c ended)
      (no_pod : ∀ pod ∈ pods, ¬ InPhaseFailed pod) :
      Explains job pods "Unknown failure reason"

theorem Explains.ne_empty {job : Job} {pods : List Pod} {reason : String}
    (h : Explains job pods reason) : reason ≠ "" := by
  intro hempty
  have hchars := congrArg String.toList hempty
  cases h <;> simp at hchars

/-! ## The condition -/

theorem saysFailed_iff {c : JobCondition} : saysFailed c = true ↔ SaysFailed c := by
  simp only [saysFailed, SaysFailed, Bool.and_eq_true, beq_iff_eq]

theorem failedCondition?_eq_some_iff {job : Job} {c : JobCondition} :
    failedCondition? job = some c ↔ FirstWith SaysFailed (conditionsOf job) c := by
  simp only [failedCondition?_eq_find?, find?_eq_some_iff_firstWith, saysFailed_iff]

theorem failedCondition?_eq_none_iff {job : Job} :
    failedCondition? job = none ↔ ∀ c ∈ conditionsOf job, ¬ SaysFailed c := by
  simp only [failedCondition?_eq_find?, List.find?_eq_none, saysFailed_iff]

theorem failureReason_of_no_condition {job : Job} (h : failedCondition? job = none)
    (pods : List Pod) : failureReason job pods = (podsReason? pods).getD unknownFailure := by
  rw [failureReason, h]
  rfl

/-! ## The containers -/

theorem nonEmpty_elim (blank : String) (write : String → String) (text : Option String) :
    (nonEmpty text).elim blank write = writtenOr blank write text := by
  unfold nonEmpty writtenOr
  cases text with
  | none => rfl
  | some s => by_cases h : s = "" <;> simp [Option.filter, h]

theorem exitReason_eq (name : String) (ended : TerminatedState) :
    exitReason name ended =
      writtenOr "Error" id ended.reason ++ writtenOr "" (": " ++ ·) ended.message ++
        " (Container: " ++ name ++ ", Exit Code: " ++ toString ended.exitCode ++ ")" := by
  rw [← nonEmpty_elim, ← nonEmpty_elim, ← Text.signedDecimal_eq_toString, exitReason]
  have hword : (nonEmpty ended.reason).getD "Error" = (nonEmpty ended.reason).elim "Error" id := by
    cases nonEmpty ended.reason <;> rfl
  rw [hword]
  cases nonEmpty ended.message with
  | none => simp
  | some message => simp [String.append_assoc]

theorem failedExit?_eq_some_iff {c : ContainerStatus} {ended : TerminatedState} :
    failedExit? c = some ended ↔ EndedWith c ended := by
  unfold failedExit? EndedWith
  rcases c.state with _ | ⟨running, waiting, _ | t⟩
  · simp
  · simp
  · by_cases hcode : t.exitCode = 0
    · simp only [Option.bind_eq_bind, Option.bind_some, hcode, ne_eq, not_true_eq_false, if_false,
        reduceCtorEq, Option.some.injEq, false_iff]
      rintro ⟨rfl, hne⟩
      exact hne hcode
    · simp only [Option.bind_eq_bind, Option.bind_some, hcode, ne_eq, not_false_eq_true, if_true,
        Option.some.injEq]
      constructor
      · rintro rfl
        exact ⟨rfl, hcode⟩
      · exact And.left

/-- The reason from a container that ended with a code other than zero. -/
def containerReason? (c : ContainerStatus) : Option String :=
  (failedExit? c).map (exitReason c.name)

theorem containerReason?_eq_some_iff {c : ContainerStatus} {reason : String} :
    containerReason? c = some reason ↔
      ∃ ended, EndedWith c ended ∧ exitReason c.name ended = reason := by
  simp only [containerReason?, Option.map_eq_some_iff, failedExit?_eq_some_iff]

/-- Pod by pod or all in one list, the containers come in the same order. -/
theorem findSome?_podExitReason? (pods : List Pod) :
    pods.findSome? podExitReason? = (pods.flatMap containersOf).findSome? containerReason? := by
  induction pods with
  | nil => rfl
  | cons pod pods ih =>
    have hpod : podExitReason? pod = (containersOf pod).findSome? containerReason? := rfl
    rw [List.flatMap_cons, List.findSome?_append, List.findSome?_cons, ih, hpod]
    cases (containersOf pod).findSome? containerReason? <;> rfl

theorem findSome?_podExitReason?_eq_some_iff {pods : List Pod} {reason : String} :
    pods.findSome? podExitReason? = some reason ↔
      ∃ c ended, FirstWith (fun c => ∃ ended, EndedWith c ended) (pods.flatMap containersOf) c ∧
        EndedWith c ended ∧ exitReason c.name ended = reason := by
  have hgives : (fun c : ContainerStatus => ∃ reason, containerReason? c = some reason) =
      fun c => ∃ ended, EndedWith c ended := by
    funext c
    simp only [containerReason?_eq_some_iff]
    rw [exists_comm]
    simp
  rw [findSome?_podExitReason?, findSome?_eq_some_iff_firstWith, hgives]
  simp only [containerReason?_eq_some_iff, exists_and_left]

theorem findSome?_podExitReason?_eq_none_iff {pods : List Pod} :
    pods.findSome? podExitReason? = none ↔
      ∀ c ∈ pods.flatMap containersOf, ∀ ended, ¬ EndedWith c ended := by
  rw [findSome?_podExitReason?, List.findSome?_eq_none_iff]
  refine forall₂_congr fun c _ => ?_
  simp [Option.eq_none_iff_forall_ne_some, containerReason?_eq_some_iff]

/-! ## The pods -/

theorem podPhaseReason?_eq_some_iff {pod : Pod} {reason : String} :
    podPhaseReason? pod = some reason ↔
      InPhaseFailed pod ∧ "Pod failed: " ++ (pod.status.bind (·.reason)).getD "" = reason := by
  unfold podPhaseReason? InPhaseFailed
  rcases pod.status with _ | status
  · simp
  · by_cases hphase : status.phase = some "Failed" <;> simp [hphase]

theorem findSome?_podPhaseReason?_eq_some_iff {pods : List Pod} {reason : String} :
    pods.findSome? podPhaseReason? = some reason ↔
      ∃ pod, FirstWith InPhaseFailed pods pod ∧
        "Pod failed: " ++ (pod.status.bind (·.reason)).getD "" = reason := by
  have hgives : (fun pod : Pod => ∃ reason, podPhaseReason? pod = some reason) = InPhaseFailed := by
    funext pod
    simp [podPhaseReason?_eq_some_iff]
  rw [findSome?_eq_some_iff_firstWith, hgives]
  refine exists_congr fun pod => and_congr_right fun hfirst => ?_
  obtain ⟨-, -, -, hphase, -⟩ := hfirst
  simp [podPhaseReason?_eq_some_iff, hphase]

theorem findSome?_podPhaseReason?_eq_none_iff {pods : List Pod} :
    pods.findSome? podPhaseReason? = none ↔ ∀ pod ∈ pods, ¬ InPhaseFailed pod := by
  rw [List.findSome?_eq_none_iff]
  refine forall₂_congr fun pod _ => ?_
  simp [Option.eq_none_iff_forall_ne_some, podPhaseReason?_eq_some_iff]

/-! ## One pass over the pods -/

/-- The invariant of the pass: the fallback gives way to every container that is still to come, and to
no other pod. -/
theorem podsReasonFrom?_eq (fallback : Option String) (pods : List Pod) :
    podsReasonFrom? fallback pods =
      (pods.findSome? podExitReason?).or (fallback.or (pods.findSome? podPhaseReason?)) := by
  induction pods generalizing fallback with
  | nil => simp [podsReasonFrom?]
  | cons pod pods ih =>
    rw [podsReasonFrom?, List.findSome?_cons, List.findSome?_cons]
    cases podExitReason? pod with
    | some reason => rfl
    | none =>
      dsimp only
      rw [ih, Option.or_assoc]
      cases podPhaseReason? pod <;> rfl

/-- **The reason that the pods give** is the first container that failed, whatever the phases of the pods
before it are, or else the first pod in phase `Failed`. -/
theorem podsReason?_eq (pods : List Pod) :
    podsReason? pods = (pods.findSome? podExitReason?).or (pods.findSome? podPhaseReason?) := by
  rw [podsReason?, podsReasonFrom?_eq, Option.none_or]

/-! ## The reason of a failure -/

theorem explains_failureReason (job : Job) (pods : List Pod) :
    Explains job pods (failureReason job pods) := by
  cases hcondition : failedCondition? job with
  | some c =>
    rw [failureReason_of_condition hcondition]
    exact .condition (failedCondition?_eq_some_iff.1 hcondition)
  | none =>
    have hno := failedCondition?_eq_none_iff.1 hcondition
    rw [failureReason_of_no_condition hcondition, podsReason?_eq]
    cases hexit : pods.findSome? podExitReason? with
    | some reason =>
      obtain ⟨c, ended, hfirst, hended, rfl⟩ := findSome?_podExitReason?_eq_some_iff.1 hexit
      rw [exitReason_eq]
      exact .container hno hfirst hended
    | none =>
      have hnone := findSome?_podExitReason?_eq_none_iff.1 hexit
      cases hphase : pods.findSome? podPhaseReason? with
      | some reason =>
        obtain ⟨pod, hfirst, rfl⟩ := findSome?_podPhaseReason?_eq_some_iff.1 hphase
        exact .pod hno hnone hfirst
      | none => exact .unknown hno hnone (findSome?_podPhaseReason?_eq_none_iff.1 hphase)

theorem failureReason_of_explains {job : Job} {pods : List Pod} {reason : String}
    (h : Explains job pods reason) : failureReason job pods = reason := by
  cases h with
  | condition first =>
    exact failureReason_of_condition (failedCondition?_eq_some_iff.2 first) pods
  | container no_condition first ended_with =>
    rw [failureReason_of_no_condition (failedCondition?_eq_none_iff.2 no_condition), podsReason?_eq,
      findSome?_podExitReason?_eq_some_iff.2 ⟨_, _, first, ended_with, exitReason_eq _ _⟩]
    rfl
  | pod no_condition no_container first =>
    rw [failureReason_of_no_condition (failedCondition?_eq_none_iff.2 no_condition), podsReason?_eq,
      findSome?_podExitReason?_eq_none_iff.2 no_container,
      findSome?_podPhaseReason?_eq_some_iff.2 ⟨_, first, rfl⟩]
    rfl
  | unknown no_condition no_container no_pod =>
    rw [failureReason_of_no_condition (failedCondition?_eq_none_iff.2 no_condition), podsReason?_eq,
      findSome?_podExitReason?_eq_none_iff.2 no_container,
      findSome?_podPhaseReason?_eq_none_iff.2 no_pod]
    rfl

/-- The reason of a status comes from the job and its pods where the build failed. -/
theorem failureReason_statusOf {job : Job} {pods : List Pod} {now : Instant}
    (h : (statusOf job pods now).phase = .failed) :
    (statusOf job pods now).failureReason = failureReason job pods := by
  unfold statusOf at h ⊢
  dsimp only at h ⊢
  split at h
  · cases h
  · split at h
    · simp only [*, if_true, if_false]
    · split at h <;> cases h

/-- **The reason of a failure is the one that the tiers name**: the first condition that says that the
job failed, or else the first container that ended with a code other than zero, or else the first pod
in phase `Failed`, or else nothing that is known. -/
theorem failureReason_eq_iff_explains {job : Job} {pods : List Pod} (now : Instant) {reason : String}
    (h : (statusOf job pods now).phase = .failed) :
    (statusOf job pods now).failureReason = reason ↔ Explains job pods reason := by
  rw [failureReason_statusOf h]
  constructor
  · rintro rfl
    exact explains_failureReason job pods
  · exact failureReason_of_explains

/-- A pod that was put off its node. -/
def evictedPod : Pod where
  status := some { phase := some "Failed", reason := some "Evicted" }

/-- A container that ended badly explains the failure, though an earlier pod is in phase `Failed`. -/
theorem failureReason_eq_iff_explains_evictedPod :
    (statusOf (failedJob []) [evictedPod, killedPod] .epoch).phase = .failed ∧
    Explains (failedJob []) [evictedPod, killedPod] "OOMKilled (Container: app, Exit Code: 137)" :=
  ⟨by decide, (failureReason_eq_iff_explains .epoch (by decide)).1 (by decide +kernel)⟩

end BuildYard.Build
