import BuildYard.Build.Status
import BuildYard.Health.PodView
import BuildYard.Proofs.Health.Classification
/-!
# What a pod shows

The view of a pod has an instance for every container. While the pod is being deleted its containers
are said to be terminating, apart from those that crash: a deletion hides no crash. So the flag of a
crash, readiness and the derived state of an instance agree in a view as they do for the container by
itself, and the flag of the whole pod agrees with them (`shows_podView`).
-/

namespace BuildYard.Health

open Build (containersOf)

/-! ## The containers of a pod -/

/-- The init containers of a pod. -/
def initContainersOf (pod : Pod) : List ContainerStatus :=
  (pod.status.bind (·.initContainerStatuses)).getD []

/-- Does a container of the pod crash, regular or init? -/
def HasCrash (pod : Pod) : Prop :=
  ∃ c ∈ containersOf pod ++ initContainersOf pod, isCrashing c = true

/-- Is the pod being deleted? -/
def isDeleted (pod : Pod) : Bool := pod.metadata.deletionTimestamp.isSome

@[simp] theorem isCrashing_podInstance (terminating : Bool) (c : ContainerStatus) :
    (podInstance terminating c).isCrashing = isCrashing c := by
  simp only [podInstance]
  split <;> rfl

/-- The instances of a pod are its regular containers. -/
theorem instances_podView (pod : Pod) :
    (podView pod).instances = (containersOf pod).map (podInstance (isDeleted pod)) := rfl

/-- The instances that a pod depends on are its init containers. -/
theorem instanceDependencies_podView (pod : Pod) :
    (podView pod).instanceDependencies =
      (initContainersOf pod).map (podInstance (isDeleted pod)) := rfl

/-- All that a view shows, the regular containers first. -/
def allInstances (view : PodView) : List Instance := view.instances ++ view.instanceDependencies

theorem allInstances_podView (pod : Pod) :
    allInstances (podView pod) =
      (containersOf pod ++ initContainersOf pod).map (podInstance (isDeleted pod)) := by
  rw [allInstances, instances_podView, instanceDependencies_podView, List.map_append]

theorem hasCrashingInstances_podView (pod : Pod) :
    (podView pod).hasCrashingInstances = (allInstances (podView pod)).any (·.isCrashing) := rfl

theorem hasCrashingInstances_podView_iff (pod : Pod) :
    (podView pod).hasCrashingInstances = true ↔ HasCrash pod := by
  rw [hasCrashingInstances_podView, allInstances_podView, List.any_map, List.any_eq_true]
  simp only [Function.comp_apply, isCrashing_podInstance, HasCrash]

/-- Some view of a list of pods has a crash when some pod does. -/
theorem any_hasCrashingInstances_iff (pods : List Pod) :
    (pods.map podView).any (·.hasCrashingInstances) = true ↔ ∃ pod ∈ pods, HasCrash pod := by
  simp only [List.any_map, List.any_eq_true, Function.comp_apply, hasCrashingInstances_podView_iff]

/-! ## A container in the view of its pod -/

/-- What the view of a pod shows of one of its containers. -/
structure Shows (pod : Pod) (c : ContainerStatus) (i : Instance) : Prop where
  /-- Up to the derived state it is the container by itself. -/
  classified : { i with derivedState := (instanceOf c).derivedState } = instanceOf c
  crashing_iff : i.derivedState = .crashing ↔ i.isCrashing = true
  terminating_iff : i.derivedState = .terminating ↔
    pod.metadata.deletionTimestamp ≠ none ∧ ¬ i.isCrashing = true
  kept : i.derivedState ≠ .terminating → i.derivedState = (instanceOf c).derivedState
  ready_iff : i.ready = true ↔ c.ready = true ∧ ¬ i.isCrashing = true
  crashes_iff : i.isCrashing = true ↔ InCrashLoop c ∨ EndedBadly c ∨ KeepsEndingBadly c

theorem isDeleted_iff {pod : Pod} : isDeleted pod = true ↔ pod.metadata.deletionTimestamp ≠ none :=
  Option.isSome_iff_ne_none

/-- A deletion shows where nothing crashes. -/
theorem podInstance_eq_terminating {deleted : Bool} {c : ContainerStatus}
    (h : deleted = true ∧ ¬ isCrashing c = true) :
    podInstance deleted c = { instanceOf c with derivedState := .terminating } := by
  obtain ⟨rfl, hcalm⟩ := h
  have hflag : (true && !(instanceOf c).isCrashing) = true := by
    show (true && !isCrashing c) = true
    simp [hcalm]
  exact if_pos hflag

theorem podInstance_eq_instanceOf {deleted : Bool} {c : ContainerStatus}
    (h : ¬ (deleted = true ∧ ¬ isCrashing c = true)) : podInstance deleted c = instanceOf c := by
  have hflag : ¬ (deleted && !(instanceOf c).isCrashing) = true := by
    show ¬ (deleted && !isCrashing c) = true
    simpa using h
  exact if_neg hflag

theorem shows_podInstance (pod : Pod) (c : ContainerStatus) :
    Shows pod c (podInstance (isDeleted pod) c) := by
  -- Only in the first case does the view differ from the container by itself.
  by_cases h : isDeleted pod = true ∧ ¬ isCrashing c = true
  · obtain ⟨hdeleted, hcalm⟩ := h
    rw [podInstance_eq_terminating ⟨hdeleted, hcalm⟩]
    exact {
      classified := rfl
      crashing_iff := iff_of_false nofun hcalm
      terminating_iff := iff_of_true rfl ⟨isDeleted_iff.1 hdeleted, hcalm⟩
      kept := fun hne => absurd rfl hne
      ready_iff := ready_instanceOf_iff
      crashes_iff := isCrashing_iff }
  · rw [podInstance_eq_instanceOf h]
    exact {
      classified := rfl
      crashing_iff := derivedState_instanceOf_eq_crashing_iff
      terminating_iff := by
        refine iff_of_false derivedState_instanceOf_ne_terminating fun hterminating => h ?_
        exact hterminating.imp_left isDeleted_iff.2
      kept := fun _ => rfl
      ready_iff := ready_instanceOf_iff
      crashes_iff := isCrashing_iff }

theorem exists_shows_of_mem {pod : Pod} {i : Instance} (h : i ∈ allInstances (podView pod)) :
    ∃ c, Shows pod c i := by
  rw [allInstances_podView] at h
  obtain ⟨c, -, rfl⟩ := List.mem_map.1 h
  exact ⟨c, shows_podInstance pod c⟩

/-! ## The whole view -/

/-- **The view of a pod shows its containers, and what it says of them agrees.** It has one instance
for each regular container and one for each init container, in their order. The pod is said to have a
crash when one of them is in the state of a crash, and what crashes is not ready. -/
theorem shows_podView (pod : Pod) :
    List.Forall₂ (Shows pod) (containersOf pod) (podView pod).instances ∧
    List.Forall₂ (Shows pod) (initContainersOf pod) (podView pod).instanceDependencies ∧
    ((podView pod).hasCrashingInstances = true ↔
      ∃ i ∈ (podView pod).instances ++ (podView pod).instanceDependencies,
        i.derivedState = .crashing) ∧
    ∀ i ∈ (podView pod).instances ++ (podView pod).instanceDependencies,
      i.isCrashing = true → i.ready = false := by
  have hshows : ∀ containers : List ContainerStatus,
      List.Forall₂ (Shows pod) containers (containers.map (podInstance (isDeleted pod))) := by
    intro containers
    rw [List.forall₂_map_right_iff, List.forall₂_same]
    exact fun c _ => shows_podInstance pod c
  refine ⟨hshows (containersOf pod), hshows (initContainersOf pod), ?_, fun i hi hcrash => ?_⟩
  · rw [hasCrashingInstances_podView, List.any_eq_true]
    refine exists_congr fun i => and_congr_right fun hi => ?_
    obtain ⟨c, hc⟩ := exists_shows_of_mem hi
    exact hc.crashing_iff.symm
  · obtain ⟨c, hc⟩ := exists_shows_of_mem hi
    rw [← Bool.not_eq_true, hc.ready_iff]
    exact fun hready => hready.2 hcrash

/-- A container that runs. -/
def runningContainer : ContainerStatus where
  name := "app"
  ready := true
  state := some { running := some {} }

/-- A container in a crash loop. -/
def crashingContainer : ContainerStatus where
  name := "migrate"
  state := some { waiting := some { reason := some "CrashLoopBackOff" } }

/-- A pod that is being deleted while one of its init containers crashes. -/
def leavingPod : Pod where
  metadata := { name := some "web-1", deletionTimestamp := some .epoch }
  status := some {
    containerStatuses := some [runningContainer]
    initContainerStatuses := some [crashingContainer] }

/-- The deletion hides that the one container runs, and not that the other one crashes. -/
theorem shows_podView_leavingPod :
    (podView leavingPod).instances.map (·.derivedState) = [.terminating] ∧
      (podView leavingPod).hasCrashingInstances = true ∧
      ∀ i ∈ (podView leavingPod).instanceDependencies,
        i.derivedState = .crashing ∧ i.ready = false := by
  obtain ⟨-, hinit, hflag, hready⟩ := shows_podView leavingPod
  have hcrash : (podInstance true crashingContainer).derivedState = .crashing := by decide +kernel
  have hmem : podInstance true crashingContainer ∈
      (podView leavingPod).instances ++ (podView leavingPod).instanceDependencies :=
    List.mem_append_right _ List.mem_cons_self
  refine ⟨by decide +kernel, hflag.2 ⟨_, hmem, hcrash⟩, ?_⟩
  intro i hi
  obtain rfl := List.mem_singleton.1 hi
  cases hinit with
  | cons hshows _ => exact ⟨hcrash, hready _ hmem (hshows.crashing_iff.1 hcrash)⟩

end BuildYard.Health
