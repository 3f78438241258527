import BuildYard.Proofs.Cluster.Listing
import BuildYard.Proofs.Health.Ownership
import BuildYard.Proofs.Health.PodViews
/-!
# The health of a workload in a store

A roll-up and a list of pods are two questions about one workload. Over a store they get one answer:
the roll-up is what the views of the pods come to, with the count that the owner of the first pod
wants (`simpleHealth_agrees`).

The count that is held against the wanted one is that of the regular containers, of all pods
together. So a healthy workload has as many containers as it should have pods, and none of them
crashes (`healthy_counts_containers`), but it need not have a single pod that is up
(`not_healthyMeansUp_stuckYard`).
-/

namespace BuildYard.Health

open Build (containersOf)

/-! ## What comes of a roll-up -/

theorem outcome_simpleHealth {σ : Type} [Cluster σ] (ns : String) (selector : Selector)
    (s : Session σ) :
    (simpleHealth ns selector).outcome s =
      match (podsOf ns selector).outcome s with
      | (.error e, s₁) => (.error e, s₁)
      | (.ok pods, s₁) =>
        match (summaryOf ns pods).outcome s₁ with
        | (.error e, s₂) => (.error e, s₂)
        | (.ok found, s₂) =>
          (.ok found, { s₂ with counters := s₂.counters.addRollup found.health }) := by
  rw [simpleHealth, Attempt.outcome_bind]
  rcases (podsOf ns selector).outcome s with ⟨e | pods, s₁⟩
  · rfl
  · show ((summaryOf ns pods >>= _).outcome s₁) = _
    rw [Attempt.outcome_bind]
    dsimp only
    rcases (summaryOf ns pods).outcome s₁ with ⟨e | found, s₂⟩ <;> rfl

/-- The pods of a workload in a store. -/
theorem outcome_podsOf_store (ns : String) (selector : Selector) (s : Session Store) :
    (podsOf ns selector).outcome s =
      (match s.cluster.faults .listPods with
        | some message => .error (Failure.during ("failed to list pods in namespace " ++ ns ++
            " with selector " ++ selector.text) ⟨.kubernetes, message⟩)
        | none => .ok (s.cluster.listPods ns selector), s) := by
  rw [podsOf, Attempt.outcome_within, Session.outcome_onCluster, Store.outcome_listPods]
  cases s.cluster.faults .listPods <;> rfl

/-- The views of the pods of a workload in a store. -/
theorem outcome_aggregate_store (ns : String) (selector : Selector) (s : Session Store) :
    (aggregate ns selector).outcome s =
      (((podsOf ns selector).outcome s).1.map fun pods => pods.map podView, s) := by
  rw [aggregate, Attempt.outcome_bind_pure, outcome_podsOf_store]

/-- The summary of the pods of a workload in a store. -/
theorem outcome_summaryOf_store (ns : String) (pods : List Pod) (s : Session Store) :
    (summaryOf ns pods).outcome s =
      (match pods.head? with
        | none => .ok noPods
        | some first =>
          ((expectedFor ns first).outcome s).1.map (summary (pods.map podView)), s) := by
  unfold summaryOf
  cases pods.head? with
  | none => rfl
  | some first =>
    dsimp only
    rw [Attempt.outcome_bind_pure, snd_outcome_expectedFor]

/-- A roll-up over a store fails without any effect, or is counted. -/
theorem outcome_simpleHealth_store (ns : String) (selector : Selector) (s : Session Store) :
    (simpleHealth ns selector).outcome s =
      match ((podsOf ns selector).outcome s).1 with
      | .error e => (.error e, s)
      | .ok pods =>
        match ((summaryOf ns pods).outcome s).1 with
        | .error e => (.error e, s)
        | .ok found => (.ok found, { s with counters := s.counters.addRollup found.health }) := by
  have hpods : (podsOf ns selector).outcome s = (((podsOf ns selector).outcome s).1, s) := by
    rw [outcome_podsOf_store]
  have hsummary : ∀ pods,
      (summaryOf ns pods).outcome s = (((summaryOf ns pods).outcome s).1, s) := by
    intro pods
    rw [outcome_summaryOf_store]
  rw [outcome_simpleHealth, hpods]
  dsimp only
  cases ((podsOf ns selector).outcome s).1 with
  | error e => rfl
  | ok pods =>
    dsimp only
    rw [hsummary pods]
    cases ((summaryOf ns pods).outcome s).1 <;> rfl

/-! ## The roll-up and the views -/

/-- The summary is what the views of some pods come to, for the count of instances that it names. -/
structure SumsUp (found : HealthSummary) (views : List PodView) : Prop where
  instances : found.instances = views.flatMap (·.instances)
  unhealthy_iff : found.health = .unhealthy ↔ ∃ view ∈ views, view.hasCrashingInstances
  degraded_iff : found.health = .degraded ↔
    (∀ view ∈ views, ¬ view.hasCrashingInstances) ∧
      (found.instances.length : Int) < found.expectedInstances
  healthy_iff : found.health = .healthy ↔
    (∀ view ∈ views, ¬ view.hasCrashingInstances) ∧
      found.expectedInstances ≤ found.instances.length

theorem sumsUp_summary (views : List PodView) (expected : Int) :
    SumsUp (summary views expected) views := by
  have hcalm : views.any (·.hasCrashingInstances) = false ↔
      ∀ view ∈ views, ¬ view.hasCrashingInstances := List.any_eq_false
  refine ⟨rfl, ?_, ?_, ?_⟩
  · exact rollup_eq_unhealthy_iff.trans List.any_eq_true
  · exact rollup_eq_degraded_iff.trans (and_congr_left' hcalm)
  · exact rollup_eq_healthy_iff.trans (and_congr_left' hcalm)

/-- What a roll-up over a store finds when it finds something. -/
theorem simpleHealth_eq_ok_iff {ns : String} {selector : Selector} {s : Session Store}
    {found : HealthSummary} :
    ((simpleHealth ns selector).outcome s).1 = .ok found ↔
      s.cluster.faults .listPods = none ∧
      ((s.cluster.listPods ns selector = [] ∧ found = noPods) ∨
        ∃ first expected,
          (s.cluster.listPods ns selector).head? = some first ∧
          ((expectedFor ns first).outcome s).1 = .ok expected ∧
          found = summary ((s.cluster.listPods ns selector).map podView) expected) := by
  rw [outcome_simpleHealth_store, outcome_podsOf_store]
  cases s.cluster.faults .listPods with
  | some message => simp
  | none =>
    dsimp only
    rw [outcome_summaryOf_store]
    cases hpods : s.cluster.listPods ns selector with
    | nil => simp [eq_comm]
    | cons first rest =>
      dsimp only [List.head?_cons]
      cases hexpected : ((expectedFor ns first).outcome s).1 with
      | error e => simp [Except.map, hexpected]
      | ok expected => simp [Except.map, hexpected, eq_comm]

/-- The ways in which a roll-up over a store fails. -/
theorem simpleHealth_fails_iff {ns : String} {selector : Selector} {s : Session Store} :
    (∃ e, ((simpleHealth ns selector).outcome s).1 = .error e) ↔
      s.cluster.faults .listPods ≠ none ∨
      ∃ first e, (s.cluster.listPods ns selector).head? = some first ∧
        ((expectedFor ns first).outcome s).1 = .error e := by
  rw [outcome_simpleHealth_store, outcome_podsOf_store]
  cases s.cluster.faults .listPods with
  | some message => simp
  | none =>
    dsimp only
    rw [outcome_summaryOf_store]
    cases hpods : s.cluster.listPods ns selector with
    | nil => simp
    | cons first rest =>
      dsimp only [List.head?_cons]
      cases hexpected : ((expectedFor ns first).outcome s).1 with
      | error e => simp [Except.map, hexpected]
      | ok expected => simp [Except.map, hexpected]

/-- **The roll-up agrees with the views of the pods and with the owner of the first one.** It fails
exactly when the pods cannot be listed, or there is a pod and the first one by name has an owner
that cannot be asked. Otherwise the views of the pods can be had, and a workload without views is
unhealthy, with no instances and none wanted. With views its instances are the regular containers of
the pods, in their order, the number wanted is what the owner of the first pod wants, and its health
is unhealthy if some view has a crash, of an init container too, else degraded if there are fewer
instances than wanted, else healthy. -/
theorem simpleHealth_agrees (ns : String) (selector : Selector) (s : Session Store) :
    let pods := s.cluster.listPods ns selector
    let IsFirst := Store.IsFirst s.cluster.pods ns fun pod => selector.selects pod.metadata.labels
    ((∃ e, ((simpleHealth ns selector).outcome s).1 = .error e) ↔
      (∃ e, ((Cluster.listPods ns selector : Attempt Store (List Pod)).outcome s.cluster).1 =
        .error e) ∨
      ∃ first e, IsFirst first ∧ ((expectedFor ns first).outcome s).1 = .error e) ∧
    ∀ found, ((simpleHealth ns selector).outcome s).1 = .ok found →
      ∃ views, ((aggregate ns selector).outcome s).1 = .ok views ∧
        (views = [] → found = ⟨.unhealthy, 0, []⟩) ∧
        (views ≠ [] → SumsUp found views ∧
          (∃ first, IsFirst first ∧
            ((expectedFor ns first).outcome s).1 = .ok found.expectedInstances) ∧
          found.instances =
            pods.flatMap (fun pod => (containersOf pod).map (podInstance (isDeleted pod))) ∧
          (found.health = .unhealthy ↔ ∃ pod ∈ pods, HasCrash pod)) := by
  intro pods IsFirst
  have hfirst : ∀ {first}, pods.head? = some first ↔ IsFirst first := Store.head?_within
  refine ⟨?_, fun found hfound => ?_⟩
  · have hlist : (∃ e, ((Cluster.listPods ns selector : Attempt Store (List Pod)).outcome
        s.cluster).1 = .error e) ↔ s.cluster.faults .listPods ≠ none := by
      rw [Store.outcome_listPods]
      cases s.cluster.faults .listPods <;> simp
    rw [simpleHealth_fails_iff, hlist]
    exact or_congr_right (exists_congr fun first => exists_congr fun e => and_congr_left' hfirst)
  · obtain ⟨hlist, hfound⟩ := simpleHealth_eq_ok_iff.1 hfound
    have hviews : ((aggregate ns selector).outcome s).1 = .ok (pods.map podView) := by
      rw [outcome_aggregate_store, outcome_podsOf_store, hlist]
      rfl
    refine ⟨pods.map podView, hviews, fun hnone => ?_, fun hsome => ?_⟩
    · rcases hfound with ⟨-, rfl⟩ | ⟨first, expected, hhead, -⟩
      · rfl
      · have hne : pods ≠ [] := List.ne_nil_of_mem (List.mem_of_head? hhead)
        exact absurd (List.map_eq_nil_iff.1 hnone) hne
    · rcases hfound with ⟨hnone, -⟩ | ⟨first, expected, hhead, hexpected, rfl⟩
      · exact absurd (List.map_eq_nil_iff.2 hnone) hsome
      · refine ⟨sumsUp_summary .., ⟨first, hfirst.1 hhead, hexpected⟩, ?_, ?_⟩
        · exact List.flatMap_map ..
        · exact rollup_eq_unhealthy_iff.trans (any_hasCrashingInstances_iff pods)

/-- The pods of a deployment, in one namespace. -/
def webSelector : Selector := Selector.all.withTerm "app" "web"

/-- A pod of the deployment. -/
def webPod (name : String) (containers initContainers : List ContainerStatus) : Pod where
  metadata := {
    name := some name
    namespace_ := some "apps"
    labels := some (SortedMap.ofList [("app", "web")])
    ownerReferences := some [{ kind := "Deployment", name := "web" }] }
  status := some {
    containerStatuses := some containers
    initContainerStatuses := some initContainers }

/-- The deployment with a number of replicas, and its pods. -/
def webYard (replicas : Int) (pods : List Pod) : Session Store where
  cluster := Store.insertScaledSet (pods.foldl Store.insertPod {}) .deployment {
    metadata := { name := some "web", namespace_ := some "apps" }
    spec := some { replicas := some replicas } }
  now := .epoch

/-- A container whose image cannot be had. -/
def stuckContainer : ContainerStatus where
  name := "app"
  state := some { waiting := some { reason := some "ImagePullBackOff" } }

/-- Two pods of three, one of which has an init container in a crash loop. -/
def migratingYard : Session Store :=
  webYard 3 [
    webPod "web-2" [runningContainer] [crashingContainer],
    webPod "web-1" [runningContainer] []]

/-- The crash of the init container counts and its instance does not. -/
theorem simpleHealth_agrees_migratingYard :
    ∃ found views,
      ((simpleHealth "apps" webSelector).outcome migratingYard).1 = .ok found ∧
      ((aggregate "apps" webSelector).outcome migratingYard).1 = .ok views ∧ views ≠ [] ∧
      SumsUp found views ∧ found.health = .unhealthy ∧ found.expectedInstances = 3 ∧
      found.instances.length = 2 := by
  obtain ⟨views, hviews, -, hsome⟩ :=
    (simpleHealth_agrees "apps" webSelector migratingYard).2 _ rfl
  obtain rfl := Except.ok.inj hviews
  have hne : (migratingYard.cluster.listPods "apps" webSelector).map podView ≠ [] := by
    decide +kernel
  exact ⟨_, _, rfl, rfl, hne, (hsome hne).1, rfl, rfl, rfl⟩

/-! ## What a healthy workload has -/

/-- Is the pod up: has it a regular container, and do all of these run without crashing? -/
def isUp (pod : Pod) : Bool :=
  !(containersOf pod).isEmpty &&
    (containersOf pod).all fun c => (instanceOf c).state = .running && !(instanceOf c).isCrashing

/-- Are as many pods up as are wanted, if the workload is said to be healthy? -/
def HealthyMeansUp (ns : String) (selector : Selector) (s : Session Store) : Prop :=
  ∀ found, ((simpleHealth ns selector).outcome s).1 = .ok found → found.health = .healthy →
    found.expectedInstances ≤ (s.cluster.listPods ns selector).countP isUp

/-- One pod of one, whose image cannot be had. -/
def stuckYard : Session Store := webYard 1 [webPod "web-1" [stuckContainer] []]

/-- A healthy workload may have no pod that is up: a container counts whether it runs or not. -/
theorem not_healthyMeansUp_stuckYard : ¬ HealthyMeansUp "apps" webSelector stuckYard := by
  intro h
  have hfound : ((simpleHealth "apps" webSelector).outcome stuckYard).1 =
      .ok ⟨.healthy, 1, [podInstance false stuckContainer]⟩ := rfl
  have hup : (stuckYard.cluster.listPods "apps" webSelector).countP isUp = 0 := rfl
  have hle := h _ hfound rfl
  rw [hup] at hle
  exact absurd hle (by decide)

/-- The regular containers of all pods are those of the views. -/
theorem length_instances_summary (pods : List Pod) (expected : Int) :
    (summary (pods.map podView) expected).instances.length =
      (pods.flatMap containersOf).length := by
  show ((pods.map podView).flatMap (·.instances)).length = _
  rw [List.flatMap_map, List.length_flatMap, List.length_flatMap]
  simp only [instances_podView, List.length_map]

/-- A pod with one container that runs is up, unless the container crashes. -/
theorem length_containersOf_eq {pod : Pod} (hcalm : ¬ HasCrash pod)
    (hone : (containersOf pod).length ≤ 1)
    (hrun : ∀ c ∈ containersOf pod, (instanceOf c).state = .running) :
    (containersOf pod).length = if isUp pod then 1 else 0 := by
  cases hcontainers : containersOf pod with
  | nil => simp [isUp, hcontainers]
  | cons c rest =>
    have hc : c ∈ containersOf pod := by simp [hcontainers]
    have hcrash : (instanceOf c).isCrashing = false := by
      have hnot : ¬ isCrashing c = true := fun h => hcalm ⟨c, List.mem_append_left _ hc, h⟩
      exact Bool.eq_false_iff.2 hnot
    obtain rfl : rest = [] := by simpa [hcontainers] using hone
    simp [isUp, hcontainers, hrun c hc, hcrash]

theorem length_flatMap_containersOf {pods : List Pod} (hcalm : ∀ pod ∈ pods, ¬ HasCrash pod)
    (hone : ∀ pod ∈ pods, (containersOf pod).length ≤ 1 ∧
      ∀ c ∈ containersOf pod, (instanceOf c).state = .running) :
    (pods.flatMap containersOf).length = pods.countP isUp := by
  induction pods with
  | nil => rfl
  | cons pod pods ih =>
    obtain ⟨hcalm₀, hcalm⟩ := List.forall_mem_cons.1 hcalm
    obtain ⟨hone₀, hone⟩ := List.forall_mem_cons.1 hone
    rw [List.flatMap_cons, List.length_append, List.countP_cons, ih hcalm hone,
      length_containersOf_eq hcalm₀ hone₀.1 hone₀.2, Nat.add_comm]

/-- **A healthy workload has as many regular containers as it should have instances, and none of its
containers crashes.** This is exactly what makes it healthy. Where no pod has more than one regular
container and all of these run, as many pods are up as are wanted. -/
theorem healthy_counts_containers {ns : String} {selector : Selector} {s : Session Store}
    {found : HealthSummary} (hfound : ((simpleHealth ns selector).outcome s).1 = .ok found) :
    let pods := s.cluster.listPods ns selector
    (found.health = .healthy ↔
      pods ≠ [] ∧ (∀ pod ∈ pods, ¬ HasCrash pod) ∧
        found.expectedInstances ≤ (pods.flatMap containersOf).length) ∧
    (found.health = .healthy →
      (∀ pod ∈ pods, (containersOf pod).length ≤ 1 ∧
        ∀ c ∈ containersOf pod, (instanceOf c).state = .running) →
      found.expectedInstances ≤ pods.countP isUp) := by
  intro pods
  have hiff : found.health = .healthy ↔
      pods ≠ [] ∧ (∀ pod ∈ pods, ¬ HasCrash pod) ∧
        found.expectedInstances ≤ (pods.flatMap containersOf).length := by
    obtain ⟨-, ⟨hnil, rfl⟩ | ⟨first, expected, hhead, -, rfl⟩⟩ := simpleHealth_eq_ok_iff.1 hfound
    · simp [pods, hnil, noPods]
    · have hne : pods ≠ [] := List.ne_nil_of_mem (List.mem_of_head? hhead)
      have hcalm : (pods.map podView).any (·.hasCrashingInstances) = false ↔
          ∀ pod ∈ pods, ¬ HasCrash pod := by
        rw [← Bool.not_eq_true, any_hasCrashingInstances_iff]
        simp only [not_exists, not_and]
      rw [← length_instances_summary pods expected]
      exact rollup_eq_healthy_iff.trans ((and_congr_left' hcalm).trans (and_iff_right hne).symm)
  refine ⟨hiff, fun hhealthy hone => ?_⟩
  obtain ⟨-, hcalm, hcount⟩ := hiff.1 hhealthy
  rwa [length_flatMap_containersOf hcalm hone] at hcount

/-- Two pods of two, which run. -/
def scaledYard : Session Store :=
  webYard 2 [webPod "web-1" [runningContainer] [], webPod "web-2" [runningContainer] []]

theorem healthy_counts_containers_scaledYard :
    ∃ found, ((simpleHealth "apps" webSelector).outcome scaledYard).1 = .ok found ∧
      found.health = .healthy ∧ found.expectedInstances = 2 ∧
      2 ≤ (scaledYard.cluster.listPods "apps" webSelector).countP isUp := by
  have hone : ∀ pod ∈ scaledYard.cluster.listPods "apps" webSelector,
      (containersOf pod).length ≤ 1 ∧
        ∀ c ∈ containersOf pod, (instanceOf c).state = .running := by
    show ∀ pod ∈ [webPod "web-1" [runningContainer] [], webPod "web-2" [runningContainer] []], _
    simp [webPod, containersOf, runningContainer, instanceOf, CurrentState.of, CurrentState.state]
  exact ⟨_, rfl, rfl, rfl, Int.ofNat_le.1 ((healthy_counts_containers rfl).2 rfl hone)⟩

end BuildYard.Health
