import BuildYard.Proofs.Build.Replacement
/-!
# Cancellations one after the other

A cancellation over a store fails without any effect or clears the store of the running jobs of its
service. A store that is cleared has no such job left, and no job runs for two services; so a second
cancellation of a service does nothing, and cancellations of two services may change places.

* `Store.cleared_self`: a store is cleared once.
* `Store.runningNames_cleared_of_ne`: what runs for another service still runs.
* `cancel_again`: a second cancellation of the service.
* `cancellations_settle`: both laws, over every store that can come about.
-/

namespace BuildYard

/-! ## Jobs of different services -/

/-- No job runs for two services. -/
theorem isRunningBuild_of_ne {ns serviceId serviceId' : String} (hne : serviceId ≠ serviceId')
    {key : ObjectKey} {job : Job} (h : isRunningBuild ns serviceId key job = true) :
    isRunningBuild ns serviceId' key job = false := by
  simp only [isRunningBuild, Bool.and_eq_true] at h
  obtain ⟨⟨-, hservice⟩, -⟩ := h
  have hother : job.isOf serviceId' = false := by
    rw [Job.isOf, beq_iff_eq] at hservice
    rw [Job.isOf, hservice]
    simp [hne]
  simp [isRunningBuild, hother]

namespace Store

/-! ## Clearing a store twice -/

variable (s : Store) (ns : String)

/-- What is left of the running jobs of one service when the store is cleared of another. -/
theorem runningBuilds_cleared (serviceId serviceId' : String) :
    (s.cleared ns serviceId).runningBuilds ns serviceId' =
      s.jobs.filter fun key job =>
        !isRunningBuild ns serviceId key job && isRunningBuild ns serviceId' key job :=
  SortedMap.filter_filter ..

/-- Clearing leaves no running job of the service. -/
theorem runningNames_cleared_self (serviceId : String) :
    (s.cleared ns serviceId).runningNames ns serviceId = [] := by
  have hnone : (s.cleared ns serviceId).runningBuilds ns serviceId = .empty := by
    refine SortedMap.ext_find? fun key => ?_
    rw [runningBuilds_cleared, SortedMap.find?_filter, SortedMap.find?_empty]
    cases s.jobs.find? key with
    | none => rfl
    | some job => simp [Option.filter]
  rw [runningNames, hnone]
  rfl

/-- What runs for one service still runs when the store is cleared of another. -/
theorem runningNames_cleared_of_ne {serviceId serviceId' : String} (hne : serviceId ≠ serviceId') :
    (s.cleared ns serviceId).runningNames ns serviceId' = s.runningNames ns serviceId' := by
  have hsame : (s.cleared ns serviceId).runningBuilds ns serviceId' =
      s.runningBuilds ns serviceId' := by
    rw [runningBuilds_cleared, runningBuilds]
    refine SortedMap.filter_congr fun key job _ => ?_
    cases hrun : isRunningBuild ns serviceId' key job with
    | false => exact Bool.and_false _
    | true => simp [isRunningBuild_of_ne hne.symm hrun]
  rw [runningNames, hsame, ← runningNames]

/-- A store that is cleared is cleared. -/
theorem cleared_self (serviceId : String) :
    (s.cleared ns serviceId).cleared ns serviceId = s.cleared ns serviceId := by
  have hjobs : (s.cleared ns serviceId).jobs.filter
        (fun key job => !isRunningBuild ns serviceId key job) = (s.cleared ns serviceId).jobs :=
    SortedMap.filter_eq_self fun key job hjob => by simp [(find?_jobs_cleared.1 hjob).2]
  have hpods : (s.cleared ns serviceId).pods.filter
        (fun key pod => !isPodOfAny ns [] key pod) = (s.cleared ns serviceId).pods :=
    SortedMap.filter_eq_self fun key pod _ => by simp [isPodOfAny]
  rw [cleared, runningNames_cleared_self, hjobs, hpods]
  simp

end Store

/-- Two stores are the same but for the order of their deletions. -/
structure Store.SameButOrder (s s' : Store) : Prop where
  jobs : s.jobs = s'.jobs
  pods : s.pods = s'.pods
  scaledSets : s.scaledSets = s'.scaledSets
  daemonSets : s.daemonSets = s'.daemonSets
  faults : s.faults = s'.faults
  deletions : s.deletions.Perm s'.deletions

namespace Store

/-- Clearing a store of two services, in the one order and in the other. -/
theorem sameButOrder_cleared (s : Store) (ns : String) {serviceId serviceId' : String}
    (hne : serviceId ≠ serviceId') :
    SameButOrder ((s.cleared ns serviceId).cleared ns serviceId')
      ((s.cleared ns serviceId').cleared ns serviceId) where
  jobs := by
    simp only [jobs_cleared, SortedMap.filter_filter, Bool.and_comm]
  pods := by
    simp only [pods_cleared, s.runningNames_cleared_of_ne ns hne,
      s.runningNames_cleared_of_ne ns hne.symm, SortedMap.filter_filter, Bool.and_comm]
  scaledSets := rfl
  daemonSets := rfl
  faults := rfl
  deletions := by
    simp only [deletions_cleared, s.runningNames_cleared_of_ne ns hne,
      s.runningNames_cleared_of_ne ns hne.symm, List.append_assoc]
    exact List.perm_append_comm.append_left s.deletions

end Store

namespace Build

/-! ## What a cancellation answers -/

/-- Why a cancellation over a store fails, if it does. -/
def refusal? (s : Store) (ns serviceId : String) : Option Failure :=
  match s.faults .listJobs, s.faults .deleteJob, s.runningNames ns serviceId with
  | some message, _, _ =>
    some (Failure.during ("failed to list jobs for service ID " ++ serviceId) ⟨.kubernetes, message⟩)
  | none, some message, name :: _ =>
    some (Failure.during ("failed to delete job " ++ name) ⟨.kubernetes, message⟩)
  | none, _, _ => none

/-- A cancellation is refused, or clears the store. -/
theorem outcome_cancel_eq {s : Session Store} (h : Keyed Job.metadata s.cluster.jobs)
    (settings : Settings) (serviceId : String) :
    (cancel settings serviceId).outcome s =
      match refusal? s.cluster settings.namespace_ serviceId with
      | some e => (.error e, s)
      | none =>
        (.ok (s.cluster.runningNames settings.namespace_ serviceId),
          { s with
            cluster := s.cluster.cleared settings.namespace_ serviceId
            counters := s.counters.addCanceled
              (s.cluster.runningNames settings.namespace_ serviceId).length }) := by
  rw [outcome_cancel_store h, refusal?]
  cases s.cluster.faults .listJobs with
  | some message => rfl
  | none =>
    cases s.cluster.faults .deleteJob <;>
      cases s.cluster.runningNames settings.namespace_ serviceId <;> rfl

/-- A cancellation is not refused when listings work and deletions work or are not needed. -/
theorem refusal?_eq_none_iff {s : Store} {ns serviceId : String} :
    refusal? s ns serviceId = none ↔
      s.faults .listJobs = none ∧
        (s.faults .deleteJob = none ∨ s.runningNames ns serviceId = []) := by
  unfold refusal?
  cases s.faults .listJobs <;> cases s.faults .deleteJob <;>
    cases s.runningNames ns serviceId <;> simp

/-- A store that was cleared of a service is not refused to be cleared of it. -/
theorem refusal?_cleared_self {s : Store} {ns serviceId : String}
    (h : refusal? s ns serviceId = none) : refusal? (s.cleared ns serviceId) ns serviceId = none :=
  refusal?_eq_none_iff.2
    ⟨(refusal?_eq_none_iff.1 h).1, .inr (s.runningNames_cleared_self ns serviceId)⟩

/-- Whether a cancellation is refused does not depend on a clearance of another service. -/
theorem refusal?_cleared_of_ne (s : Store) (ns : String) {serviceId serviceId' : String}
    (hne : serviceId ≠ serviceId') :
    refusal? (s.cleared ns serviceId) ns serviceId' = refusal? s ns serviceId' := by
  have hfaults : (s.cleared ns serviceId).faults = s.faults := rfl
  rw [refusal?, refusal?, hfaults, s.runningNames_cleared_of_ne ns hne]

/-! ## Two cancellations -/

variable (settings : Settings) {s : Session Store}

/-- A second cancellation of a service is refused like the first, or finds nothing to do. -/
theorem cancel_again (h : Keyed Job.metadata s.cluster.jobs) (serviceId : String) :
    (cancel settings serviceId).outcome ((cancel settings serviceId).outcome s).2 =
      (((cancel settings serviceId).outcome s).1.map fun _ => [],
        ((cancel settings serviceId).outcome s).2) := by
  rw [outcome_cancel_eq h]
  cases hrefused : refusal? s.cluster settings.namespace_ serviceId with
  | some e =>
    dsimp only
    rw [outcome_cancel_eq h, hrefused]
    rfl
  | none =>
    dsimp only
    rw [outcome_cancel_eq (h.filter _)]
    dsimp only
    rw [refusal?_cleared_self hrefused, Store.runningNames_cleared_self, Store.cleared_self]
    rfl

/-- Two sessions are the same but for the order of the deletions. -/
structure SameButOrder (s s' : Session Store) : Prop where
  cluster : s.cluster.SameButOrder s'.cluster
  counters : s.counters = s'.counters
  now : s.now = s'.now

theorem addCanceled_addCanceled (m n : Nat) (c : Counters) :
    (c.addCanceled m).addCanceled n = (c.addCanceled n).addCanceled m := by
  simp only [Counters.addCanceled, Nat.add_right_comm]

/-- A cancellation answers the same after that of another service. -/
theorem cancel_fst_of_ne (h : Keyed Job.metadata s.cluster.jobs) {serviceId serviceId' : String}
    (hne : serviceId ≠ serviceId') :
    ((cancel settings serviceId').outcome ((cancel settings serviceId).outcome s).2).1 =
      ((cancel settings serviceId').outcome s).1 := by
  rw [outcome_cancel_eq h settings serviceId]
  cases hrefused : refusal? s.cluster settings.namespace_ serviceId with
  | some e => rfl
  | none =>
    dsimp only
    rw [outcome_cancel_eq (h.filter _), outcome_cancel_eq h]
    dsimp only
    rw [refusal?_cleared_of_ne _ _ hne, Store.runningNames_cleared_of_ne _ _ hne]
    cases refusal? s.cluster settings.namespace_ serviceId' <;> rfl

/-- Cancellations of two services leave the same, whichever comes first. -/
theorem cancel_snd_of_ne (h : Keyed Job.metadata s.cluster.jobs) {serviceId serviceId' : String}
    (hne : serviceId ≠ serviceId') :
    SameButOrder
      ((cancel settings serviceId').outcome ((cancel settings serviceId).outcome s).2).2
      ((cancel settings serviceId).outcome ((cancel settings serviceId').outcome s).2).2 := by
  have hrefl : ∀ s : Session Store, SameButOrder s s :=
    fun s => ⟨⟨rfl, rfl, rfl, rfl, rfl, .refl _⟩, rfl, rfl⟩
  rw [outcome_cancel_eq h settings serviceId, outcome_cancel_eq h settings serviceId']
  cases hrefused : refusal? s.cluster settings.namespace_ serviceId with
  | some e =>
    cases hrefused' : refusal? s.cluster settings.namespace_ serviceId' with
    | some e' =>
      dsimp only
      rw [outcome_cancel_eq h, outcome_cancel_eq h, hrefused, hrefused']
      exact hrefl s
    | none =>
      dsimp only
      rw [outcome_cancel_eq h, outcome_cancel_eq (h.filter _)]
      dsimp only
      rw [refusal?_cleared_of_ne _ _ hne.symm, hrefused, hrefused']
      exact hrefl _
  | none =>
    cases hrefused' : refusal? s.cluster settings.namespace_ serviceId' with
    | some e' =>
      dsimp only
      rw [outcome_cancel_eq h, outcome_cancel_eq (h.filter _)]
      dsimp only
      rw [refusal?_cleared_of_ne _ _ hne, hrefused, hrefused']
      exact hrefl _
    | none =>
      dsimp only
      rw [outcome_cancel_eq (h.filter _), outcome_cancel_eq (h.filter _)]
      dsimp only
      rw [refusal?_cleared_of_ne _ _ hne, refusal?_cleared_of_ne _ _ hne.symm, hrefused, hrefused',
        Store.runningNames_cleared_of_ne _ _ hne, Store.runningNames_cleared_of_ne _ _ hne.symm]
      exact ⟨Store.sameButOrder_cleared s.cluster _ hne, addCanceled_addCanceled .., rfl⟩

/-- **Cancellations settle.** Over every store that can come about, with any operations made to fail: a
second cancellation of a service changes nothing, and answers that nothing ran if the first one
succeeded; and cancellations of two services answer the same and leave the same in either order, but
for the order of the deletions. -/
theorem cancellations_settle (settings : Settings) {s : Session Store}
    (hs : s.cluster.Reachable) :
    (∀ serviceId r s₁, (cancel settings serviceId).outcome s = (r, s₁) →
      ∃ r', (cancel settings serviceId).outcome s₁ = (r', s₁) ∧
        ∀ names, r = .ok names → r' = .ok []) ∧
    ∀ serviceId serviceId', serviceId ≠ serviceId' → ∀ r₁ s₁ r₂ s₂ r₁' s₁' r₂' s₂',
      (cancel settings serviceId).outcome s = (r₁, s₁) →
      (cancel settings serviceId').outcome s₁ = (r₂, s₂) →
      (cancel settings serviceId').outcome s = (r₂', s₁') →
      (cancel settings serviceId).outcome s₁' = (r₁', s₂') →
        r₁ = r₁' ∧ r₂ = r₂' ∧ SameButOrder s₂ s₂' := by
  have hkeyed := hs.wellKeyed.jobs
  constructor
  · intro serviceId r s₁ hfirst
    have hagain := cancel_again settings hkeyed serviceId
    rw [hfirst] at hagain
    refine ⟨_, hagain, ?_⟩
    rintro names rfl
    rfl
  · intro serviceId serviceId' hne r₁ s₁ r₂ s₂ r₁' s₁' r₂' s₂' h₁ h₂ h₂' h₁'
    have hsecond := cancel_fst_of_ne settings hkeyed hne
    have hfirst := cancel_fst_of_ne settings hkeyed hne.symm
    have hsame := cancel_snd_of_ne settings hkeyed hne
    rw [h₁, h₂'] at hsecond
    rw [h₂', h₁] at hfirst
    rw [h₁, h₂'] at hsame
    dsimp only at hsecond hfirst hsame
    rw [h₂] at hsecond hsame
    rw [h₁'] at hfirst hsame
    exact ⟨hfirst.symm, hsecond, hsame⟩

/-- Two services with a running job each, and a pod of the one service that carries the name of the
other's job. -/
def crossedYard : Session Store where
  cluster := Store.after {} [
    .insertJob (plainJob "a1" "a" 1),
    .insertJob (plainJob "b1" "b" 1),
    .insertPod { metadata := {
      name := some "p"
      namespace_ := some "unbind-system"
      labels := some (SortedMap.ofList [
        (LabelKey.serviceId.text, "a"), (LabelKey.jobName.text, "b1")]) } }]
  now := .epoch

/-- The cancellations delete their own jobs, each once, and come to the same in either order. -/
theorem cancellations_settle_crossedYard :
    crossedYard.cluster.Reachable ∧
      ((cancel {} "a").outcome crossedYard).1 = .ok ["a1"] ∧
      ((cancel {} "a").outcome ((cancel {} "a").outcome crossedYard).2).1 = .ok [] ∧
      ((cancel {} "b").outcome ((cancel {} "a").outcome crossedYard).2).1 = .ok ["b1"] ∧
      SameButOrder ((cancel {} "b").outcome ((cancel {} "a").outcome crossedYard).2).2
        ((cancel {} "a").outcome ((cancel {} "b").outcome crossedYard).2).2 := by
  have hs : crossedYard.cluster.Reachable := ⟨_, rfl⟩
  have hfirst : ((cancel {} "a").outcome crossedYard).1 = .ok ["a1"] := rfl
  obtain ⟨hagain, hswap⟩ := cancellations_settle {} hs
  obtain ⟨r', hsecond, hnone⟩ := hagain "a" _ _ (Prod.eta _).symm
  obtain ⟨-, hother, hsame⟩ := hswap "a" "b" (by decide) _ _ _ _ _ _ _ _ (Prod.eta _).symm
    (Prod.eta _).symm (Prod.eta _).symm (Prod.eta _).symm
  exact ⟨hs, hfirst, by rw [hsecond]; exact hnone _ hfirst, hother.trans rfl, hsame⟩

end Build

end BuildYard
