import BuildYard.Cluster.Store
import BuildYard.Health.Workload
/-!
# How many instances an owner wants

The first owner of a pod says how many instances are wanted, if it is of a kind that says so and can be
looked up. `Expects` lists the cases for a store, and `expectedFor_eq_iff_expects` says that these are
all of them: nothing counts but the first owner, the one object that it names, and the fault of the one
operation that looks it up.
-/

namespace BuildYard

/-! ## The object that an owner reference names -/

/-- An object that can own pods. -/
inductive Owner where
  | scaledSet (set : ScaledSet)
  | daemonSet (set : DaemonSet)

namespace OwnerKind

/-- The operation that looks up an owner of the kind. -/
def operation : OwnerKind → Operation
  | .scaled kind => .getScaledSet kind
  | .daemonSet => .getDaemonSet

/-- The kind among all kinds of object. -/
def object : OwnerKind → ObjectKind
  | .scaled kind => kind.toKind
  | .daemonSet => .daemonSet

end OwnerKind

/-- The owner of a kind with a name that is stored in a namespace. -/
def Store.owner? (s : Store) (kind : OwnerKind) (ns name : String) : Option Owner :=
  match kind with
  | .scaled kind => ((s.scaledSets kind).find? ⟨ns, name⟩).map .scaledSet
  | .daemonSet => (s.daemonSets.find? ⟨ns, name⟩).map .daemonSet

namespace Health

/-! ## What an owner wants -/

/-- The number of instances that an owner wants. A workload that does not say how many replicas it
asks for has one; a daemon set that reports nothing has none. -/
inductive Wants : Owner → Int → Prop
  | replicas {set : ScaledSet} {spec : ScaleSpec} {n : Int} (has_spec : set.spec = some spec)
      (has_replicas : spec.replicas = some n) : Wants (.scaledSet set) n
  | no_spec {set : ScaledSet} (has_none : set.spec = none) : Wants (.scaledSet set) 1
  | no_replicas {set : ScaledSet} {spec : ScaleSpec} (has_spec : set.spec = some spec)
      (has_none : spec.replicas = none) : Wants (.scaledSet set) 1
  | scheduled {set : DaemonSet} {status : DaemonSetStatus} (has_status : set.status = some status) :
      Wants (.daemonSet set) status.desiredNumberScheduled
  | no_status {set : DaemonSet} (has_none : set.status = none) : Wants (.daemonSet set) 0

/-- The number of instances that an owner wants. -/
def countOf : Owner → Int
  | .scaledSet set => set.replicas.getD defaultReplicas
  | .daemonSet set => set.desired.getD 0

theorem wants_iff {owner : Owner} {n : Int} : Wants owner n ↔ countOf owner = n := by
  constructor
  · intro h
    cases h with
    | replicas hspec hreplicas => simp [countOf, ScaledSet.replicas, hspec, hreplicas]
    | no_spec hspec => simp [countOf, ScaledSet.replicas, hspec, defaultReplicas]
    | no_replicas hspec hreplicas =>
      simp [countOf, ScaledSet.replicas, hspec, hreplicas, defaultReplicas]
    | scheduled hstatus => simp [countOf, DaemonSet.desired, hstatus]
    | no_status hstatus => simp [countOf, DaemonSet.desired, hstatus]
  · rintro rfl
    rcases owner with ⟨metadata, _ | ⟨_ | n⟩⟩ | ⟨metadata, _ | status⟩
    · exact .no_spec rfl
    · exact .no_replicas rfl rfl
    · exact .replicas rfl rfl
    · exact .no_status rfl
    · exact .scheduled rfl

/-- An owner in a store is looked up by one operation, which leaves the store as it is. -/
theorem outcome_wanted_store (s : Store) (kind : OwnerKind) (ns name : String) :
    (wanted ns kind name).outcome s =
      (match s.faults kind.operation with
        | some message => .error ⟨.kubernetes, message⟩
        | none =>
          match s.owner? kind ns name with
          | none => .error (Store.notFound kind.object ns name)
          | some owner => .ok (countOf owner), s) := by
  cases kind with
  | scaled kind =>
    rw [wanted, Attempt.outcome_bind_pure, Store.outcome_getScaledSet, OwnerKind.operation,
      Store.lookup, Store.owner?]
    cases s.faults (.getScaledSet kind) with
    | some message => rfl
    | none => cases (s.scaledSets kind).find? ⟨ns, name⟩ <;> rfl
  | daemonSet =>
    rw [wanted, Attempt.outcome_bind_pure, Store.outcome_getDaemonSet, OwnerKind.operation,
      Store.lookup, Store.owner?]
    cases s.faults .getDaemonSet with
    | some message => rfl
    | none => cases s.daemonSets.find? ⟨ns, name⟩ <;> rfl

/-! ## The look-up of an owner -/

section LookUp

variable {σ : Type} [Cluster σ] {ns : String} {pod : Pod} {owner : OwnerReference}
  {kind : OwnerKind}

/-- The look-up of an owner fails. -/
def LookUpFails (kind : OwnerKind) (ns name : String) (s : σ) (e : Failure) : Prop :=
  match kind with
  | .scaled kind =>
    ((Cluster.getScaledSet kind ns name : Attempt σ ScaledSet).outcome s).1 = .error e
  | .daemonSet => ((Cluster.getDaemonSet ns name : Attempt σ DaemonSet).outcome s).1 = .error e

theorem wanted_eq_error_iff {name : String} {s : σ} {e : Failure} :
    ((wanted ns kind name).outcome s).1 = .error e ↔ LookUpFails kind ns name s e := by
  cases kind with
  | scaled kind =>
    rw [wanted, Attempt.outcome_bind_pure, LookUpFails]
    cases ((Cluster.getScaledSet kind ns name : Attempt σ ScaledSet).outcome s).1 <;> simp [Except.map]
  | daemonSet =>
    rw [wanted, Attempt.outcome_bind_pure, LookUpFails]
    cases ((Cluster.getDaemonSet ns name : Attempt σ DaemonSet).outcome s).1 <;> simp [Except.map]

/-- An owner of a kind that says how many pods it wants is looked up. -/
theorem expectedFor_of_named (howner : ownerOf pod = some owner) (hnamed : owner.kind = kind.text)
    (s : Session σ) :
    ((expectedFor ns pod).outcome s).1 =
      orUnowned ("failed to get " ++ owner.kind ++ " " ++ ns ++ "/" ++ owner.name)
        ((wanted ns kind owner.name).outcome s.cluster).1 := by
  simp only [expectedFor, howner, OwnerKind.ofText?_eq_some_iff.2 hnamed, Attempt.outcome_of,
    Session.outcome_onCluster]

theorem orUnowned_eq_error_iff {operation : String} {r : Except Failure Int} {e : Failure} :
    orUnowned operation r = .error e ↔
      ∃ e₀, r = .error e₀ ∧ e₀.kind ≠ .notFound ∧ e = e₀.during operation := by
  cases r with
  | ok n => simp [orUnowned]
  | error e₀ =>
    by_cases hmissing : e₀.kind = .notFound
    · simp [orUnowned, Failure.isNotFound, hmissing]
    · have hother : e₀.isNotFound = false := decide_eq_false hmissing
      rw [orUnowned, hother]
      constructor
      · intro h
        cases h
        exact ⟨e₀, rfl, hmissing, rfl⟩
      · rintro ⟨e₁, he, -, rfl⟩
        cases he
        rfl

/-- The question fails with the look-up of the first owner, unless that says that there is none. -/
theorem expectedFor_eq_error_iff {s : Session σ} {e : Failure} :
    ((expectedFor ns pod).outcome s).1 = .error e ↔
      ∃ owner kind e₀, ownerOf pod = some owner ∧ owner.kind = kind.text ∧
        LookUpFails kind ns owner.name s.cluster e₀ ∧ e₀.kind ≠ .notFound ∧
        e = e₀.during ("failed to get " ++ owner.kind ++ " " ++ ns ++ "/" ++ owner.name) := by
  constructor
  · intro h
    cases howner : ownerOf pod with
    | none =>
      simp only [expectedFor, howner] at h
      cases h
    | some owner =>
      cases hkind : OwnerKind.ofText? owner.kind with
      | none =>
        simp only [expectedFor, howner, hkind] at h
        cases h
      | some kind =>
        have hnamed := OwnerKind.ofText?_eq_some_iff.1 hkind
        rw [expectedFor_of_named howner hnamed, orUnowned_eq_error_iff] at h
        obtain ⟨e₀, hfails, hother, he⟩ := h
        exact ⟨owner, kind, e₀, rfl, hnamed, wanted_eq_error_iff.1 hfails, hother, he⟩
  · rintro ⟨owner, kind, e₀, howner, hnamed, hfails, hother, he⟩
    rw [expectedFor_of_named howner hnamed, orUnowned_eq_error_iff]
    exact ⟨e₀, wanted_eq_error_iff.2 hfails, hother, he⟩

end LookUp

theorem snd_outcome_expectedFor (ns : String) (pod : Pod) (s : Session Store) :
    ((expectedFor ns pod).outcome s).2 = s := by
  unfold expectedFor
  split
  · rfl
  · split
    · rfl
    · rw [Attempt.outcome_of, Session.outcome_onCluster, outcome_wanted_store]

/-! ## What is expected of a pod -/

/-- The kinds of owner that say how many pods they want. -/
def countedKinds : List String := ["StatefulSet", "Deployment", "ReplicaSet", "DaemonSet"]

theorem ofText?_eq_none_iff {text : String} :
    OwnerKind.ofText? text = none ↔ text ∉ countedKinds := by
  unfold OwnerKind.ofText? countedKinds
  repeat' split
  all_goals simp_all

/-- What comes of asking how many instances the first owner of a pod wants, by the owner that the pod
names and what a store has of it. -/
inductive Expects (s : Store) (ns : String) : Option OwnerReference → Except Failure Int → Prop
  | unowned : Expects s ns none (.ok 1)
  | uncounted {owner : OwnerReference} (other_kind : owner.kind ∉ countedKinds) :
      Expects s ns (some owner) (.ok 1)
  | faulty {owner : OwnerReference} {kind : OwnerKind} {message : String}
      (named : owner.kind = kind.text) (fault : s.faults kind.operation = some message) :
      Expects s ns (some owner)
        (.error ⟨.kubernetes, "failed to get " ++ owner.kind ++ " " ++ ns ++ "/" ++ owner.name ++
          ": " ++ message⟩)
  | missing {owner : OwnerReference} {kind : OwnerKind} (named : owner.kind = kind.text)
      (no_fault : s.faults kind.operation = none) (gone : s.owner? kind ns owner.name = none) :
      Expects s ns (some owner) (.ok 1)
  | stored {owner : OwnerReference} {kind : OwnerKind} {object : Owner} {n : Int}
      (named : owner.kind = kind.text) (no_fault : s.faults kind.operation = none)
      (found : s.owner? kind ns owner.name = some object) (wants : Wants object n) :
      Expects s ns (some owner) (.ok n)

theorem exists_expects (s : Store) (ns : String) (owner : Option OwnerReference) :
    ∃ r, Expects s ns owner r := by
  cases owner with
  | none => exact ⟨_, .unowned⟩
  | some owner =>
    cases hkind : OwnerKind.ofText? owner.kind with
    | none => exact ⟨_, .uncounted (ofText?_eq_none_iff.1 hkind)⟩
    | some kind =>
      have hnamed := OwnerKind.ofText?_eq_some_iff.1 hkind
      cases hfault : s.faults kind.operation with
      | some message => exact ⟨_, .faulty hnamed hfault⟩
      | none =>
        cases hfound : s.owner? kind ns owner.name with
        | none => exact ⟨_, .missing hnamed hfault hfound⟩
        | some object => exact ⟨_, .stored hnamed hfault hfound (wants_iff.2 rfl)⟩

variable {ns : String} {pod : Pod}

theorem expectedFor_of_expects {s : Session Store} {r : Except Failure Int}
    (h : Expects s.cluster ns (ownerOf pod) r) : ((expectedFor ns pod).outcome s).1 = r := by
  generalize howner : ownerOf pod = owner at h
  cases h with
  | unowned =>
    simp only [expectedFor, howner]
    rfl
  | uncounted hkind =>
    simp only [expectedFor, howner, ofText?_eq_none_iff.2 hkind]
    rfl
  | faulty hnamed hfault =>
    rw [expectedFor_of_named howner hnamed, outcome_wanted_store, hfault]
    simp [orUnowned, Failure.isNotFound, Failure.during, FailureKind.takesContext]
  | missing hnamed hfault hgone =>
    rw [expectedFor_of_named howner hnamed, outcome_wanted_store, hfault, hgone]
    rfl
  | stored hnamed hfault hfound hwants =>
    rw [expectedFor_of_named howner hnamed, outcome_wanted_store, hfault, hfound]
    exact congrArg Except.ok (wants_iff.1 hwants)

theorem expects_expectedFor (ns : String) (pod : Pod) (s : Session Store) :
    Expects s.cluster ns (ownerOf pod) ((expectedFor ns pod).outcome s).1 := by
  -- Some case applies, and each case fixes the answer.
  obtain ⟨r, hr⟩ := exists_expects s.cluster ns (ownerOf pod)
  rwa [expectedFor_of_expects hr]

/-- Two stores have the same of the owner that a pod names: the object, and the fault of its
look-up. -/
def AgreeOn (ns : String) (owner : Option OwnerReference) (s s' : Store) : Prop :=
  ∀ ref kind, owner = some ref → ref.kind = OwnerKind.text kind →
    s'.owner? kind ns ref.name = s.owner? kind ns ref.name ∧
      s'.faults kind.operation = s.faults kind.operation

theorem Expects.of_agreeOn {owner : Option OwnerReference} {s s' : Store} {r : Except Failure Int}
    (h : Expects s ns owner r) (hagree : AgreeOn ns owner s s') : Expects s' ns owner r := by
  cases h with
  | unowned => exact .unowned
  | uncounted hkind => exact .uncounted hkind
  | faulty hnamed hfault =>
    obtain ⟨-, hfaults⟩ := hagree _ _ rfl hnamed
    exact .faulty hnamed (hfaults.trans hfault)
  | missing hnamed hfault hgone =>
    obtain ⟨hobject, hfaults⟩ := hagree _ _ rfl hnamed
    exact .missing hnamed (hfaults.trans hfault) (hobject.trans hgone)
  | stored hnamed hfault hfound hwants =>
    obtain ⟨hobject, hfaults⟩ := hagree _ _ rfl hnamed
    exact .stored hnamed (hfaults.trans hfault) (hobject.trans hfound) hwants

/-- **How many instances are expected is a matter of the first owner of a pod.** What a store answers
is what `Expects` lists, and leaves the store as it is. It is a failure exactly when the first owner is
looked up and the look-up fails, other than for an owner that does not exist. Stores that agree on that
owner and on the fault of its look-up answer alike, for all pods that have it first. -/
theorem expectedFor_eq_iff_expects (ns : String) (pod : Pod) (s : Session Store) :
    (∀ r s', (expectedFor ns pod).outcome s = (r, s') ↔
      Expects s.cluster ns (ownerOf pod) r ∧ s' = s) ∧
    ((∃ e, ((expectedFor ns pod).outcome s).1 = .error e) ↔
      ∃ owner kind e, ownerOf pod = some owner ∧ owner.kind = OwnerKind.text kind ∧
        LookUpFails kind ns owner.name s.cluster e ∧ e.kind ≠ .notFound) ∧
    ∀ (pod' : Pod) (s' : Session Store), ownerOf pod' = ownerOf pod →
      AgreeOn ns (ownerOf pod) s.cluster s'.cluster →
        ((expectedFor ns pod').outcome s').1 = ((expectedFor ns pod).outcome s).1 := by
  refine ⟨fun r s' => ⟨fun h => ?_, ?_⟩, ⟨?_, ?_⟩, fun pod' s' howner hagree => ?_⟩
  · have hr : ((expectedFor ns pod).outcome s).1 = r := congrArg Prod.fst h
    have hs : ((expectedFor ns pod).outcome s).2 = s' := congrArg Prod.snd h
    rw [← hr, ← hs]
    exact ⟨expects_expectedFor ns pod s, snd_outcome_expectedFor ns pod s⟩
  · rintro ⟨hr, rfl⟩
    exact Prod.ext (expectedFor_of_expects hr) (snd_outcome_expectedFor ns pod s')
  · rintro ⟨e, he⟩
    obtain ⟨owner, kind, e₀, howner, hnamed, hfails, hother, -⟩ := expectedFor_eq_error_iff.1 he
    exact ⟨owner, kind, e₀, howner, hnamed, hfails, hother⟩
  · rintro ⟨owner, kind, e₀, howner, hnamed, hfails, hother⟩
    exact ⟨_, expectedFor_eq_error_iff.2 ⟨owner, kind, e₀, howner, hnamed, hfails, hother, rfl⟩⟩
  · refine expectedFor_of_expects ?_
    rw [howner]
    exact (expects_expectedFor ns pod s).of_agreeOn hagree

/-- A pod of a deployment, which a daemon set owns too. -/
def sharedPod (name : String) : Pod where
  metadata := {
    name := some name
    namespace_ := some "apps"
    ownerReferences := some [
      { kind := "Deployment", name := "api" },
      { kind := "DaemonSet", name := "agent" }] }

/-- The deployment, with four replicas. -/
def apiStore : Store := Store.insertScaledSet {} .deployment {
  metadata := { name := some "api", namespace_ := some "apps" }
  spec := some { replicas := some 4 } }

/-- A deployment of the same name in another namespace, a replica set of the same name, and a fault in
the look-up of daemon sets do not matter. -/
theorem expectedFor_eq_iff_expects_apiStore :
    let crowded := ((apiStore.insertScaledSet .deployment {
        metadata := { name := some "api", namespace_ := some "others" }
        spec := some { replicas := some 7 } }).insertScaledSet .replicaSet {
          metadata := { name := some "api", namespace_ := some "apps" } }).fail .getDaemonSet "down"
    ownerOf (sharedPod "b") = ownerOf (sharedPod "a") ∧
      AgreeOn "apps" (ownerOf (sharedPod "a")) apiStore crowded ∧
      ((expectedFor "apps" (sharedPod "b")).outcome { cluster := crowded, now := .epoch }).1 =
        .ok 4 := by
  intro crowded
  have hagree : AgreeOn "apps" (ownerOf (sharedPod "a")) apiStore crowded := by
    intro ref kind href hkind
    obtain rfl := Option.some.inj href
    have hdeployment := OwnerKind.ofText?_eq_some_iff.2 hkind
    obtain rfl := Option.some.inj hdeployment
    exact ⟨rfl, rfl⟩
  exact ⟨rfl, hagree, (expectedFor_eq_iff_expects "apps" (sharedPod "a")
    { cluster := apiStore, now := .epoch }).2.2 (sharedPod "b") _ rfl hagree⟩

end Health

end BuildYard
