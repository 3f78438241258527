import BuildYard.Proofs.Build.Look
import BuildYard.Proofs.Cluster.Keys
import Mathlib.Data.Nat.Find
import Mathlib.Order.Monotone.Basic
/-!
# Waiting for the end of a build

A wait looks at a build at equal intervals until a look is final: it fails, or the build has ended.
While it waits a script changes the cluster and sets the clock. What a look finds depends only on
what the script has done so far (`Script.lookAt`), because a look changes nothing but a counter.

* `awaitFrom_final`, `awaitFrom_late`, `awaitFrom_open`: what one look does to a wait.
* `await_reaches`: a wait comes to every look that no final one is before.
* `await_eq_of_first_final`, `await_eq_of_not_final`: the two ways in which a wait ends.
* `await_first_final`: a wait ends with the first final look that is due in time, and without one it
  ends when the time is up.
-/

namespace BuildYard.Build

/-! ## Scripts -/

/-- A cluster in memory at a time. -/
structure Scene where
  store : Store
  now : Instant

/-- What changes the cluster and the clock just before each look. -/
abbrev Script := Nat → Scene → Scene

namespace Script

/-- The script as it acts on a session: it leaves the counters alone. -/
def between (script : Script) (k : Nat) (s : Session Store) : Session Store :=
  let scene := script k ⟨s.cluster, s.now⟩
  { s with cluster := scene.store, now := scene.now }

/-- The scene after so many steps of the script. -/
def sceneAfter (script : Script) (start : Scene) : Nat → Scene
  | 0 => start
  | k + 1 => script k (sceneAfter script start k)

/-- What the look number `k` finds: the status of the build in the scene that the script has left
just before it. -/
def lookAt (script : Script) (ns name : String) (start : Scene) (k : Nat) :
    Except Failure BuildStatus :=
  let scene := script.sceneAfter start (k + 1)
  ((status ns name).outcome { cluster := scene.store, now := scene.now }).1

end Script

/-- The scene of a session. -/
def sceneOf (s : Session Store) : Scene := ⟨s.cluster, s.now⟩

/-- A look changes neither the cluster nor the clock. -/
theorem sceneOf_outcome_status (ns name : String) (s : Session Store) :
    sceneOf ((status ns name).outcome s).2 = sceneOf s := by
  rw [outcome_status_store]
  split
  · rfl
  · split <;> rfl

/-- What a look finds depends on the scene only. -/
theorem outcome_status_eq_of_sceneOf {ns name : String} {s s' : Session Store}
    (h : sceneOf s = sceneOf s') :
    ((status ns name).outcome s).1 = ((status ns name).outcome s').1 := by
  obtain ⟨hcluster, hnow⟩ := Scene.mk.inj h
  rw [outcome_status_store, outcome_status_store, hcluster, hnow]
  split
  · rfl
  · split <;> rfl

/-! ## One look of a wait -/

section

variable {σ : Type} [Cluster σ] {ns name : String} {patience : Patience}
  {between : Nat → Session σ → Session σ} {k : Nat} {s : Session σ}

/-- No look is made after the time is up. -/
theorem awaitFrom_late (hlate : patience.timeout < patience.ticker.due k) :
    awaitFrom ns name patience between k s =
      (⟨k, patience.timeout, .error (notFinished name patience.timeout)⟩, s) := by
  rw [awaitFrom, if_neg (Nat.not_le.2 hlate)]

/-- A look that is final ends the wait. -/
theorem awaitFrom_final (hdue : patience.ticker.due k ≤ patience.timeout)
    (hfinal : isFinal ((status ns name).outcome (between k s)).1 = true) :
    awaitFrom ns name patience between k s =
      (⟨k + 1, patience.ticker.due k, ((status ns name).outcome (between k s)).1⟩,
        ((status ns name).outcome (between k s)).2) := by
  rw [awaitFrom, if_pos hdue]
  dsimp only
  rw [if_pos hfinal]

/-- A look that is not final leaves the wait to the looks after it. -/
theorem awaitFrom_open (hdue : patience.ticker.due k ≤ patience.timeout)
    (hopen : ¬ isFinal ((status ns name).outcome (between k s)).1 = true) :
    awaitFrom ns name patience between k s =
      awaitFrom ns name patience between (k + 1) ((status ns name).outcome (between k s)).2 := by
  rw [awaitFrom, if_pos hdue]
  dsimp only
  rw [if_neg hopen]

end

/-! ## All looks of a wait -/

section

variable {patience : Patience} {script : Script}

/-- A look that is made in the scene of its script finds what the script has prepared. -/
theorem outcome_status_between (ns name : String) {start : Scene} {k : Nat} {s : Session Store}
    (hscene : sceneOf s = script.sceneAfter start k) :
    ((status ns name).outcome (script.between k s)).1 = script.lookAt ns name start k ∧
      sceneOf ((status ns name).outcome (script.between k s)).2 =
        script.sceneAfter start (k + 1) := by
  have hbetween : sceneOf (script.between k s) = script.sceneAfter start (k + 1) := by
    show script k (sceneOf s) = script k (script.sceneAfter start k)
    rw [hscene]
  exact ⟨outcome_status_eq_of_sceneOf hbetween, (sceneOf_outcome_status ..).trans hbetween⟩

/-- A wait comes to a look when the looks before it are due in time and not final. -/
theorem await_reaches (ns name : String) (s : Session Store) {n : Nat}
    (hbefore : ∀ k < n, patience.ticker.due k ≤ patience.timeout ∧
      ¬ isFinal (script.lookAt ns name (sceneOf s) k) = true) :
    ∃ s', sceneOf s' = script.sceneAfter (sceneOf s) n ∧
      await ns name patience script.between s =
        awaitFrom ns name patience script.between n s' := by
  induction n with
  | zero => exact ⟨s, rfl, rfl⟩
  | succ n ih =>
    obtain ⟨s', hscene, hreach⟩ := ih fun k hk => hbefore k (Nat.lt_succ_of_lt hk)
    obtain ⟨hdue, hopen⟩ := hbefore n (Nat.lt_succ_self n)
    obtain ⟨hlook, hnext⟩ := outcome_status_between ns name hscene
    rw [← hlook] at hopen
    exact ⟨_, hnext, hreach.trans (awaitFrom_open hdue hopen)⟩

/-- A wait ends with the first final look, if that is due in time. -/
theorem await_eq_of_first_final (ns name : String) (s : Session Store) {k : Nat}
    (hdue : patience.ticker.due k ≤ patience.timeout)
    (hfinal : isFinal (script.lookAt ns name (sceneOf s) k) = true)
    (hopen : ∀ j < k, ¬ isFinal (script.lookAt ns name (sceneOf s) j) = true) :
    (await ns name patience script.between s).1 =
      ⟨k + 1, patience.ticker.due k, script.lookAt ns name (sceneOf s) k⟩ := by
  have hmono : StrictMono patience.ticker.due :=
    strictMono_nat_of_lt_succ patience.ticker.due_lt_due_succ
  have hbefore : ∀ j < k, patience.ticker.due j ≤ patience.timeout ∧
      ¬ isFinal (script.lookAt ns name (sceneOf s) j) = true :=
    fun j hj => ⟨(hmono hj).le.trans hdue, hopen j hj⟩
  obtain ⟨s', hscene, hreach⟩ := await_reaches ns name s hbefore
  obtain ⟨hlook, -⟩ := outcome_status_between ns name hscene
  rw [hreach, awaitFrom_final hdue (by rw [hlook]; exact hfinal), hlook]

/-- A wait ends when the time is up, if no look that is due in time is final. -/
theorem await_eq_of_not_final (ns name : String) (s : Session Store) {n : Nat}
    (hdue : ∀ k, patience.ticker.due k ≤ patience.timeout ↔ k < n)
    (hopen : ∀ k < n, ¬ isFinal (script.lookAt ns name (sceneOf s) k) = true) :
    (await ns name patience script.between s).1 =
      ⟨n, patience.timeout, .error (notFinished name patience.timeout)⟩ := by
  obtain ⟨s', -, hreach⟩ := await_reaches ns name s fun k hk => ⟨(hdue k).2 hk, hopen k hk⟩
  have hlate : patience.timeout < patience.ticker.due n :=
    Nat.not_le.1 fun hle => Nat.lt_irrefl n ((hdue n).1 hle)
  rw [hreach, awaitFrom_late hlate]

end

/-- **A wait ends with the first final look that is due in time, and without one it ends when the
time is up.** The looks are due at equal intervals, so that the last one in time is the one whose
number is the quotient of the timeout and the interval. A status that a wait ends with is
terminal. -/
theorem await_first_final (ns name : String) (patience : Patience) {interval : Nat}
    (hticks : patience.ticker.TicksEvery interval) (script : Script) (s : Session Store) :
    let last := patience.timeout / interval
    let look := script.lookAt ns name (sceneOf s)
    let awaited := (await ns name patience script.between s).1
    (∀ k ≤ last, isFinal (look k) → (∀ j < k, ¬ isFinal (look j)) →
      awaited = ⟨k + 1, k * interval, look k⟩) ∧
    ((∀ k ≤ last, ¬ isFinal (look k)) →
      awaited = ⟨last + 1, patience.timeout, .error (notFinished name patience.timeout)⟩) ∧
    ∀ found, awaited.result = .ok found → found.phase.isTerminal := by
  intro last look awaited
  have hpos : 0 < interval := by
    have hfirst := patience.ticker.due_lt_due_succ 0
    rw [hticks 0, hticks 1] at hfirst
    omega
  have hdue : ∀ k, patience.ticker.due k ≤ patience.timeout ↔ k ≤ last := by
    intro k
    rw [hticks k]
    exact (Nat.le_div_iff_mul_le hpos).symm
  have hfirst : ∀ k ≤ last, isFinal (look k) → (∀ j < k, ¬ isFinal (look j)) →
      awaited = ⟨k + 1, k * interval, look k⟩ := by
    intro k hk hfinal hopen
    rw [← hticks k]
    exact await_eq_of_first_final ns name s ((hdue k).2 hk) hfinal hopen
  have hnone : (∀ k ≤ last, ¬ isFinal (look k)) →
      awaited = ⟨last + 1, patience.timeout, .error (notFinished name patience.timeout)⟩ :=
    fun hopen => await_eq_of_not_final ns name s
      (fun k => (hdue k).trans Nat.lt_succ_iff.symm) fun k hk => hopen k (Nat.le_of_lt_succ hk)
  refine ⟨hfirst, hnone, fun found hfound => ?_⟩
  by_cases hsome : ∃ k, k ≤ last ∧ isFinal (look k) = true
  · have hleast := Nat.find_spec hsome
    have hawaited := hfirst (Nat.find hsome) hleast.1 hleast.2 fun j hj hfinal =>
      Nat.find_min hsome hj ⟨by omega, hfinal⟩
    rw [hawaited] at hfound
    have hterminal := hleast.2
    rwa [show look (Nat.find hsome) = .ok found from hfound] at hterminal
  · have hawaited := hnone fun k hk hfinal => hsome ⟨k, hk, hfinal⟩
    rw [hawaited] at hfound
    cases hfound

/-- A build whose job has no status yet. -/
def pendingYard : Session Store where
  cluster := Store.insertJob {} {
    metadata := { name := some "build", namespace_ := some "builds" } }
  now := .epoch

/-- The build succeeds just before the third look. -/
def succeedsThird : Script := fun k scene =>
  if k = 2 then
    { scene with store :=
        Store.Change.apply scene.store (.setJobStatus "builds" "build" { succeeded := some 1 }) }
  else scene

/-- Looking every ten milliseconds for 25 milliseconds. -/
def shortPatience : Patience := .of 10 25 (by decide)

/-- The end of the build is seen at the third look; without it the time is up after three looks. -/
theorem await_first_final_pendingYard :
    shortPatience.ticker.TicksEvery 10 ∧
    (await "builds" "build" shortPatience succeedsThird.between pendingYard).1 =
      ⟨3, 20, .ok { phase := .succeeded, completedTime := some .epoch }⟩ ∧
    (await "builds" "build" shortPatience (Script.between fun _ scene => scene) pendingYard).1 =
      ⟨3, 25, .error ⟨.internal, "job build did not finish within 0s"⟩⟩ := by
  have hticks : shortPatience.ticker.TicksEvery 10 :=
    Ticker.ticksEvery_every (by decide) (by decide)
  refine ⟨hticks, ?_, ?_⟩
  · refine (await_first_final "builds" "build" shortPatience hticks succeedsThird pendingYard).1 2
      (by decide) rfl fun j hj => ?_
    match j, hj with
    | 0, _ => exact Bool.false_ne_true
    | 1, _ => exact Bool.false_ne_true
  · refine (await_first_final "builds" "build" shortPatience hticks (fun _ scene => scene)
      pendingYard).2.1 fun j hj => ?_
    have hle : j ≤ 2 := hj
    match j, hle with
    | 0, _ => exact Bool.false_ne_true
    | 1, _ => exact Bool.false_ne_true
    | 2, _ => exact Bool.false_ne_true

end BuildYard.Build
