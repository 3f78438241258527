import BuildYard.Build.Status
import BuildYard.Cluster.Basic
/-!
# Following a build

`status` looks at a build once. `await` looks again and again, whenever a ticker says that a look is
due, until the build has ended, a look fails, or the time is up; a look that is due when the time is
up still counts. What happens to the cluster between the looks is given from outside.
-/

namespace BuildYard.Build

variable {σ : Type} [Cluster σ]

/-- The status of the build that a job runs. The pods are listed only where the job alone does not
explain a failure. -/
def status (ns name : String) : Attempt (Session σ) BuildStatus := do
  let job ← (Session.onCluster (Cluster.getJob ns name)).within ("failed to get job " ++ name)
  let pods ←
    if needsPods job then
      (Session.onCluster (Cluster.listPods ns (.forJobPods name))).within
        ("failed to list pods for job " ++ name)
    else pure []
  let found := statusOf job pods (← Session.clock)
  Session.count (Counters.addPoll found.phase)
  return found

/-- Times at which looks are due, one after the other, in milliseconds since the start of a wait. -/
structure Ticker where
  /-- When the look number `k` is due, counted from zero. -/
  due : Nat → Nat
  due_lt_due_succ : ∀ k, due k < due (k + 1)

/-- The looks are due at time zero and then at equal intervals. -/
def Ticker.TicksEvery (ticker : Ticker) (interval : Nat) : Prop :=
  ∀ k, ticker.due k = k * interval

/-- The longest time between two looks, in milliseconds: thirty years of 365 days. -/
def longestInterval : Nat := 30 * 365 * 24 * 60 * 60 * 1000

/-- A look at time zero and then at equal intervals; an interval that is longer than the longest
counts as the longest. -/
def Ticker.every (interval : Nat) (interval_pos : 0 < interval) : Ticker where
  due k := k * min interval longestInterval
  due_lt_due_succ k := by
    have hpos : 0 < min interval longestInterval := Nat.lt_min.mpr ⟨interval_pos, by decide⟩
    rw [Nat.succ_mul]
    omega

theorem Ticker.ticksEvery_every {interval : Nat} (interval_pos : 0 < interval)
    (h : interval ≤ longestInterval) : (every interval interval_pos).TicksEvery interval := by
  intro k
  show k * min interval longestInterval = k * interval
  rw [Nat.min_eq_left h]

/-- When and how long to look, in milliseconds. -/
structure Patience where
  ticker : Ticker
  timeout : Nat

/-- Looking with an interval and a timeout. -/
def Patience.of (interval timeout : Nat) (interval_pos : 0 < interval) : Patience where
  ticker := .every interval interval_pos
  timeout

/-- Looking with an interval and a timeout, if the interval is not zero. -/
def Patience.of? (interval timeout : Nat) : Option Patience :=
  if h : 0 < interval then some (.of interval timeout h) else none

/-- What came of waiting for the end of a build. -/
structure Awaited where
  /-- How often the build was looked at. -/
  polls : Nat
  /-- Milliseconds until the end of the wait. -/
  elapsed : Nat
  result : Except Failure BuildStatus

/-- Is this the end of waiting: a failure, or the end of the build? -/
def isFinal (result : Except Failure BuildStatus) : Bool :=
  match result with
  | .ok found => found.phase.isTerminal
  | .error _ => true

/-- What is said of a build that did not end in time. -/
def notFinished (name : String) (timeout : Nat) : Failure :=
  ⟨.internal, "job " ++ name ++ " did not finish within " ++
    String.ofList (Text.decimal (timeout / 1000)) ++ "s"⟩

/-- Waits from the look number `k` on. A look that is due when the time is up is still made, and a
look that would be due later is what the time is up before. -/
def awaitFrom (ns name : String) (patience : Patience) (between : Nat → Session σ → Session σ)
    (k : Nat) (s : Session σ) : Awaited × Session σ :=
  if patience.ticker.due k ≤ patience.timeout then
    let (result, s') := (status ns name).outcome (between k s)
    if isFinal result then (⟨k + 1, patience.ticker.due k, result⟩, s')
    else awaitFrom ns name patience between (k + 1) s'
  else (⟨k, patience.timeout, .error (notFinished name patience.timeout)⟩, s)
-- the time that is left, counting the moment when it is up
termination_by patience.timeout + 1 - patience.ticker.due k
decreasing_by
  have hlater := patience.ticker.due_lt_due_succ k
  omega

/-- Waits for the end of a build; `between k` is what happens just before the look number `k`,
counted from zero. -/
def await (ns name : String) (patience : Patience) (between : Nat → Session σ → Session σ)
    (s : Session σ) : Awaited × Session σ :=
  awaitFrom ns name patience between 0 s

end BuildYard.Build
