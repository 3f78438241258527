import BuildYard.Proofs.Build.Replacement
import BuildYard.Proofs.Build.Waiting
import BuildYard.Proofs.Health.Rollup
import BuildYard.Proofs.Service.Calls
import Mathlib.Algebra.Order.Ring.Nat
/-!
# The counters account for what was done

The counters are raised in four operations, at the end of each and only where it succeeds. So the
counts can be told from what the operations gave back, however they were called: directly, through
the server, or by a wait that looks at a build again and again.

* `Step`, `Event`: what can happen. A wait is one event, with the steps that happen before each look.
* `Act`: what one operation did and gave back. `journal`: the acts of a run.
* `Accounts`: the counters have grown by the acts. `Accounts.foldl`: it holds of a run if it holds of
  every step.
* `counters_eq_journal`: it holds of every run.
-/

namespace BuildYard.Service

open Build (Patience status)

/-! ## What happens -/

/-- A step, or a whole wait for the end of a build with the steps that happen before each look. -/
inductive Event where
  | once (step : Step)
  | wait (ns name : String) (patience : Patience) (meanwhile : Nat → List Step)

/-- The state after an event. -/
def Event.apply (s : Session Store) : Event → Session Store
  | .once step => step.apply s
  | .wait ns name patience meanwhile =>
    (Build.await ns name patience (fun k s => (meanwhile k).foldl Step.apply s) s).2

/-- The state after events, one after the other. -/
def run (s : Session Store) (events : List Event) : Session Store := events.foldl Event.apply s

/-! ## What was done -/

/-- What an operation did and gave back. -/
inductive Act where
  /-- A submission, with the stores before it, after its cancellation, and after it. -/
  | submission (before cleared after : Store) (result : Except Failure String)
  /-- A cancellation that was asked for, with the stores before and after it. -/
  | cancellation (before after : Store)
  | look (result : Except Failure BuildStatus)
  | rollUp (result : Except Failure HealthSummary)

/-- The keys of the jobs that are stored before and not after. -/
def gone (before after : Store) : List ObjectKey :=
  before.jobs.keys.filter fun key => !after.jobs.contains key

namespace Act

/-- Is this a submission that succeeded? -/
def isSubmitted : Act → Bool
  | .submission _ _ _ (.ok _) => true
  | _ => false

/-- How many jobs the cancellation of the act removed. -/
def removed : Act → Nat
  | .submission before cleared _ _ => (gone before cleared).length
  | .cancellation before after => (gone before after).length
  | .look _ | .rollUp _ => 0

/-- How many entries the act added to the deletions. -/
def logged : Act → Nat
  | .submission before _ after _ | .cancellation before after =>
    after.deletions.length - before.deletions.length
  | .look _ | .rollUp _ => 0

/-- Is this a look that found a phase? -/
def finds (phase : BuildPhase) : Act → Bool
  | .look (.ok found) => found.phase = phase
  | _ => false

/-- Is this a roll-up with a result? -/
def rollsUpTo (health : Health) : Act → Bool
  | .rollUp (.ok found) => found.health = health
  | _ => false

end Act

/-- The store after the cancellation that belongs to a submission, which is made only if the checks
of the submission pass. -/
def clearedFor (settings : Settings) (request : BuildRequest) (s : Session Store) : Store :=
  match Build.checkRequest request s.now with
  | .error _ => s.cluster
  | .ok () => ((Build.cancel settings request.serviceId).outcome s).2.cluster

/-- What a call does in a state. -/
def actsOfCall (s : Session Store) : Call → List Act
  | .submit settings request =>
    [.submission s.cluster (clearedFor settings request s)
      ((Build.submit settings request).outcome s).2.cluster
      ((Build.submit settings request).outcome s).1]
  | .cancel settings serviceId =>
    [.cancellation s.cluster ((Build.cancel settings serviceId).outcome s).2.cluster]
  | .status ns name => [.look ((status ns name).outcome s).1]
  | .aggregate _ _ => []
  | .health ns selector => [.rollUp ((Health.simpleHealth ns selector).outcome s).1]

/-- What a step does in a state. -/
def Step.acts (s : Session Store) : Step → List Act
  | .outside _ | .clock _ => []
  | .ask call => actsOfCall s call
  | .send settings request =>
    match Http.planOf settings request with
    | .answer _ => []
    | .perform call => actsOfCall s call

/-- What is done in the course of a list of things that happen. -/
def journalOf {α : Type} (apply : Session Store → α → Session Store)
    (acts : Session Store → α → List Act) : Session Store → List α → List Act
  | _, [] => []
  | s, a :: rest => acts s a ++ journalOf apply acts (apply s a) rest

/-- The state of a wait after so many looks. -/
def afterLooks (ns name : String) (meanwhile : Nat → List Step) (s : Session Store) :
    Nat → Session Store
  | 0 => s
  | k + 1 =>
    ((status ns name).outcome
      ((meanwhile k).foldl Step.apply (afterLooks ns name meanwhile s k))).2

/-- What is done before a look of a wait and by the look. -/
def actsOfLook (ns name : String) (meanwhile : Nat → List Step) (s : Session Store) (k : Nat) :
    List Act :=
  let before := afterLooks ns name meanwhile s k
  journalOf Step.apply Step.acts before (meanwhile k) ++
    [.look ((status ns name).outcome ((meanwhile k).foldl Step.apply before)).1]

/-- What an event does in a state: a wait does what its looks do and what happens before them. -/
def Event.acts (s : Session Store) : Event → List Act
  | .once step => step.acts s
  | .wait ns name patience meanwhile =>
    let between := fun k s => (meanwhile k).foldl Step.apply s
    (List.range (Build.await ns name patience between s).1.polls).flatMap
      (actsOfLook ns name meanwhile s)

/-- What is done in the course of a run. -/
def journal (s : Session Store) (events : List Event) : List Act :=
  journalOf Event.apply Event.acts s events

/-! ## Accounts -/

/-- The counters have grown by the acts, and the cancellations among the acts have added one entry to
the deletions for each job that they removed. -/
structure Accounts (acts : List Act) (before after : Counters) : Prop where
  submitted : after.submitted = before.submitted + acts.countP Act.isSubmitted
  canceled : after.canceled = before.canceled + (acts.map Act.removed).sum
  logged : (acts.map Act.removed).sum = (acts.map Act.logged).sum
  polls : ∀ phase, after.polls phase = before.polls phase + acts.countP (Act.finds phase)
  rollups : ∀ health,
    after.rollups health = before.rollups health + acts.countP (Act.rollsUpTo health)

namespace Accounts

theorem nil (counters : Counters) : Accounts [] counters counters where
  submitted := rfl
  canceled := rfl
  logged := rfl
  polls _ := rfl
  rollups _ := rfl

theorem append {acts acts' : List Act} {before between after : Counters}
    (h : Accounts acts before between) (h' : Accounts acts' between after) :
    Accounts (acts ++ acts') before after where
  submitted := by rw [h'.submitted, h.submitted, List.countP_append, Nat.add_assoc]
  canceled := by
    rw [h'.canceled, h.canceled, List.map_append, List.sum_append, Nat.add_assoc]
  logged := by
    rw [List.map_append, List.map_append, List.sum_append, List.sum_append, h.logged, h'.logged]
  polls phase := by rw [h'.polls, h.polls, List.countP_append, Nat.add_assoc]
  rollups health := by rw [h'.rollups, h.rollups, List.countP_append, Nat.add_assoc]

end Accounts

/-- What an act in a state has to be for a run: it is accounted for, and leaves every object where it
belongs. -/
structure Sound (s : Session Store) (acts : List Act) (s' : Session Store) : Prop where
  wellKeyed : s'.cluster.WellKeyed
  accounts : Accounts acts s.counters s'.counters

/-- What holds of every step of a run holds of the run. -/
theorem Sound.foldl {α : Type} {apply : Session Store → α → Session Store}
    {acts : Session Store → α → List Act}
    (hstep : ∀ s a, s.cluster.WellKeyed → Sound s (acts s a) (apply s a)) (l : List α)
    {s : Session Store} (h : s.cluster.WellKeyed) :
    Sound s (journalOf apply acts s l) (l.foldl apply s) := by
  induction l generalizing s with
  | nil => exact ⟨h, .nil s.counters⟩
  | cons a l ih =>
    have hfirst := hstep s a h
    have hrest := ih hfirst.wellKeyed
    exact ⟨hrest.wellKeyed, hfirst.accounts.append hrest.accounts⟩

/-! ## Cancellations and submissions -/

theorem gone_self (s : Store) : gone s s = [] := by
  refine List.filter_eq_nil_iff.2 fun key hkey => ?_
  obtain ⟨e, he, rfl⟩ := List.mem_map.1 hkey
  have hthere : s.jobs.contains e.1 = true :=
    SortedMap.contains_iff.2 ⟨e.2, (SortedMap.mem_entries_iff s.jobs).1 he⟩
  simp [hthere]

/-- The jobs that a clearance removes are the running jobs of the service. -/
theorem gone_cleared (s : Store) (ns serviceId : String) :
    gone s (s.cleared ns serviceId) = (s.runningBuilds ns serviceId).keys := by
  have hgone : ∀ e ∈ s.jobs.entries, ((!(s.cleared ns serviceId).jobs.contains e.1) =
      isRunningBuild ns serviceId e.1 e.2) := by
    intro e he
    have hfind := (SortedMap.mem_entries_iff s.jobs).1 he
    cases hrun : isRunningBuild ns serviceId e.1 e.2 with
    | false =>
      have hkept : (s.cleared ns serviceId).jobs.contains e.1 = true :=
        SortedMap.contains_iff.2 ⟨e.2, Store.find?_jobs_cleared.2 ⟨hfind, hrun⟩⟩
      rw [hkept]
      rfl
    | true =>
      rw [Bool.not_eq_true', ← Bool.not_eq_true, SortedMap.contains_iff]
      rintro ⟨job, hjob⟩
      obtain ⟨hsame, hnot⟩ := Store.find?_jobs_cleared.1 hjob
      obtain rfl := Option.some.inj (hfind.symm.trans hsame)
      rw [hrun] at hnot
      cases hnot
  rw [gone, SortedMap.keys, List.filter_map]
  exact congrArg (List.map _) (List.filter_congr hgone)

theorem length_gone_cleared (s : Store) (ns serviceId : String) :
    (gone s (s.cleared ns serviceId)).length = (s.runningNames ns serviceId).length := by
  rw [gone_cleared, Store.runningNames, List.length_map]

/-- What a cancellation comes to, whether it succeeds or fails: the counter and the deletions grow by
the number of jobs that are gone. -/
structure Cancels (s s' : Session Store) : Prop where
  wellKeyed : s'.cluster.WellKeyed
  counters : s'.counters = s.counters.addCanceled (gone s.cluster s'.cluster).length
  deletions : s'.cluster.deletions.length =
    s.cluster.deletions.length + (gone s.cluster s'.cluster).length

theorem cancels_self {s : Session Store} (h : s.cluster.WellKeyed) : Cancels s s where
  wellKeyed := h
  counters := by rw [gone_self]; rfl
  deletions := by rw [gone_self]; rfl

theorem cancels_outcome {s : Session Store} (h : s.cluster.WellKeyed) (settings : Settings)
    (serviceId : String) : Cancels s ((Build.cancel settings serviceId).outcome s).2 := by
  rcases hcancel : (Build.cancel settings serviceId).outcome s with ⟨e | names, s'⟩
  · obtain ⟨rfl, -⟩ := Build.cancel_store_eq_error h.jobs hcancel
    exact cancels_self h
  · obtain ⟨rfl, rfl⟩ := Build.cancel_store_eq_ok h.jobs hcancel
    exact {
      wellKeyed := h.cleared _ _
      counters := by rw [length_gone_cleared]
      deletions := by rw [length_gone_cleared]; simp [Store.cleared] }

/-- What a submission comes to: a cancellation, or nothing if the checks fail, and then, if it
succeeds, one more job that is counted. -/
theorem submits_outcome {s s' : Session Store} (h : s.cluster.WellKeyed) {settings : Settings}
    {request : BuildRequest} {result : Except Failure String}
    (hsubmit : (Build.submit settings request).outcome s = (result, s')) :
    ∃ s₁, Cancels s s₁ ∧ clearedFor settings request s = s₁.cluster ∧ s'.cluster.WellKeyed ∧
      s'.cluster.deletions = s₁.cluster.deletions ∧
      s'.counters = if result.isOk then s₁.counters.addSubmitted else s₁.counters := by
  rw [Build.outcome_submit] at hsubmit
  rw [clearedFor]
  cases hcheck : Build.checkRequest request s.now with
  | error e =>
    rw [hcheck] at hsubmit
    cases hsubmit
    exact ⟨s, cancels_self h, rfl, h, rfl, rfl⟩
  | ok =>
    rw [hcheck] at hsubmit
    have hcancels := cancels_outcome h settings request.serviceId
    rcases hcancel : (Build.cancel settings request.serviceId).outcome s with ⟨e | names, s₁⟩
    · rw [hcancel] at hcancels hsubmit
      cases hsubmit
      exact ⟨s', hcancels, rfl, hcancels.wellKeyed, rfl, rfl⟩
    · rw [hcancel] at hcancels hsubmit
      dsimp only at hsubmit
      have hchange := hcancels.wellKeyed.apply (.createJob settings.namespace_
        (Build.manifest request (Build.jobName request s.now) s.now settings))
      rw [Store.Change.apply] at hchange
      rcases hcreate : (Cluster.createJob settings.namespace_ (Build.manifest request
        (Build.jobName request s.now) s.now settings)).outcome s₁.cluster with ⟨e | stored, c⟩
      · rw [hcreate] at hsubmit
        cases hsubmit
        obtain ⟨rfl, -⟩ := Build.create_manifest_eq_error hcreate
        exact ⟨s₁, hcancels, rfl, hcancels.wellKeyed, rfl, rfl⟩
      · rw [hcreate] at hchange hsubmit
        cases hsubmit
        refine ⟨s₁, hcancels, rfl, hchange, ?_, rfl⟩
        rw [Build.outcome_create_manifest] at hcreate
        split at hcreate
        · cases hcreate
        · split at hcreate
          · cases hcreate
          · cases hcreate
            rfl

/-! ## One call -/

theorem snd_perform {α : Type} (a : Attempt (Session Store) α) (f : α → Json) (s : Session Store) :
    ((a >>= fun x => pure (f x)).outcome s).2 = (a.outcome s).2 := by
  rw [Attempt.outcome_bind_pure]

theorem sound_submit {s : Session Store} (h : s.cluster.WellKeyed) (settings : Settings)
    (request : BuildRequest) :
    Sound s (actsOfCall s (.submit settings request))
      ((Call.submit settings request).perform s).2 := by
  rw [Call.perform, Call.operation, snd_perform, actsOfCall]
  rcases hsubmit : (Build.submit settings request).outcome s with ⟨result, s'⟩
  obtain ⟨s₁, hcancels, hcleared, hkeyed, hdeletions, hcounters⟩ := submits_outcome h hsubmit
  have hlogged : s'.cluster.deletions.length - s.cluster.deletions.length =
      (gone s.cluster (clearedFor settings request s)).length := by
    rw [hdeletions, hcancels.deletions, hcleared]
    omega
  have hremoved : s₁.counters =
      s.counters.addCanceled (gone s.cluster (clearedFor settings request s)).length := by
    rw [hcleared]
    exact hcancels.counters
  refine ⟨hkeyed, ?_⟩
  rw [hcounters, hremoved]
  cases result with
  | error e =>
    exact ⟨rfl, rfl, congrArg (· + 0) hlogged.symm, fun _ => rfl, fun _ => rfl⟩
  | ok name =>
    exact ⟨rfl, rfl, congrArg (· + 0) hlogged.symm, fun _ => rfl, fun _ => rfl⟩

theorem sound_cancel {s : Session Store} (h : s.cluster.WellKeyed) (settings : Settings)
    (serviceId : String) :
    Sound s (actsOfCall s (.cancel settings serviceId))
      ((Call.cancel settings serviceId).perform s).2 := by
  have hcancels := cancels_outcome h settings serviceId
  rw [Call.perform, Call.operation, snd_perform, actsOfCall]
  have hlogged := Nat.sub_eq_of_eq_add' hcancels.deletions
  refine ⟨hcancels.wellKeyed, ?_⟩
  rw [hcancels.counters]
  exact ⟨rfl, rfl, congrArg (· + 0) hlogged.symm, fun _ => rfl, fun _ => rfl⟩

/-- A look is counted by the phase that it finds. -/
theorem counters_outcome_status (ns name : String) (s : Session Store) :
    ((status ns name).outcome s).2.counters =
      match ((status ns name).outcome s).1 with
      | .ok found => s.counters.addPoll found.phase
      | .error _ => s.counters := by
  rw [Build.outcome_status_store]
  split
  · rfl
  · split <;> rfl

theorem accounts_look (ns name : String) (s : Session Store) :
    Accounts [.look ((status ns name).outcome s).1] s.counters
      ((status ns name).outcome s).2.counters := by
  rw [counters_outcome_status]
  cases ((status ns name).outcome s).1 with
  | error e => exact ⟨rfl, rfl, rfl, fun _ => rfl, fun _ => rfl⟩
  | ok found =>
    refine ⟨rfl, rfl, rfl, fun phase => ?_, fun _ => rfl⟩
    by_cases hphase : found.phase = phase
    · simp [Counters.addPoll, Act.finds, hphase]
    · simp [Counters.addPoll, Act.finds, hphase, Ne.symm hphase]

theorem cluster_outcome_status (ns name : String) (s : Session Store) :
    ((status ns name).outcome s).2.cluster = s.cluster :=
  (Build.Scene.mk.inj (Build.sceneOf_outcome_status ns name s)).1

/-- A roll-up is counted by the health that it finds. -/
theorem outcome_simpleHealth_snd (ns : String) (selector : Selector) (s : Session Store) :
    ((Health.simpleHealth ns selector).outcome s).2 =
      match ((Health.simpleHealth ns selector).outcome s).1 with
      | .ok found => { s with counters := s.counters.addRollup found.health }
      | .error _ => s := by
  rw [Health.outcome_simpleHealth_store]
  split
  · rfl
  · split <;> rfl

theorem sound_health {s : Session Store} (h : s.cluster.WellKeyed) (ns : String)
    (selector : Selector) :
    Sound s (actsOfCall s (.health ns selector)) ((Call.health ns selector).perform s).2 := by
  rw [Call.perform, Call.operation, snd_perform, actsOfCall, outcome_simpleHealth_snd]
  cases ((Health.simpleHealth ns selector).outcome s).1 with
  | error e => exact ⟨h, rfl, rfl, rfl, fun _ => rfl, fun _ => rfl⟩
  | ok found =>
    refine ⟨h, rfl, rfl, rfl, fun _ => rfl, fun health => ?_⟩
    by_cases hhealth : found.health = health
    · simp [Counters.addRollup, Act.rollsUpTo, hhealth]
    · simp [Counters.addRollup, Act.rollsUpTo, hhealth, Ne.symm hhealth]

theorem sound_call {s : Session Store} (h : s.cluster.WellKeyed) (call : Call) :
    Sound s (actsOfCall s call) (call.perform s).2 := by
  cases call with
  | submit settings request => exact sound_submit h settings request
  | cancel settings serviceId => exact sound_cancel h settings serviceId
  | status ns name =>
    rw [Call.perform, Call.operation, snd_perform, actsOfCall]
    refine ⟨?_, accounts_look ns name s⟩
    rw [cluster_outcome_status]
    exact h
  | aggregate ns selector =>
    rw [Call.perform, Call.operation, snd_perform, actsOfCall, Health.outcome_aggregate_store]
    exact ⟨h, .nil s.counters⟩
  | health ns selector => exact sound_health h ns selector

/-! ## Steps, waits and runs -/

theorem sound_step {s : Session Store} (step : Step) (h : s.cluster.WellKeyed) :
    Sound s (step.acts s) (step.apply s) := by
  cases step with
  | outside change => exact ⟨h.apply change, .nil s.counters⟩
  | clock now => exact ⟨h, .nil s.counters⟩
  | ask call => exact sound_call h call
  | send settings request =>
    rw [Step.apply, Http.respond_eq, Step.acts]
    cases Http.planOf settings request with
    | answer response => exact ⟨h, .nil s.counters⟩
    | perform call => exact sound_call h call

section Wait

variable {ns name : String} {meanwhile : Nat → List Step}

/-- What happens up to a look of a wait, and the look, are accounted for. -/
theorem sound_look {s : Session Store} (k : Nat)
    (h : (afterLooks ns name meanwhile s k).cluster.WellKeyed) :
    Sound (afterLooks ns name meanwhile s k) (actsOfLook ns name meanwhile s k)
      (afterLooks ns name meanwhile s (k + 1)) := by
  have hbefore := Sound.foldl (fun _ step => sound_step step) (meanwhile k) h
  refine ⟨?_, hbefore.accounts.append (accounts_look ns name _)⟩
  rw [afterLooks, cluster_outcome_status]
  exact hbefore.wellKeyed

theorem sound_looks {s : Session Store} (h : s.cluster.WellKeyed) (n : Nat) :
    Sound s ((List.range n).flatMap (actsOfLook ns name meanwhile s))
      (afterLooks ns name meanwhile s n) := by
  induction n with
  | zero => exact ⟨h, .nil s.counters⟩
  | succ n ih =>
    have hlook := sound_look n ih.wellKeyed
    rw [List.range_succ, List.flatMap_append, List.flatMap_singleton]
    exact ⟨hlook.wellKeyed, ih.accounts.append hlook.accounts⟩

end Wait

/-- A wait leaves the state that its looks lead to. -/
theorem snd_awaitFrom (ns name : String) (patience : Patience) (meanwhile : Nat → List Step)
    (s : Session Store) (k : Nat) :
    let between := fun k s => (meanwhile k).foldl Step.apply s
    let awaited := Build.awaitFrom ns name patience between k (afterLooks ns name meanwhile s k)
    awaited.2 = afterLooks ns name meanwhile s awaited.1.polls := by
  intro between awaited
  by_cases hdue : patience.ticker.due k ≤ patience.timeout
  · by_cases hfinal : Build.isFinal ((status ns name).outcome
        (between k (afterLooks ns name meanwhile s k))).1 = true
    · simp only [awaited, Build.awaitFrom_final hdue hfinal]
      rfl
    · simp only [awaited, Build.awaitFrom_open hdue hfinal]
      exact snd_awaitFrom ns name patience meanwhile s (k + 1)
  · simp only [awaited, Build.awaitFrom_late (Nat.lt_of_not_le hdue)]
-- the time that is left, as in the wait itself
termination_by patience.timeout + 1 - patience.ticker.due k
decreasing_by
  have hlater := patience.ticker.due_lt_due_succ k
  omega

theorem sound_event {s : Session Store} (event : Event) (h : s.cluster.WellKeyed) :
    Sound s (event.acts s) (event.apply s) := by
  cases event with
  | once step => exact sound_step step h
  | wait ns name patience meanwhile =>
    have hstate := snd_awaitFrom ns name patience meanwhile s 0
    rw [Event.apply, Event.acts, Build.await]
    exact hstate ▸ sound_looks h _

/-! ## The counters of a run -/

/-- Does the step ask for something that fails? A request fails unless the status of its response
reports success. -/
def Step.Fails (s : Session Store) : Step → Prop
  | .outside _ | .clock _ => False
  | .ask call => ∃ e, (call.perform s).1 = .error e
  | .send settings request => Http.isSuccessCode (Http.respond settings request s).1.status = false

/-- What fails has neither found a phase nor come to a health. -/
theorem acts_of_failed_call {s : Session Store} {call : Call} {e : Failure}
    (h : (call.perform s).1 = .error e) :
    ∀ act ∈ actsOfCall s call,
      (∀ phase, Act.finds phase act = false) ∧ ∀ health, Act.rollsUpTo health act = false := by
  intro act hact
  cases call with
  | submit settings request =>
    obtain rfl := List.mem_singleton.1 hact
    exact ⟨fun _ => rfl, fun _ => rfl⟩
  | cancel settings serviceId =>
    obtain rfl := List.mem_singleton.1 hact
    exact ⟨fun _ => rfl, fun _ => rfl⟩
  | status ns name =>
    obtain rfl := List.mem_singleton.1 hact
    rw [Call.perform, Call.operation, Attempt.outcome_bind_pure] at h
    cases hlook : ((status ns name).outcome s).1 with
    | error e => exact ⟨fun _ => rfl, fun _ => rfl⟩
    | ok found =>
      rw [hlook] at h
      cases h
  | aggregate ns selector => exact absurd hact List.not_mem_nil
  | health ns selector =>
    obtain rfl := List.mem_singleton.1 hact
    rw [Call.perform, Call.operation, Attempt.outcome_bind_pure] at h
    cases hrollup : ((Health.simpleHealth ns selector).outcome s).1 with
    | error e => exact ⟨fun _ => rfl, fun _ => rfl⟩
    | ok found =>
      rw [hrollup] at h
      cases h

theorem acts_of_failed_step {s : Session Store} {step : Step} (h : step.Fails s) :
    ∀ act ∈ step.acts s,
      (∀ phase, Act.finds phase act = false) ∧ ∀ health, Act.rollsUpTo health act = false := by
  cases step with
  | outside change => exact h.elim
  | clock now => exact h.elim
  | ask call =>
    obtain ⟨e, he⟩ := h
    exact acts_of_failed_call he
  | send settings request =>
    rw [Step.Fails, Http.status_respond] at h
    rw [Step.acts]
    cases hplan : Http.planOf settings request with
    | answer response =>
      intro act hact
      cases hact
    | perform call =>
      rw [hplan, Http.Plan.run] at h
      cases hresult : (call.perform s).1 with
      | error e => exact acts_of_failed_call hresult
      | ok answer =>
        -- the response to a call that succeeds reports success
        rw [hresult] at h
        exact absurd call.isSuccessCode_okStatus (Bool.eq_false_iff.1 h)

/-- **The counters account for every run.** Start with an empty store and counters at zero, and let
anything happen, as often as one likes: changes from outside, calls, requests to the server, and waits
in the midst of all this. Then as many builds count as submitted as there were submissions that
succeeded; as many jobs count as canceled as the cancellations have removed, those of submissions that
failed afterwards included, and that is how many entries they have added to the deletions; every phase
counts as often as a look has found it; and every health counts as often as a roll-up has come to it.
What fails next, asked for directly or through the server, leaves the last two alone. -/
theorem counters_eq_journal (events : List Event) (now : Instant) :
    let start : Session Store := { cluster := {}, now }
    let acts := journal start events
    let s := run start events
    s.counters.submitted = acts.countP Act.isSubmitted ∧
    s.counters.canceled = (acts.map Act.removed).sum ∧
    s.counters.canceled = (acts.map Act.logged).sum ∧
    (∀ phase, s.counters.polls phase = acts.countP (Act.finds phase)) ∧
    (∀ health, s.counters.rollups health = acts.countP (Act.rollsUpTo health)) ∧
    ∀ step : Step, step.Fails s →
      (step.apply s).counters.polls = s.counters.polls ∧
        (step.apply s).counters.rollups = s.counters.rollups := by
  intro start acts s
  have hsound : Sound start acts s :=
    Sound.foldl (fun _ event => sound_event event) events Store.wellKeyed_empty
  obtain ⟨hkeyed, haccounts⟩ := hsound
  have hcanceled : s.counters.canceled = (acts.map Act.removed).sum := by
    rw [haccounts.canceled]
    exact Nat.zero_add _
  refine ⟨?_, hcanceled, hcanceled.trans haccounts.logged, fun phase => ?_, fun health => ?_,
    fun step hfails => ?_⟩
  · rw [haccounts.submitted]
    exact Nat.zero_add _
  · rw [haccounts.polls]
    exact Nat.zero_add _
  · rw [haccounts.rollups]
    exact Nat.zero_add _
  · have hnone := acts_of_failed_step hfails
    have hstep := (sound_step step hkeyed).accounts
    refine ⟨funext fun phase => ?_, funext fun health => ?_⟩
    · rw [hstep.polls, List.countP_eq_zero.2 fun act hact => by rw [(hnone act hact).1]; simp]
      rfl
    · rw [hstep.rollups, List.countP_eq_zero.2 fun act hact => by rw [(hnone act hact).2]; simp]
      rfl

/-- A build that runs makes room for a new one, the new one is looked at, and then the old one, which is
gone. -/
theorem counters_eq_journal_replacedYard :
    let s := run { cluster := {}, now := .epoch } [
      .once (.outside (.insertJob (Build.plainJob "old" "svc" 1))),
      .once (.ask (.submit {} { serviceId := "svc", jobId := "new" })),
      .once (.ask (.status "unbind-system" "new-deployment-0"))]
    let step := Step.ask (.status "unbind-system" "old")
    s.counters.submitted = 1 ∧ s.counters.canceled = 1 ∧ s.counters.polls .pending = 1 ∧
      step.Fails s ∧ (step.apply s).counters.polls = s.counters.polls := by
  intro s step
  obtain ⟨hsubmitted, hcanceled, -, hpolls, -, hfailed⟩ := counters_eq_journal [
    .once (.outside (.insertJob (Build.plainJob "old" "svc" 1))),
    .once (.ask (.submit {} { serviceId := "svc", jobId := "new" })),
    .once (.ask (.status "unbind-system" "new-deployment-0"))] .epoch
  have hfails : step.Fails s := ⟨_, rfl⟩
  exact ⟨hsubmitted, hcanceled, hpolls .pending, hfails, (hfailed step hfails).1⟩

end BuildYard.Service
