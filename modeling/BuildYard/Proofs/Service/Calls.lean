import BuildYard.Http.Answer
import BuildYard.Proofs.Cluster.Keys
/-!
# Calls, requests and steps

The server is a thin layer: to some requests it answers with nothing but the counters at hand, and
every other request is exactly one call of an operation. `planOf` says which, from the settings and the
request alone, and `respond_eq` says that a request is answered by its plan.

A `Step` is one thing that can happen to a build yard over a store.
-/

namespace BuildYard

open Http (Response)

/-! ## Calls -/

/-- A call of one of the operations of the build yard. -/
inductive Call where
  | submit (settings : Settings) (request : BuildRequest)
  | cancel (settings : Settings) (serviceId : String)
  | status (ns name : String)
  | aggregate (ns : String) (selector : Selector)
  | health (ns : String) (selector : Selector)

namespace Call

variable {σ : Type} [Cluster σ]

/-- The operation that a call performs, with its answer as the server gives it. -/
def operation : Call → Attempt (Session σ) Json
  | .submit settings request => do
    return .obj [("job_name", .str (← Build.submit settings request))]
  | .cancel settings serviceId => do
    return .obj [("canceled", .ofTexts (← Build.cancel settings serviceId))]
  | .status ns name => do return (← Build.status ns name).toJson
  | .aggregate ns selector => do
    return .arr ((← Health.aggregate ns selector).map PodView.toJson)
  | .health ns selector => do return (← Health.simpleHealth ns selector).toJson

/-- The status of the response to a call that succeeds. -/
def okStatus : Call → Nat
  | .submit _ _ => 201
  | .cancel _ _ | .status _ _ | .aggregate _ _ | .health _ _ => 200

theorem isSuccessCode_okStatus (call : Call) : Http.isSuccessCode call.okStatus = true := by
  cases call <;> rfl

/-- The answer to a call and the state after it. -/
def perform (call : Call) (s : Session σ) : Except Failure Json × Session σ :=
  (call.operation).outcome s

end Call

/-! ## Plans -/

namespace Http

/-- What the server does with a request: it answers at once, or it performs a call. -/
inductive Plan where
  | answer (response : Counters → Response)
  | perform (call : Call)

/-- The plan that refuses a request. -/
def Plan.refuse (status : Nat) : Plan := .answer fun _ => ⟨status, .nothing⟩

/-- The plan for a segment that varies, if it is well-formed. -/
def Plan.withSegment (segment : List Char) (plan : String → Plan) : Plan :=
  match Text.ofSegment? segment with
  | some text => plan (String.ofList text)
  | none => .refuse 400

/-- The plan for the pods of a namespace behind the selector in the query. -/
def Plan.withPods (request : Request) (ns : List Char) (call : String → Selector → Call) : Plan :=
  .withSegment ns fun ns =>
    match selectorText? request.target.query with
    | none => .refuse 400
    | some text =>
      match Selector.parse (String.ofList text) with
      | .error e => .answer fun _ => .ofFailure e
      | .ok selector => .perform (call ns selector)

/-- The plan of a route for a request with a method that it serves. -/
def Route.plan (settings : Settings) (request : Request) : Route → Plan
  | .health => .answer fun _ => .ofJson 200 (.obj [("status", .str "healthy")])
  | .metrics => .answer fun counters => ⟨200, .text (some counters.text)⟩
  | .deployments =>
    match submissionOf request with
    | .error status => .refuse status
    | .ok submission => .perform (.submit settings submission.toRequest)
  | .serviceJobs serviceId =>
    .withSegment serviceId fun serviceId => .perform (.cancel settings serviceId)
  | .jobStatus jobName =>
    .withSegment jobName fun jobName => .perform (.status settings.namespace_ jobName)
  | .namespacePods ns => .withPods request ns .aggregate
  | .namespaceHealth ns => .withPods request ns .health

/-- The plan for a request. -/
def planOf (settings : Settings) (request : Request) : Plan :=
  match Route.of? request.target.path with
  | none => .refuse 404
  | some route => if route.serves request.method then route.plan settings request else .refuse 405

variable {σ : Type}

/-- The response that a plan gives, and the state after it. -/
def Plan.run [Cluster σ] (s : Session σ) : Plan → Response × Session σ
  | .answer response => (response s.counters, s)
  | .perform call => (.ofResult call.okStatus id (call.perform s).1, (call.perform s).2)

/-! ## The plan is what happens -/

theorem perform_eq {α : Type} (status : Nat) (toJson : α → Json) (a : Attempt (Session σ) α)
    (s : Session σ) :
    Http.perform status toJson a s =
      (.ofResult status id ((a >>= fun x => pure (toJson x)).outcome s).1,
        ((a >>= fun x => pure (toJson x)).outcome s).2) := by
  rw [Http.perform, Attempt.outcome_bind_pure]
  rcases a.outcome s with ⟨_ | _, _⟩ <;> rfl

variable [Cluster σ]

theorem withSegment_eq {segment : List Char}
    {answer : String → Session σ → Response × Session σ} {plan : String → Plan}
    (h : ∀ text s, answer text s = (plan text).run s) (s : Session σ) :
    withSegment segment answer s = (Plan.withSegment segment plan).run s := by
  unfold withSegment Plan.withSegment
  cases Text.ofSegment? segment with
  | none => rfl
  | some text => exact h (String.ofList text) s

theorem withPods_eq {α : Type} {request : Request} {ns : List Char} {toJson : α → Json}
    {operation : String → Selector → Attempt (Session σ) α} {call : String → Selector → Call}
    (hcall : ∀ ns selector s, Http.perform 200 toJson (operation ns selector) s =
      (Plan.perform (call ns selector)).run s) (s : Session σ) :
    withPods request ns toJson operation s = (Plan.withPods request ns call).run s := by
  refine withSegment_eq (fun text s => ?_) s
  cases selectorText? request.target.query with
  | none => rfl
  | some query =>
    dsimp only
    cases Selector.parse (String.ofList query) with
    | error e => rfl
    | ok selector => exact hcall text selector s

theorem answer_eq (settings : Settings) (request : Request) (route : Route) (s : Session σ) :
    route.answer settings request s = (route.plan settings request).run s := by
  cases route with
  | health => rfl
  | metrics => rfl
  | deployments =>
    unfold Route.answer Route.plan
    cases submissionOf request with
    | error status => rfl
    | ok submission => exact perform_eq ..
  | serviceJobs serviceId =>
    rw [Route.answer, Route.plan]
    exact withSegment_eq (fun _ _ => perform_eq ..) s
  | jobStatus jobName =>
    rw [Route.answer, Route.plan]
    exact withSegment_eq (fun _ _ => perform_eq ..) s
  | namespacePods ns => exact withPods_eq (fun _ _ _ => perform_eq ..) s
  | namespaceHealth ns => exact withPods_eq (fun _ _ _ => perform_eq ..) s

/-- **A request is answered by its plan**, without the body if only the head is asked for. -/
theorem respond_eq (settings : Settings) (request : Request) (s : Session σ) :
    respond settings request s =
      (if request.method = .head then ((planOf settings request).run s).1.headOnly
        else ((planOf settings request).run s).1, ((planOf settings request).run s).2) := by
  unfold respond planOf
  cases Route.of? request.target.path with
  | none => exact Prod.ext (ite_self _).symm rfl
  | some route =>
    dsimp only
    by_cases hserves : route.serves request.method = true
    · rw [if_pos hserves, if_pos hserves, answer_eq]
    · rw [if_neg hserves, if_neg hserves]
      exact Prod.ext (ite_self _).symm rfl

theorem status_respond (settings : Settings) (request : Request) (s : Session σ) :
    (respond settings request s).1.status = ((planOf settings request).run s).1.status := by
  rw [respond_eq]
  dsimp only
  split <;> rfl

end Http

/-! ## Steps -/

namespace Service

/-- One thing that happens: the store or the clock is changed from outside, or a caller asks for
something, directly or through the server. -/
inductive Step where
  | outside (change : Store.Change)
  | clock (now : Instant)
  | ask (call : Call)
  | send (settings : Settings) (request : Http.Request)

/-- The state after a step. -/
def Step.apply (s : Session Store) : Step → Session Store
  | .outside change => { s with cluster := change.apply s.cluster }
  | .clock now => { s with now }
  | .ask call => (call.perform s).2
  | .send settings request => (Http.respond settings request s).2

end Service

end BuildYard
