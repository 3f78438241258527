import BuildYard.Build.Dispatch
import BuildYard.Build.Tracking
import BuildYard.Health.Workload
import BuildYard.Http.MediaType
import BuildYard.Http.Route
import BuildYard.Http.Submission
/-!
# Answers

How the server answers a request. An operation that fails is answered with the status of its
failure and the text of it; a request that never gets to an operation is answered with a status
alone. The texts that the server's library adds to these refusals (which segment, query or body it
could not read, and where) are left out.
-/

namespace BuildYard.Http

variable {σ : Type} [Cluster σ]

/-- The most octets that the body of a request may have. -/
def maxBodyOctets : Nat := 2 * 1024 * 1024

/-- The submission that a request brings, or the status that refuses it. -/
def submissionOf (request : Request) : Except Nat Submission :=
  let isJson := (request.contentType.bind (MediaType.of? ·.toList)).any (·.isJson)
  if !isJson then .error 415
  else if maxBodyOctets < request.body.utf8ByteSize then .error 413
  else (Submission.read request.body).mapError Submission.statusOf

/-- Runs an operation and makes a response of the answer. -/
def perform {α : Type} (status : Nat) (toJson : α → Json) (operation : Attempt (Session σ) α)
    (s : Session σ) : Response × Session σ :=
  let (r, s') := operation.outcome s
  (.ofResult status toJson r, s')

/-- The answer of a route with a segment that varies; a segment that is not well-formed is
refused. -/
def withSegment (segment : List Char) (answer : String → Session σ → Response × Session σ)
    (s : Session σ) : Response × Session σ :=
  match Text.ofSegment? segment with
  | some text => answer (String.ofList text) s
  | none => (⟨400, .nothing⟩, s)

/-- The answer of a route that asks for the pods of a namespace behind the selector in the query. -/
def withPods {α : Type} (request : Request) (ns : List Char) (toJson : α → Json)
    (operation : String → Selector → Attempt (Session σ) α) :
    Session σ → Response × Session σ :=
  withSegment ns fun ns s =>
    match selectorText? request.target.query with
    | none => (⟨400, .nothing⟩, s)
    | some text =>
      perform 200 toJson (do
        let selector ← Attempt.ofResult (Selector.parse (String.ofList text))
        operation ns selector) s

/-- The answer of a route to a request with a method that it serves. -/
def Route.answer (settings : Settings) (request : Request) :
    Route → Session σ → Response × Session σ
  | .health, s => (.ofJson 200 (.obj [("status", .str "healthy")]), s)
  | .metrics, s => (⟨200, .text (some s.counters.text)⟩, s)
  | .deployments, s =>
    match submissionOf request with
    | .error status => (⟨status, .nothing⟩, s)
    | .ok submission =>
      perform 201 (fun name => .obj [("job_name", .str name)])
        (Build.submit settings submission.toRequest) s
  | .serviceJobs serviceId, s =>
    withSegment serviceId (fun serviceId =>
      perform 200 (fun names => .obj [("canceled", .ofTexts names)])
        (Build.cancel settings serviceId)) s
  | .jobStatus jobName, s =>
    withSegment jobName (fun jobName =>
      perform 200 BuildStatus.toJson (Build.status settings.namespace_ jobName)) s
  | .namespacePods ns, s =>
    withPods request ns (fun pods => .arr (pods.map PodView.toJson)) Health.aggregate s
  | .namespaceHealth ns, s => withPods request ns HealthSummary.toJson Health.simpleHealth s

/-- The response to a request. -/
def respond (settings : Settings) (request : Request) (s : Session σ) : Response × Session σ :=
  match Route.of? request.target.path with
  | none => (⟨404, .nothing⟩, s)
  | some route =>
    if route.serves request.method then
      let (response, s') := route.answer settings request s
      (if request.method = .head then response.headOnly else response, s')
    else (⟨405, .nothing⟩, s)

end BuildYard.Http
