import BuildYard.Proofs.Http.Submissions
import BuildYard.Proofs.Service.Secrecy
import Mathlib.Data.List.Forall2
import Mathlib.Data.String.Basic
/-!
# Runs that differ in secrets

Two runs get the same requests from outside, except that the database and the values of the variables
in the bodies may differ. This file shows that nobody who looks on can tell one run from the other, as
long as the server takes the bodies of both or turns away both for their size. What is seen of a
refusal that comes before any operation is its status; the library's text for it, which says where in a
body the reading ended, is left out of responses.

* `Request.Alike`, `Plan.Alike`, `planOf_alike`: requests that differ in secrets have plans that differ
  in secrets.
* `Step.Alike.apply`: one step tells the same and leaves states that look the same.
* `observed_eq_of_alike`: so a whole run shows the same, if the values are texts.
* `not_observed_eq_numberOrLargeText`: a value that is no text shows, and so does one that makes the body
  too large.
-/

namespace BuildYard

open Json (Written)

/-! ## Requests -/

namespace Http

/-- Two bodies are the same, or JSON that stands for the same value once the values of variables are
hidden. -/
inductive AlikeBodies (hide : Written → Written) : String → String → Prop where
  | same (body : String) : AlikeBodies hide body body
  | json {body body' : String} {w w' : Written} (h : Json.Stands body w) (h' : Json.Stands body' w')
      (hw : Submission.concealed hide w = Submission.concealed hide w') :
      AlikeBodies hide body body'

/-- Two requests are the same once the values of variables in their bodies are hidden. -/
structure Request.Alike (hide : Written → Written) (request request' : Request) : Prop where
  method : request.method = request'.method
  target : request.target = request'.target
  contentType : request.contentType = request'.contentType
  body : AlikeBodies hide request.body request'.body

/-- Is the body of a request too large for the server? -/
def Request.isTooLarge (request : Request) : Bool := maxBodyOctets < request.body.utf8ByteSize

theorem read_alike {body body' : String} (h : AlikeBodies Submission.hideText body body') :
    (Submission.read body).map Submission.withoutValues =
      (Submission.read body').map Submission.withoutValues := by
  cases h with
  | same => rfl
  | json h h' hw =>
    rw [Submission.read_eq_ofWritten h, Submission.read_eq_ofWritten h',
      ← Submission.ofWritten_concealed, hw, Submission.ofWritten_concealed]

/-- Plans that answer the same, or perform calls that differ in secrets. -/
inductive Plan.Alike : Plan → Plan → Prop where
  | answer (response : Counters → Response) : Plan.Alike (.answer response) (.answer response)
  | perform {call call' : Call} (h : Call.Alike call call') :
      Plan.Alike (.perform call) (.perform call')

theorem Plan.Alike.refl (plan : Plan) : Plan.Alike plan plan := by
  cases plan with
  | answer response => exact .answer response
  | perform call => exact .perform (.same call)

theorem withoutValues_toRequest (submission : Submission) :
    submission.withoutValues.toRequest = submission.toRequest.withoutValues := by
  obtain ⟨serviceId, jobId, env, _ | triggerSource⟩ := submission <;> rfl

variable {settings settings' : Settings} {request request' : Request}

/-- Requests that differ in secrets bring submissions that differ in secrets, or are refused alike. -/
theorem submissionOf_alike (hrequest : Request.Alike Submission.hideText request request')
    (hsize : request.isTooLarge = request'.isTooLarge) :
    (submissionOf request).map Submission.withoutValues =
      (submissionOf request').map Submission.withoutValues := by
  have hlarge : maxBodyOctets < request.body.utf8ByteSize ↔
      maxBodyOctets < request'.body.utf8ByteSize := decide_eq_decide.1 hsize
  have hread := read_alike hrequest.body
  unfold submissionOf
  simp only [hrequest.contentType, hlarge]
  split
  · rfl
  split
  · rfl
  · rcases hfirst : Submission.read request.body with e | submission <;>
      rcases hsecond : Submission.read request'.body with e' | submission' <;>
      rw [hfirst, hsecond] at hread
    · exact congrArg (fun e => Except.error (Submission.statusOf e)) (Except.error.inj hread)
    · cases hread
    · cases hread
    · exact congrArg Except.ok (Except.ok.inj hread)

theorem plan_deployments_alike (hsettings : settings.withoutDatabase = settings'.withoutDatabase)
    (hrequest : Request.Alike Submission.hideText request request')
    (hsize : request.isTooLarge = request'.isTooLarge) :
    Plan.Alike (Route.plan settings request .deployments)
      (Route.plan settings' request' .deployments) := by
  have hsubmission := submissionOf_alike hrequest hsize
  unfold Route.plan
  rcases hfirst : submissionOf request with status | submission <;>
    rcases hsecond : submissionOf request' with status' | submission' <;>
    rw [hfirst, hsecond] at hsubmission
  · obtain rfl : status = status' := Except.error.inj hsubmission
    exact .refl _
  · cases hsubmission
  · cases hsubmission
  · have hvalues : submission.withoutValues = submission'.withoutValues := Except.ok.inj hsubmission
    refine .perform (.submits hsettings ?_)
    rw [← withoutValues_toRequest, hvalues, withoutValues_toRequest]

theorem withSegment_alike {segment : List Char} {plan plan' : String → Plan}
    (h : ∀ text, Plan.Alike (plan text) (plan' text)) :
    Plan.Alike (Plan.withSegment segment plan) (Plan.withSegment segment plan') := by
  unfold Plan.withSegment
  split
  · exact h _
  · exact .refl _

/-- **Requests that differ in secrets have plans that differ in secrets.** -/
theorem planOf_alike (hsettings : settings.withoutDatabase = settings'.withoutDatabase)
    (hrequest : Request.Alike Submission.hideText request request')
    (hsize : request.isTooLarge = request'.isTooLarge) :
    Plan.Alike (planOf settings request) (planOf settings' request') := by
  obtain ⟨-, hnamespace, -, -, -⟩ := Settings.mk.inj hsettings
  unfold planOf
  rw [hrequest.target, hrequest.method]
  split
  · exact .refl _
  split
  · rename_i route _ _
    cases route with
    | health => exact .refl _
    | metrics => exact .refl _
    | deployments => exact plan_deployments_alike hsettings hrequest hsize
    | serviceJobs serviceId =>
      rw [Route.plan, Route.plan]
      exact withSegment_alike fun _ => .perform (.cancels _ hsettings)
    | jobStatus jobName =>
      rw [Route.plan, Route.plan, hnamespace]
      exact .refl _
    | namespacePods ns =>
      rw [Route.plan, Route.plan, Plan.withPods, Plan.withPods, hrequest.target]
      exact .refl _
    | namespaceHealth ns =>
      rw [Route.plan, Route.plan, Plan.withPods, Plan.withPods, hrequest.target]
      exact .refl _
  · exact .refl _

/-! ## Responses -/

theorem okStatus_alike {call call' : Call} (h : Call.Alike call call') :
    call.okStatus = call'.okStatus := by
  cases h <;> rfl

/-- Calls that differ in secrets give the same answer in states that look the same, and leave such. -/
theorem perform_alike {call call' : Call} (h : Call.Alike call call') {s s' : Session Store}
    (hs : Build.seen s = Build.seen s') :
    (call.perform s).1 = (call'.perform s').1 ∧
      Build.seen (call.perform s).2 = Build.seen (call'.perform s').2 := by
  obtain ⟨hresult, hstate⟩ := alike_operation h s s' hs
  rw [Attempt.Alike.map_id, Attempt.Alike.map_id] at hresult
  exact ⟨hresult, hstate⟩

theorem run_alike {plan plan' : Plan} (h : Plan.Alike plan plan') {s s' : Session Store}
    (hs : Build.seen s = Build.seen s') :
    (plan.run s).1 = (plan'.run s').1 ∧ Build.seen (plan.run s).2 = Build.seen (plan'.run s').2 := by
  cases h with
  | answer response =>
    have hcounters : s.counters = s'.counters := (Session.mk.inj hs).2.1
    refine ⟨?_, hs⟩
    rw [Plan.run, Plan.run, hcounters]
  | perform hcall =>
    obtain ⟨hresult, hstate⟩ := perform_alike hcall hs
    refine ⟨?_, hstate⟩
    rw [Plan.run, Plan.run, okStatus_alike hcall, hresult]

/-- **Requests that differ in secrets are answered the same.** -/
theorem respond_alike (hsettings : settings.withoutDatabase = settings'.withoutDatabase)
    (hrequest : Request.Alike Submission.hideText request request')
    (hsize : request.isTooLarge = request'.isTooLarge)
    {s s' : Session Store} (hs : Build.seen s = Build.seen s') :
    (respond settings request s).1 = (respond settings' request' s').1 ∧
      Build.seen (respond settings request s).2 = Build.seen (respond settings' request' s').2 := by
  obtain ⟨hresponse, hstate⟩ := run_alike (planOf_alike hsettings hrequest hsize) hs
  rw [respond_eq, respond_eq, hresponse, hrequest.method]
  exact ⟨rfl, hstate⟩

end Http

/-! ## Changes from outside -/

namespace Store

theorem insertJob_seen (s : Store) (job : Job) :
    s.seen.insertJob job.withoutTemplate = (s.insertJob job).seen := by
  simp only [insertJob, seen, SortedMap.map_insert]
  rfl

theorem setJobStatus_seen (s : Store) (ns name : String) (status : JobStatus) :
    s.seen.setJobStatus ns name status = (s.setJobStatus ns name status).map seen := by
  have hfind : s.seen.jobs.find? ⟨ns, name⟩ =
      (s.jobs.find? ⟨ns, name⟩).map Job.withoutTemplate := SortedMap.find?_map ..
  unfold setJobStatus
  rw [hfind]
  cases s.jobs.find? ⟨ns, name⟩ with
  | none => rfl
  | some job =>
    simp only [Option.map_some, Except.map, seen, SortedMap.map_insert]
    rfl

/-- A change from outside leaves stores that look the same. -/
theorem seen_apply (change : Change) {s s' : Store} (hs : s.seen = s'.seen) :
    (change.apply s).seen = (change.apply s').seen := by
  cases change with
  | insertJob job =>
    rw [Change.apply, Change.apply, ← insertJob_seen, ← insertJob_seen, hs]
  | insertPod pod => exact congrArg (fun s => s.insertPod pod) hs
  | insertScaledSet kind set => exact congrArg (fun s => s.insertScaledSet kind set) hs
  | insertDaemonSet set => exact congrArg (fun s => s.insertDaemonSet set) hs
  | fail operation message => exact congrArg (fun s => s.fail operation message) hs
  | setJobStatus ns name status =>
    have hstatus : (s.setJobStatus ns name status).map seen =
        (s'.setJobStatus ns name status).map seen := by
      rw [← setJobStatus_seen, ← setJobStatus_seen, hs]
    rw [Change.apply, Change.apply]
    rcases h : s.setJobStatus ns name status with e | t <;>
      rcases h' : s'.setJobStatus ns name status with e' | t' <;> rw [h, h'] at hstatus
    · exact hs
    · cases hstatus
    · cases hstatus
    · exact Except.ok.inj hstatus
  | createJob ns job => exact (alike_createJob ns rfl s s' hs).2
  | deleteJob ns name propagation => exact (alike_deleteJob ns name propagation s s' hs).2

end Store

/-! ## Runs -/

namespace Service

open Http.Submission (hideText)

/-- Two steps are the same but for the database that the server is set up with and, once hidden, the
values of variables. -/
inductive Step.Alike (hide : Written → Written) : Step → Step → Prop where
  | outside (change : Store.Change) : Step.Alike hide (.outside change) (.outside change)
  | clock (now : Instant) : Step.Alike hide (.clock now) (.clock now)
  | ask {call call' : Call} (h : Call.Alike call call') : Step.Alike hide (.ask call) (.ask call')
  | send {settings settings' : Settings} {request request' : Http.Request}
      (hsettings : settings.withoutDatabase = settings'.withoutDatabase)
      (hrequest : request.Alike hide request') :
      Step.Alike hide (.send settings request) (.send settings' request')

/-- Is the step a request with a body that is too large for the server? -/
def Step.isTooLarge : Step → Bool
  | .send _ request => request.isTooLarge
  | .outside _ | .clock _ | .ask _ => false

/-- What somebody is told in a step. -/
inductive Told where
  | nothing
  | result (result : Except Failure Json)
  | response (response : Http.Response)

/-- What is told in a step from a state. -/
def Step.told (s : Session Store) : Step → Told
  | .outside _ | .clock _ => .nothing
  | .ask call => .result (call.perform s).1
  | .send settings request => .response (Http.respond settings request s).1

/-- What can be observed of a step: what is told, and then the jobs that are stored, with their
statuses, and the deletions. -/
structure Observation where
  told : Told
  jobs : List (ObjectKey × Option JobStatus)
  deletions : List (String × Propagation)

/-- What can be observed of a step from a state. -/
def observe (s : Session Store) (step : Step) : Observation where
  told := step.told s
  jobs := (step.apply s).cluster.jobs.entries.map fun e => (e.1, e.2.status)
  deletions := (step.apply s).cluster.deletions

/-- What can be observed of steps, one after the other. -/
def observed : Session Store → List Step → List Observation
  | _, [] => []
  | s, step :: steps => observe s step :: observed (step.apply s) steps

/-- The jobs of a store with their statuses are seen. -/
theorem statuses_seen (s : Store) :
    s.seen.jobs.entries.map (fun e => (e.1, e.2.status)) =
      s.jobs.entries.map fun e => (e.1, e.2.status) := by
  show (s.jobs.map Job.withoutTemplate).entries.map _ = _
  rw [SortedMap.map, List.map_map]
  rfl

/-- **One step** tells the same and leaves states that look the same. -/
theorem Step.Alike.apply {step step' : Step} (h : Step.Alike hideText step step')
    (hsize : step.isTooLarge = step'.isTooLarge) {s s' : Session Store}
    (hs : Build.seen s = Build.seen s') :
    step.told s = step'.told s' ∧ Build.seen (step.apply s) = Build.seen (step'.apply s') := by
  obtain ⟨hcluster, hcounters, hnow⟩ := Session.mk.inj hs
  cases h with
  | outside change =>
    refine ⟨rfl, ?_⟩
    simp only [Step.apply, Build.seen, Session.seen, Store.seen_apply change hcluster, hcounters,
      hnow]
  | clock now =>
    refine ⟨rfl, ?_⟩
    simp only [Step.apply, Build.seen, Session.seen, hcluster, hcounters]
  | ask hcall =>
    obtain ⟨hresult, hstate⟩ := Http.perform_alike hcall hs
    exact ⟨congrArg Told.result hresult, hstate⟩
  | send hsettings hrequest =>
    obtain ⟨hresponse, hstate⟩ := Http.respond_alike hsettings hrequest hsize hs
    exact ⟨congrArg Told.response hresponse, hstate⟩

theorem observe_alike {step step' : Step} (h : Step.Alike hideText step step')
    (hsize : step.isTooLarge = step'.isTooLarge) {s s' : Session Store}
    (hs : Build.seen s = Build.seen s') : observe s step = observe s' step' := by
  obtain ⟨htold, hstate⟩ := h.apply hsize hs
  have hstore : (step.apply s).cluster.seen = (step'.apply s').cluster.seen :=
    (Session.mk.inj hstate).1
  have hdeletions : (step.apply s).cluster.deletions = (step'.apply s').cluster.deletions :=
    (Store.mk.inj hstore).2.2.2.2.1
  rw [observe, observe, htold, hdeletions, ← statuses_seen, hstore, statuses_seen]

theorem observed_alike {steps steps' : List Step}
    (h : List.Forall₂ (Step.Alike hideText) steps steps')
    (hsizes : steps.map Step.isTooLarge = steps'.map Step.isTooLarge) {s s' : Session Store}
    (hs : Build.seen s = Build.seen s') : observed s steps = observed s' steps' := by
  induction h generalizing s s' with
  | nil => rfl
  | cons hstep _ ih =>
    obtain ⟨hsize, hsizes⟩ := List.cons_eq_cons.1 hsizes
    obtain ⟨-, hstate⟩ := hstep.apply hsize hs
    rw [observed, observed, observe_alike hstep hsize hs, ih hsizes hstate]

/-! ## Requests with one variable -/

/-- A body with a value for one variable, as it is written. -/
def portBody (written : List Char) : String := String.ofList (
  '{' :: '"' :: ("service_id".toList ++ '"' :: ':' :: '"' :: ("svc".toList ++ '"' :: ',' ::
  '"' :: ("job_id".toList ++ '"' :: ':' :: '"' :: ("a".toList ++ '"' :: ',' ::
  '"' :: ("env".toList ++ '"' :: ':' :: '{' ::
  '"' :: ("PORT".toList ++ '"' :: ':' :: (written ++ ['}', '}']))))))))

/-- What a body with a value for one variable stands for. -/
def portValue (x : Written) : Written :=
  .obj [("service_id", .text "svc"), ("job_id", .text "a"), ("env", .obj [("PORT", x)])]

/-- A request to build something with a value for one variable. -/
def portRequest (written : List Char) : Http.Request where
  method := .post
  target := ⟨"/deployments".toList, none⟩
  contentType := some "application/json"
  body := portBody written

/-- A text of letters as it is written. -/
def writtenText (n : Nat) : List Char := '"' :: (List.replicate n 'x' ++ ['"'])

theorem stands_portBody {written : List Char} {x : Written}
    (h : Json.Begins (written ++ ['}', '}']) x ['}', '}']) :
    Json.Stands (portBody written) (portValue x) := by
  have henv : Json.Begins
      ('{' :: '"' :: ("PORT".toList ++ '"' :: ':' :: (written ++ ['}', '}'])))
      (.obj [("PORT", x)]) ['}'] :=
    .fields rfl (.last (Json.named_plain (by rfl) _) h rfl)
  have hbody : Json.Begins (portBody written).toList (portValue x) [] := by
    unfold portBody
    rw [String.toList_ofList]
    refine .fields rfl (.more (Json.named_plain (by rfl) _) (Json.begins_plain (by rfl) _)
      rfl ?_)
    refine .more (Json.named_plain (by rfl) _) (Json.begins_plain (by rfl) _) rfl ?_
    exact .last (Json.named_plain (by rfl) _) henv rfl
  exact ⟨[], hbody, rfl⟩

theorem begins_writtenText (n : Nat) (rest : List Char) :
    Json.Begins (writtenText n ++ rest) (.text (String.ofList (List.replicate n 'x'))) rest := by
  have hplain : (List.replicate n 'x').all Json.isPlain = true := by
    rw [List.all_replicate]
    split <;> rfl
  have hbegins := Json.begins_plain hplain rest
  rw [writtenText, List.cons_append, List.append_assoc]
  exact hbegins

theorem portRequest_alike {hide : Written → Written} {written written' : List Char} {x x' : Written}
    (h : Json.Begins (written ++ ['}', '}']) x ['}', '}'])
    (h' : Json.Begins (written' ++ ['}', '}']) x' ['}', '}']) (hx : hide x = hide x') :
    (portRequest written).Alike hide (portRequest written') := by
  refine ⟨rfl, rfl, rfl, .json (stands_portBody h) (stands_portBody h') ?_⟩
  show Written.obj [_, _, (some "env", Written.obj [(some "PORT", hide x)])] = _
  rw [hx]
  rfl

theorem length_le_utf8ByteSize (s : List Char) : s.length ≤ (String.ofList s).utf8ByteSize := by
  rw [String.utf8ByteSize_ofList]
  induction s with
  | nil => exact Nat.le_refl _
  | cons c s ih =>
    have hpos := c.utf8Size_pos
    rw [String.utf8Len_cons, List.length_cons]
    omega

theorem isTooLarge_portRequest {n : Nat} (h : Http.maxBodyOctets ≤ n) :
    (portRequest (writtenText n)).isTooLarge = true := by
  refine decide_eq_true (Nat.lt_of_lt_of_le ?_ (length_le_utf8ByteSize _))
  simp only [writtenText, List.length_cons, List.length_append, List.length_replicate]
  omega

/-- The status of the response to such a request: too large, or not the submission that is wanted, or
neither. -/
theorem status_portRequest {written : List Char} {x : Written}
    (h : Json.Begins (written ++ ['}', '}']) x ['}', '}']) (s : Session Store) :
    (Http.respond {} (portRequest written) s).1.status =
      if (portRequest written).isTooLarge then 413
      else match Http.Submission.ofWritten (portValue x) with
        | .error fault => Http.Submission.statusOf fault
        | .ok submission => ((Http.Plan.perform (.submit {} submission.toRequest)).run s).1.status := by
  have hplan : Http.planOf {} (portRequest written) =
      Http.Route.plan {} (portRequest written) .deployments := rfl
  have hjson : ((portRequest written).contentType.bind (Http.MediaType.of? ·.toList)).any
      (·.isJson) = true := by rfl
  have hread : Http.Submission.read (portRequest written).body =
      Http.Submission.ofWritten (portValue x) :=
    Http.Submission.read_eq_ofWritten (stands_portBody h)
  rw [Http.status_respond, hplan, Http.Request.isTooLarge]
  unfold Http.Route.plan Http.submissionOf
  by_cases hlarge : Http.maxBodyOctets < (portRequest written).body.utf8ByteSize
  · simp only [hjson, hlarge]
    rfl
  · simp only [hjson, hread, hlarge]
    cases Http.Submission.ofWritten (portValue x) <;> rfl

/-- No call is answered as too large or as not wanted. -/
theorem status_perform_ne (call : Call) (s : Session Store) :
    ((Http.Plan.perform call).run s).1.status ≠ 413 ∧
      ((Http.Plan.perform call).run s).1.status ≠ 422 := by
  rw [Http.Plan.run]
  cases (call.perform s).1 with
  | ok answer =>
    show call.okStatus ≠ 413 ∧ call.okStatus ≠ 422
    cases call <;> simp [Call.okStatus]
  | error f =>
    show f.kind.status ≠ 413 ∧ f.kind.status ≠ 422
    cases f.kind <;> decide

/-! ## What shows -/

/-- **Secrets do not show.** Take two runs from the empty store with the same steps, except that the
database that the server is set up with may differ, and the values of the variables in the bodies of
requests, which are texts. If the same bodies are too large for the server in both, then everything that
is told in the runs is the same, and so are after every step the jobs that are stored, with their
statuses, and the deletions. -/
theorem observed_eq_of_alike {steps steps' : List Step}
    (h : List.Forall₂ (Step.Alike hideText) steps steps')
    (hsizes : steps.map Step.isTooLarge = steps'.map Step.isTooLarge) (now : Instant) :
    observed { cluster := {}, now } steps = observed { cluster := {}, now } steps' :=
  observed_alike h hsizes rfl

/-- A build is asked for and then the metrics, under two passwords and with two values. -/
theorem observed_eq_of_alike_otherPassword :
    let metrics : Http.Request := { method := .get, target := ⟨"/metrics".toList, none⟩ }
    let steps (password : String) (n : Nat) : List Step :=
      [.send { database := { password } } (portRequest (writtenText n)),
        .send { database := { password } } metrics]
    observed { cluster := {}, now := .epoch } (steps "swordfish" 1) =
      observed { cluster := {}, now := .epoch } (steps "letmein" 2) := by
  intro metrics steps
  have hbuild : (portRequest (writtenText 1)).Alike hideText (portRequest (writtenText 2)) :=
    portRequest_alike (begins_writtenText 1 _) (begins_writtenText 2 _) rfl
  have hmetrics : metrics.Alike hideText metrics := ⟨rfl, rfl, rfl, .same _⟩
  have halike : List.Forall₂ (Step.Alike hideText) (steps "swordfish" 1) (steps "letmein" 2) :=
    .cons (.send rfl hbuild) (.cons (.send rfl hmetrics) .nil)
  have hsizes : (steps "swordfish" 1).map Step.isTooLarge =
      (steps "letmein" 2).map Step.isTooLarge := by
    decide +kernel
  exact observed_eq_of_alike halike hsizes .epoch

/-- Two requests that are answered with different statuses show. -/
theorem observed_send_ne {request request' : Http.Request} {s : Session Store}
    (h : (Http.respond {} request s).1.status ≠ (Http.respond {} request' s).1.status) :
    observed s [.send {} request] ≠ observed s [.send {} request'] := by
  intro hsame
  obtain ⟨htold, -⟩ := Observation.mk.inj (List.cons.inj hsame).1
  exact h (congrArg Http.Response.status (Told.response.inj htold))

/-- It shows if the value of a variable is a number and no text: then the submission is not the one that
is wanted. And the length of a text shows if the body becomes too large by it. -/
theorem not_observed_eq_numberOrLargeText :
    let steps (written : List Char) : List Step := [.send {} (portRequest written)]
    let shown (written : List Char) : List Observation :=
      observed { cluster := {}, now := .epoch } (steps written)
    (List.Forall₂ (Step.Alike fun _ => .null) (steps (writtenText 1)) (steps "8080".toList) ∧
      shown (writtenText 1) ≠ shown "8080".toList) ∧
    List.Forall₂ (Step.Alike hideText) (steps (writtenText 1))
      (steps (writtenText Http.maxBodyOctets)) ∧
      shown (writtenText 1) ≠ shown (writtenText Http.maxBodyOctets) := by
  intro steps shown
  have htext := begins_writtenText 1 ['}', '}']
  have hnumber : Json.Begins ("8080".toList ++ ['}', '}'])
      (.number ⟨false, "8080".toList, none, none, "8080".toList⟩) ['}', '}'] :=
    .number rfl
  have hlarge := begins_writtenText Http.maxBodyOctets ['}', '}']
  have hsmallText : (portRequest (writtenText 1)).isTooLarge = false := by decide +kernel
  have hsmallNumber : (portRequest "8080".toList).isTooLarge = false := by decide +kernel
  have htaken : ∀ s : Session Store,
      (Http.respond {} (portRequest (writtenText 1)) s).1.status ≠ 413 ∧
        (Http.respond {} (portRequest (writtenText 1)) s).1.status ≠ 422 := by
    intro s
    rw [status_portRequest htext, hsmallText]
    exact status_perform_ne ..
  have hunwanted : ∀ s : Session Store,
      (Http.respond {} (portRequest "8080".toList) s).1.status = 422 := by
    intro s
    rw [status_portRequest hnumber, hsmallNumber]
    rfl
  have hrefused : ∀ s : Session Store,
      (Http.respond {} (portRequest (writtenText Http.maxBodyOctets)) s).1.status = 413 := by
    intro s
    rw [status_portRequest hlarge, isTooLarge_portRequest (Nat.le_refl _)]
    rfl
  have hhidden : ∀ t t' : String, hideText (.text t) = hideText (.text t') := fun _ _ => rfl
  have hnumberAlike : (portRequest (writtenText 1)).Alike (fun _ => .null)
      (portRequest "8080".toList) := portRequest_alike htext hnumber rfl
  have hlargeAlike : (portRequest (writtenText 1)).Alike hideText
      (portRequest (writtenText Http.maxBodyOctets)) := portRequest_alike htext hlarge (hhidden _ _)
  refine ⟨⟨.cons (.send rfl hnumberAlike) .nil, observed_send_ne ?_⟩,
    .cons (.send rfl hlargeAlike) .nil, observed_send_ne ?_⟩
  · rw [hunwanted]
    exact (htaken _).2
  · rw [hrefused]
    exact (htaken _).1

end Service

end BuildYard
