import BuildYard.Proofs.Cluster.Exchange
import BuildYard.Proofs.Cluster.Watching
/-!
# The kinds of the failures of an API server

A call of a cluster behind an API server is a request and what is read from the answer
(`Remote.outcome_make_of_not_deletes`). The code of an error decides the kind of the failure, and a
failure without such an answer is of the general kind (`Remote.kindByCode_of_ask`). A job that is to be
deleted need not be there (`Remote.outcome_make_deleteJob`).
-/

namespace BuildYard

/-! ## Calls as requests -/

/-- Makes a call and drops what it gives. -/
def ClusterCall.make {σ : Type} [Cluster σ] : ClusterCall → Attempt σ Unit
  | .createJob ns job => do let _ ← Cluster.createJob ns job
  | .listJobs ns selector => do let _ ← Cluster.listJobs ns selector
  | .getJob ns name => do let _ ← Cluster.getJob ns name
  | .deleteJob ns name => Cluster.deleteJob ns name .foreground
  | .listPods ns selector => do let _ ← Cluster.listPods ns selector
  | .getPod ns name => do let _ ← Cluster.getPod ns name
  | .getScaledSet kind ns name => do let _ ← Cluster.getScaledSet kind ns name
  | .getDaemonSet ns name => do let _ ← Cluster.getDaemonSet ns name

/-- Is this a call to delete a job? -/
def ClusterCall.deletes : ClusterCall → Bool
  | .deleteJob _ _ => true
  | .createJob _ _ | .listJobs _ _ | .getJob _ _ | .listPods _ _ | .getPod _ _
  | .getScaledSet _ _ _ | .getDaemonSet _ _ => false

namespace Remote

/-- The request that a call sends to the API server. -/
def requestOf : ClusterCall → ApiRequest
  | .createJob ns job => createRequest ns job
  | .listJobs ns selector => listRequest .job ns selector
  | .getJob ns name => getRequest .job ns name
  | .deleteJob ns name => deleteRequest ns name .foreground
  | .listPods ns selector => listRequest .pod ns selector
  | .getPod ns name => getRequest .pod ns name
  | .getScaledSet kind ns name => getRequest kind.toKind ns name
  | .getDaemonSet ns name => getRequest .daemonSet ns name

/-- Is this what a call asks the API server for? -/
def reads (call : ClusterCall) (j : Json) : Option Unit :=
  match call with
  | .createJob _ _ | .getJob _ _ => (Job.ofJson? j).map fun _ => ()
  | .listJobs _ _ => (objectList? Job.ofJson? j).map fun _ => ()
  | .deleteJob _ _ => deleted? j
  | .listPods _ _ => (objectList? Pod.ofJson? j).map fun _ => ()
  | .getPod _ _ => (Pod.ofJson? j).map fun _ => ()
  | .getScaledSet kind _ _ => (ScaledSet.ofJson? kind j).map fun _ => ()
  | .getDaemonSet _ _ => (DaemonSet.ofJson? j).map fun _ => ()

/-- What the API server says to a call. -/
def said (call : ClusterCall) : Attempt Remote Unit := ask (requestOf call) (reads call)

theorem reading_map {α β : Type} (read : Json → Option α) (f : α → β) (response : ApiResponse) :
    reading (fun j => (read j).map f) response = (reading read response).map f := by
  unfold reading
  split
  · rfl
  · cases Json.scan? response.body with
    | none => rfl
    | some j =>
      simp only [Option.bind_some]
      cases read j <;> rfl

theorem outcome_ask_drop {α : Type} (request : ApiRequest) (read : Json → Option α) (c : Remote) :
    (ask request read >>= fun _ => pure ()).outcome c =
      (ask request fun j => (read j).map fun _ => ()).outcome c := by
  rw [Attempt.outcome_bind_pure, ask, ask, Attempt.outcome_bind, Attempt.outcome_bind]
  rcases (Attempt.ofResult (sendable request)).outcome c with ⟨e | u, c₁⟩
  · rfl
  · dsimp only
    rw [Attempt.outcome_bind, Attempt.outcome_bind]
    rcases (exchange request).outcome c₁ with ⟨e | response, c₂⟩
    · rfl
    · exact Prod.ext (reading_map read (fun _ => ()) response).symm rfl

/-- What comes of a call is what the API server says to it. -/
theorem outcome_make_of_not_deletes {call : ClusterCall} (h : call.deletes = false) (c : Remote) :
    call.make.outcome c = (said call).outcome c := by
  cases call with
  | createJob ns job => exact outcome_ask_drop (createRequest ns job) Job.ofJson? c
  | listJobs ns selector =>
    exact outcome_ask_drop (listRequest .job ns selector) (objectList? Job.ofJson?) c
  | getJob ns name => exact outcome_ask_drop (getRequest .job ns name) Job.ofJson? c
  | deleteJob ns name => cases h
  | listPods ns selector =>
    exact outcome_ask_drop (listRequest .pod ns selector) (objectList? Pod.ofJson?) c
  | getPod ns name => exact outcome_ask_drop (getRequest .pod ns name) Pod.ofJson? c
  | getScaledSet kind ns name =>
    exact outcome_ask_drop (getRequest kind.toKind ns name) (ScaledSet.ofJson? kind) c
  | getDaemonSet ns name =>
    exact outcome_ask_drop (getRequest .daemonSet ns name) DaemonSet.ofJson? c

/-- A job that is to be deleted need not exist. -/
theorem outcome_make_deleteJob (ns name : String) (c : Remote) :
    (ClusterCall.deleteJob ns name).make.outcome c =
      (orAbsent ((said (.deleteJob ns name)).outcome c).1,
        ((said (.deleteJob ns name)).outcome c).2) :=
  outcome_run_asking (deleteRequest ns name .foreground) deleted? orAbsent c

/-! ## The kind of a failure -/

/-- The request can be sent, and is answered by an error with this code. -/
def AnswersWithCode (c : Remote) (request : ApiRequest) (code : Nat) : Prop :=
  sendable request = .ok () ∧ ∃ response rest, c.network = .scripted (response :: rest) ∧
    Http.isErrorCode response.status = true ∧ (ApiError.of response).code = code

/-- The kind of a failure, by the code of the error that the request is answered with. -/
structure KindByCode (c : Remote) (request : ApiRequest) (kind : FailureKind) : Prop where
  notFound_iff : kind = .notFound ↔ c.AnswersWithCode request 404
  conflict_iff : kind = .conflict ↔ c.AnswersWithCode request 409
  other : kind ≠ .notFound → kind ≠ .conflict → kind = .kubernetes

theorem kind_failure (e : ApiError) :
    (e.failure.kind = .notFound ↔ e.code = 404) ∧ (e.failure.kind = .conflict ↔ e.code = 409) ∧
      (e.failure.kind ≠ .notFound → e.failure.kind ≠ .conflict → e.failure.kind = .kubernetes) := by
  unfold ApiError.failure
  by_cases hmissing : e.code = 404
  · simp [hmissing]
  · by_cases hconflict : e.code = 409 <;> simp [hmissing, hconflict, broken]

theorem kind_of_sendable {request : ApiRequest} {e : Failure} (h : sendable request = .error e) :
    e.kind = .kubernetes := by
  unfold sendable at h
  repeat' split at h
  all_goals cases h
  all_goals rfl

/-- What is no error of the API server is of no kind of its own. -/
theorem kindByCode_of_not_answered {c : Remote} {request : ApiRequest} {kind : FailureKind}
    (hkind : kind = .kubernetes) (hnot : ∀ code, ¬ c.AnswersWithCode request code) :
    KindByCode c request kind := by
  subst hkind
  exact ⟨by simp [hnot], by simp [hnot], fun _ _ => rfl⟩

/-- Asking fails before there is an answer, or by the answer. -/
theorem ask_eq_error {α : Type} {request : ApiRequest} {read : Json → Option α} {c : Remote}
    {e : Failure} (h : ((ask request read).outcome c).1 = .error e) :
    (e.kind = .kubernetes ∧ ∀ code, ¬ c.AnswersWithCode request code) ∨
      ∃ response, reading read response = .error e ∧ ∀ code, c.AnswersWithCode request code ↔
        Http.isErrorCode response.status = true ∧ (ApiError.of response).code = code := by
  rw [ask, Attempt.outcome_bind, Attempt.outcome_ofResult] at h
  cases hsend : sendable request with
  | error e₀ =>
    rw [hsend] at h
    cases h
    exact .inl ⟨kind_of_sendable hsend, by simp [AnswersWithCode, hsend]⟩
  | ok =>
    rw [hsend] at h
    dsimp only at h
    rw [Attempt.outcome_bind, exchange, Attempt.outcome_of] at h
    cases hnetwork : c.network with
    | unreachable reason =>
      rw [hnetwork] at h
      cases h
      exact .inl ⟨rfl, by simp [AnswersWithCode, hnetwork]⟩
    | scripted responses =>
      rw [hnetwork] at h
      cases responses with
      | nil =>
        cases h
        exact .inl ⟨rfl, by simp [AnswersWithCode, hnetwork]⟩
      | cons response rest =>
        exact .inr ⟨response, h, by simp [AnswersWithCode, hsend, hnetwork]⟩

/-- **The kind of a failure is that of the code**, for every request and whatever is read. -/
theorem kindByCode_of_ask {α : Type} {request : ApiRequest} {read : Json → Option α} {c : Remote}
    {e : Failure} (h : ((ask request read).outcome c).1 = .error e) :
    KindByCode c request e.kind := by
  obtain ⟨hkind, hnot⟩ | ⟨response, hread, hanswers⟩ := ask_eq_error h
  · exact kindByCode_of_not_answered hkind hnot
  · unfold reading at hread
    split at hread
    · rename_i herror
      cases hread
      obtain ⟨hmissing, hconflict, hother⟩ := kind_failure (ApiError.of response)
      exact ⟨by simp [hmissing, hanswers, herror], by simp [hconflict, hanswers, herror], hother⟩
    · rename_i herror
      split at hread
      · cases hread
      · cases hread
        exact kindByCode_of_not_answered rfl fun code hcode => herror ((hanswers code).1 hcode).1

end Remote

end BuildYard
