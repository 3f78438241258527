import BuildYard.Cluster.Remote
/-!
# Requests and their responses

With a script of responses an operation on a cluster behind its API server sends at most one request,
and reads the first response of the script or learns that none is left.

* `Remote.answer`: what comes of a request, by the response to it.
* `Remote.outcome_ask`: what comes of asking.
* `Remote.orAbsent_answer_eq_ok_iff`: the answers after which a job counts as deleted.
-/

namespace BuildYard.Remote

variable {α : Type}

/-- A request as it goes out: its target has no fragment. -/
def onWire (request : ApiRequest) : ApiRequest := { request with uri := sentUri request.uri }

/-- What comes of a request, by the response to it if there is one. -/
def answer (read : Json → Option α) : Option ApiResponse → Except Failure α
  | none => .error (broken "ServiceError: no response left")
  | some response => reading read response

/-- The cluster when it has sent more requests, as many as there are responses gone. -/
def sending (s : Remote) (responses : List ApiResponse) (requests : List ApiRequest) : Remote :=
  { s with
    network := .scripted (responses.drop requests.length)
    sent := s.sent ++ requests }

theorem sending_nil {s : Remote} {responses : List ApiResponse}
    (h : s.network = .scripted responses) : s.sending responses [] = s := by
  cases s
  cases h
  simp [sending]

theorem sending_sending (s : Remote) (responses : List ApiResponse)
    (requests requests' : List ApiRequest) :
    (s.sending responses requests).sending (responses.drop requests.length) requests' =
      s.sending responses (requests ++ requests') := by
  simp [sending, List.drop_drop]

/-- A request that is sent gets the first response of the script. -/
theorem outcome_exchange {s : Remote} {responses : List ApiResponse}
    (h : s.network = .scripted responses) (request : ApiRequest) (read : Json → Option α) :
    ((exchange request).outcome s).1 >>= reading read = answer read responses.head? ∧
      ((exchange request).outcome s).2 = s.sending responses [onWire request] := by
  rw [exchange, Attempt.outcome_of, h]
  cases responses with
  | nil => exact ⟨rfl, rfl⟩
  | cons response rest => exact ⟨rfl, rfl⟩

/-- A request that can be sent is sent and answered. -/
theorem outcome_ask {s : Remote} {responses : List ApiResponse}
    (h : s.network = .scripted responses) (request : ApiRequest) (read : Json → Option α) :
    (ask request read).outcome s =
      match sendable request with
      | .error e => (.error e, s)
      | .ok () => (answer read responses.head?, s.sending responses [onWire request]) := by
  rw [ask, Attempt.outcome_bind, Attempt.outcome_ofResult]
  rcases sendable request with e | ⟨⟩
  · rfl
  · obtain ⟨hanswer, hsent⟩ := outcome_exchange h request read
    dsimp only
    rw [Attempt.outcome_bind, ← hanswer, ← hsent]
    rcases (exchange request).outcome s with ⟨e | response, t⟩ <;> rfl

/-! ## Deletions -/

/-- A job counts as deleted when the request is answered by success, or by an error with code 404. -/
def IsGone (response : Option ApiResponse) : Prop :=
  ∃ r, response = some r ∧
    (reading deleted? r = .ok () ∨
      (Http.isErrorCode r.status = true ∧ (ApiError.of r).code = 404))

theorem isNotFound_failure_iff (e : ApiError) : e.failure.isNotFound = true ↔ e.code = 404 := by
  unfold ApiError.failure
  split
  · rename_i h
    simp [Failure.isNotFound, h]
  · rename_i h
    split <;> simp [Failure.isNotFound, h, broken]

theorem orAbsent_error_eq_ok_iff {e : Failure} :
    orAbsent (.error e) = .ok () ↔ e.isNotFound = true := by
  by_cases h : e.isNotFound = true <;> simp [orAbsent, h]

theorem orAbsent_answer_eq_ok_iff {response : Option ApiResponse} :
    orAbsent (answer deleted? response) = .ok () ↔ IsGone response := by
  unfold IsGone
  cases response with
  | none => simp [answer, orAbsent_error_eq_ok_iff, broken, Failure.isNotFound]
  | some r =>
    by_cases herror : Http.isErrorCode r.status = true
    · have hread : reading deleted? r = .error (ApiError.of r).failure := by
        rw [reading, if_pos herror]
      simp [answer, hread, herror, orAbsent_error_eq_ok_iff, isNotFound_failure_iff]
    · cases hbody : (Json.scan? r.body).bind deleted? with
      | none =>
        have hread : reading deleted? r = .error unreadable := by
          simp only [reading, if_neg herror, hbody]
        simp [answer, hread, herror, orAbsent_error_eq_ok_iff, unreadable, broken,
          Failure.isNotFound]
      | some u =>
        have hread : reading deleted? r = .ok () := by
          simp only [reading, if_neg herror, hbody]
        simp [answer, hread, orAbsent]

/-! ## Asking in steps -/

/-- What is left of asking when the request is built. -/
def posting (request : ApiRequest) (read : Json → Option α)
    (conclude : Except Failure α → Except Failure α) : Strand Remote α :=
  .step (fun s => ((exchange request).outcome s).2) fun s =>
    .last (.ofResult (conclude (((exchange request).outcome s).1 >>= reading read)))

theorem asking_eq (request : ApiRequest) (read : Json → Option α)
    (conclude : Except Failure α → Except Failure α) :
    asking request read conclude =
      match sendable request with
      | .error e => .last (.ofResult (conclude (.error e)))
      | .ok () => .step id fun _ => posting request read conclude := rfl

/-- Asking in steps with nothing between them is asking. -/
theorem outcome_run_asking (request : ApiRequest) (read : Json → Option α)
    (conclude : Except Failure α → Except Failure α) (s : Remote) :
    (asking request read conclude).run.outcome s =
      (conclude ((ask request read).outcome s).1, ((ask request read).outcome s).2) := by
  rw [asking, ask, Attempt.outcome_bind, Attempt.outcome_ofResult]
  rcases sendable request with e | ⟨⟩
  · rfl
  · dsimp only
    rw [Attempt.outcome_bind, Strand.outcome_run_step, Strand.outcome_run_step,
      Strand.outcome_run_last, id_eq]
    rcases (exchange request).outcome s with ⟨e | response, t⟩ <;> rfl

theorem outcome_deleteJob {s : Remote} {responses : List ApiResponse}
    (h : s.network = .scripted responses) (ns name : String) (propagation : Propagation) :
    (Cluster.deleteJob ns name propagation : Attempt Remote Unit).outcome s =
      match sendable (deleteRequest ns name propagation) with
      | .error e => (orAbsent (.error e), s)
      | .ok () => (orAbsent (answer deleted? responses.head?),
          s.sending responses [onWire (deleteRequest ns name propagation)]) := by
  rw [Cluster.deleteJob]
  show (asking (deleteRequest ns name propagation) deleted? orAbsent).run.outcome s = _
  rw [outcome_run_asking, outcome_ask h]
  rcases sendable (deleteRequest ns name propagation) with e | ⟨⟩ <;> rfl

/-- A request that cannot be sent has not found out that something does not exist. -/
theorem orAbsent_of_sendable {request : ApiRequest} {e : Failure}
    (h : sendable request = .error e) : orAbsent (.error e) = .error e := by
  have hkind : e.isNotFound = false := by
    unfold sendable at h
    split at h
    · cases h
      rfl
    · split at h
      · cases h
      · cases h
        rfl
  simp [orAbsent, hkind]

end BuildYard.Remote
