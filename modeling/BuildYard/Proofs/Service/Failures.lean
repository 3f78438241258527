import BuildYard.Proofs.Build.Steps
import BuildYard.Proofs.Cluster.FailureKinds
import BuildYard.Proofs.Service.Refinement
/-!
# From a failure of the cluster to the status of a response

An errand asks a cluster for one thing after another. A call that fails ends it, and only the text of
the failure changes on the way: what the errand was doing is told in front of it. So the kind of the
failure is the one that the cluster gave it, and it decides the status of the response.

* `Errand.endsByFailures`: how every errand ends, over every cluster; it goes by what each operation
  reports (`Errand.reports_cancel`, `Errand.reports_status` and so on).
* `failure_kind_survives`: from the API server to the response.
-/

namespace BuildYard

open Attempt (Reports)

namespace OwnerKind

/-- The call for an owner of a kind. -/
def call (kind : OwnerKind) (ns name : String) : ClusterCall :=
  match kind with
  | .scaled kind => .getScaledSet kind ns name
  | .daemonSet => .getDaemonSet ns name

theorem asksOwner_call (kind : OwnerKind) (ns name : String) :
    (kind.call ns name).asksOwner = true := by
  cases kind <;> rfl

end OwnerKind

/-! ## Errands -/

namespace Service

/-- What the build yard can be asked: one of its calls, or how many instances the owner of a pod
wants. -/
inductive Errand where
  | of (call : Call)
  | expected (ns podName : String)

namespace Errand

variable {σ : Type} [Cluster σ]

/-- What an errand does. -/
def operation : Errand → Attempt (Session σ) Json
  | .of call => call.operation
  | .expected ns podName => do return .int (← Health.expected ns podName)

/-- The service whose builds an errand is about. -/
def serviceId : Errand → String
  | .of (.submit _ request) => request.serviceId
  | .of (.cancel _ serviceId) => serviceId
  | .of (.status _ _) | .of (.aggregate _ _) | .of (.health _ _) | .expected _ _ => ""

/-- What an errand says of a call that fails, the outermost context first. -/
def contexts (errand : Errand) : ClusterCall → List String
  | .createJob _ job => ["failed to create job " ++ job.metadata.anyName]
  | .listJobs _ _ => ["failed to list jobs for service ID " ++ errand.serviceId]
  | .getJob _ name => ["failed to get job " ++ name]
  | .deleteJob _ name => ["failed to delete job " ++ name]
  | .listPods ns selector =>
    match errand with
    | .of (.status _ name) => ["failed to list pods for job " ++ name]
    | _ => ["failed to list pods in namespace " ++ ns ++ " with selector " ++ selector.text]
  | .getPod ns name => ["failed to get pod " ++ ns ++ "/" ++ name]
  | .getScaledSet kind ns name => ["failed to get " ++ kind.toKind.text ++ " " ++ ns ++ "/" ++ name]
  | .getDaemonSet ns name => ["failed to get DaemonSet " ++ ns ++ "/" ++ name]

/-- The failure of a submission that is refused before the cluster is asked for anything. -/
def refusal? : Errand → Instant → Option Failure
  | .of (.submit _ request), now =>
    match Build.checkRequest request now with
    | .error e => some e
    | .ok () => none
  | .of (.cancel _ _), _ | .of (.status _ _), _ | .of (.aggregate _ _), _
  | .of (.health _ _), _ | .expected _ _, _ => none

/-- The calls of the cluster that fail while an errand is done. -/
def failed (errand : Errand) (s : Session σ) : List FailedCall :=
  (errand.operation.outcome (s.watched [])).2.cluster.failed

theorem contexts_owner (errand : Errand) (kind : OwnerKind) (ns name : String) :
    errand.contexts (kind.call ns name) =
      ["failed to get " ++ kind.text ++ " " ++ ns ++ "/" ++ name] := by
  cases kind <;> rfl

/-! ### Submitting, canceling and following builds -/

section Builds

variable {errand : Errand}

theorem reports_deleteAll (ns : String) (names : List String) :
    Reports errand.contexts (Build.deleteAll ns names : Attempt (Session (Watched σ)) Unit)
      (Build.deleteAll ns names) := by
  have hcontext : ∀ name, errand.contexts (.deleteJob ns name) = ["failed to delete job " ++ name] :=
    fun _ => rfl
  have hdeletions := Reports.sideBySide (fun name => .deleteJob ns name)
    (fun name => "failed to delete job " ++ name) hcontext (fun _ => rfl)
    (names.map fun name => (name, (Cluster.deletion ns name .foreground : Strand σ Unit)))
  rw [List.map_map, List.map_map] at hdeletions
  exact hdeletions

theorem reports_cancel {serviceId : String} (h : errand.serviceId = serviceId)
    (settings : Settings) :
    Reports errand.contexts
      (Build.cancel settings serviceId : Attempt (Session (Watched σ)) (List String))
      (Build.cancel settings serviceId) := by
  subst h
  exact .bind (.call rfl rfl) fun _ =>
    .bind (reports_deleteAll _ _) fun _ => .bind (.count _) fun _ => .pure _

/-- What a submission does when it is not refused. -/
def replace (settings : Settings) (request : BuildRequest) (now : Instant) :
    Attempt (Session σ) String := do
  let _ ← Build.cancel settings request.serviceId
  let name := Build.jobName request now
  let _ ← (Session.onCluster
    (Cluster.createJob settings.namespace_ (Build.manifest request name now settings))).within
      ("failed to create job " ++ name)
  Session.count Counters.addSubmitted
  return name

theorem outcome_submit_eq_replace (settings : Settings) (request : BuildRequest) (s : Session σ) :
    (Build.submit settings request).outcome s =
      match Build.checkRequest request s.now with
      | .error e => (.error e, s)
      | .ok () => (replace settings request s.now).outcome s := by
  rw [Build.submit, Attempt.outcome_bind, Session.outcome_clock]
  dsimp only
  rw [Attempt.outcome_bind, Attempt.outcome_ofResult]
  cases Build.checkRequest request s.now <;> rfl

theorem reports_replace {request : BuildRequest} (h : errand.serviceId = request.serviceId)
    (settings : Settings) (now : Instant) :
    Reports errand.contexts
      (replace settings request now : Attempt (Session (Watched σ)) String)
      (replace settings request now) :=
  .bind (reports_cancel h settings) fun _ => .bind (.call rfl rfl) fun _ =>
    .bind (.count _) fun _ => .pure _

theorem reports_status (ns name : String) :
    Reports (of (.status ns name)).contexts
      (Build.status ns name : Attempt (Session (Watched σ)) BuildStatus)
      (Build.status ns name) := by
  refine .bind (.call rfl rfl) fun job => ?_
  dsimp only
  split
  · exact .bind (.call rfl rfl) fun _ =>
      .bind .clock fun _ => .bind (.count _) fun _ => .pure _
  · exact .bind (.pure []) fun _ => .bind .clock fun _ => .bind (.count _) fun _ => .pure _

end Builds

/-! ### Asking for health -/

section Health

variable {errand : Errand}

/-- Asking what an owner wants is one call for the owner. -/
theorem outcome_wanted_watched (ns : String) (kind : OwnerKind) (name : String) (w : Watched σ) :
    (Health.wanted ns kind name).outcome w =
      (Watched.watching (kind.call ns name) (Health.wanted ns kind name)).outcome w := by
  cases kind with
  | scaled kind => exact Watched.outcome_watching_bind_pure _ (Cluster.getScaledSet kind ns name) _ w
  | daemonSet => exact Watched.outcome_watching_bind_pure _ (Cluster.getDaemonSet ns name) _ w

/-- An owner that cannot be asked ends the question, and one that does not exist does not. -/
theorem ends_orUnowned {ns name : String} {kind : OwnerKind} (r : Except Failure Int) :
    Ends errand.contexts (failedIn (kind.call ns name) r)
      (Health.orUnowned ("failed to get " ++ kind.text ++ " " ++ ns ++ "/" ++ name) r) := by
  cases r with
  | ok n =>
    intro f hf
    cases hf
  | error e =>
    by_cases hmissing : e.kind = .notFound
    · have hnotFound : e.isNotFound = true := decide_eq_true hmissing
      simp only [Health.orUnowned, hnotFound, if_true]
      intro f hf
      rw [List.mem_singleton.1 hf]
      exact ⟨kind.asksOwner_call .., hmissing⟩
    · have hnotFound : e.isNotFound = false := decide_eq_false hmissing
      simp only [Health.orUnowned, hnotFound, Bool.false_eq_true, if_false]
      refine ⟨[], ⟨kind.call ns name, e⟩, rfl, by simp, fun h => hmissing h.2, ?_⟩
      dsimp only
      rw [contexts_owner]
      exact passedOn_foldr_during [_] e

theorem reports_expectedFor (ns : String) (pod : Pod) :
    Reports errand.contexts (Health.expectedFor ns pod : Attempt (Session (Watched σ)) Int)
      (Health.expectedFor ns pod) := by
  unfold Health.expectedFor
  split
  · exact .pure _
  · rename_i owner howned
    split
    · exact .pure _
    · rename_i kind hkind
      intro s before
      rw [OwnerKind.ofText?_eq_some_iff.1 hkind]
      refine ⟨failedIn (kind.call ns owner.name)
        ((Health.wanted ns kind owner.name).outcome s.cluster).1, ?_, ends_orUnowned _⟩
      simp only [Attempt.outcome_of, Session.outcome_onCluster, outcome_wanted_watched]
      rfl

theorem reports_expected (ns podName : String) :
    Reports errand.contexts (Health.expected ns podName : Attempt (Session (Watched σ)) Int)
      (Health.expected ns podName) :=
  .bind (.call rfl rfl) fun pod => reports_expectedFor ns pod

theorem reports_summaryOf (ns : String) (pods : List Pod) :
    Reports errand.contexts
      (Health.summaryOf ns pods : Attempt (Session (Watched σ)) HealthSummary)
      (Health.summaryOf ns pods) := by
  unfold Health.summaryOf
  split
  · exact .pure _
  · exact .bind (reports_expectedFor ns _) fun _ => .pure _

theorem reports_aggregate (ns : String) (selector : Selector) :
    Reports (of (.aggregate ns selector)).contexts
      (Health.aggregate ns selector : Attempt (Session (Watched σ)) (List PodView))
      (Health.aggregate ns selector) :=
  .bind (.call rfl rfl) fun _ => .pure _

theorem reports_simpleHealth (ns : String) (selector : Selector) :
    Reports (of (.health ns selector)).contexts
      (Health.simpleHealth ns selector : Attempt (Session (Watched σ)) HealthSummary)
      (Health.simpleHealth ns selector) :=
  .bind (.call rfl rfl) fun pods => .bind (reports_summaryOf ns pods) fun _ =>
    .bind (.count _) fun _ => .pure _

end Health

/-! ### How an errand ends -/

/-- How an errand ends, by the calls of the cluster that fail while it is done. -/
structure EndsByFailures (errand : Errand) (s : Session σ) : Prop where
  /-- The calls are watched without a difference to the errand. -/
  watched : errand.operation.outcome (s.watched []) =
    ((errand.operation.outcome s).1, (errand.operation.outcome s).2.watched (errand.failed s))
  refused : ∀ e, errand.refusal? s.now = some e →
    e.kind = .validation ∧ errand.failed s = [] ∧ (errand.operation.outcome s).1 = .error e
  ends : errand.refusal? s.now = none →
    Ends errand.contexts (errand.failed s) (errand.operation.outcome s).1

/-- An errand that is not refused ends as what it does then. -/
theorem endsByFailures_of_reports {errand : Errand} {s : Session σ}
    {a : Attempt (Session (Watched σ)) Json} {b : Attempt (Session σ) Json}
    (hrefusal : errand.refusal? s.now = none) (h : Reports errand.contexts a b)
    (ha : errand.operation.outcome (s.watched []) = a.outcome (s.watched []))
    (hb : errand.operation.outcome s = b.outcome s) : errand.EndsByFailures s := by
  obtain ⟨failed, hsame, hends⟩ := h s []
  have hfailed : errand.failed s = failed := by
    rw [Errand.failed, ha, hsame]
    rfl
  refine ⟨?_, fun e he => ?_, fun _ => ?_⟩
  · rw [hfailed, ha, hb, hsame, List.nil_append]
  · rw [hrefusal] at he
    cases he
  · rwa [hfailed, hb]

/-- What a submission comes to: it is refused, or it replaces the builds that run. -/
theorem outcome_submit_errand (settings : Settings) (request : BuildRequest) (s : Session σ) :
    (of (.submit settings request)).operation.outcome s =
      match Build.checkRequest request s.now with
      | .error e => (.error e, s)
      | .ok () => (replace settings request s.now >>= fun name =>
          pure (.obj [("job_name", .str name)]) : Attempt (Session σ) Json).outcome s := by
  show (Build.submit settings request >>= fun name =>
    pure (.obj [("job_name", .str name)]) : Attempt (Session σ) Json).outcome s = _
  rw [Attempt.outcome_bind_pure, Attempt.outcome_bind_pure, outcome_submit_eq_replace]
  cases Build.checkRequest request s.now <;> rfl

theorem endsByFailures_submit (settings : Settings) (request : BuildRequest) (s : Session σ) :
    (of (.submit settings request)).EndsByFailures s := by
  have hplain := outcome_submit_errand settings request s
  have hwatched := outcome_submit_errand settings request (s.watched [])
  have hnow : (s.watched []).now = s.now := rfl
  rw [hnow] at hwatched
  cases hcheck : Build.checkRequest request s.now with
  | error e =>
    rw [hcheck] at hplain hwatched
    have hrefusal : (of (.submit settings request)).refusal? s.now = some e := by
      simp only [refusal?, hcheck]
    have hfailed : (of (.submit settings request)).failed s = [] := by
      rw [failed, hwatched]
      rfl
    refine ⟨?_, fun e' he' => ?_, fun hnone => ?_⟩
    · rw [hfailed, hwatched, hplain]
    · obtain rfl := Option.some.inj (hrefusal.symm.trans he')
      exact ⟨Build.kind_of_checkRequest hcheck, hfailed, by rw [hplain]⟩
    · rw [hrefusal] at hnone
      cases hnone
  | ok =>
    rw [hcheck] at hplain hwatched
    have hrefusal : (of (.submit settings request)).refusal? s.now = none := by
      simp only [refusal?, hcheck]
    have hreplace : Reports (of (.submit settings request)).contexts
        (replace settings request s.now : Attempt (Session (Watched σ)) String)
        (replace settings request s.now) :=
      reports_replace rfl settings s.now
    exact endsByFailures_of_reports hrefusal (.bind hreplace fun _ => .pure _) hwatched hplain

/-- **How every errand ends.** -/
theorem endsByFailures (errand : Errand) (s : Session σ) : errand.EndsByFailures s := by
  cases errand with
  | of call =>
    cases call with
    | submit settings request => exact endsByFailures_submit settings request s
    | cancel settings serviceId =>
      exact endsByFailures_of_reports rfl (.bind (reports_cancel rfl settings) fun _ => .pure _)
        rfl rfl
    | status ns name =>
      exact endsByFailures_of_reports rfl (.bind (reports_status ns name) fun _ => .pure _) rfl rfl
    | aggregate ns selector =>
      exact endsByFailures_of_reports rfl (.bind (reports_aggregate ns selector) fun _ => .pure _)
        rfl rfl
    | health ns selector =>
      exact endsByFailures_of_reports rfl
        (.bind (reports_simpleHealth ns selector) fun _ => .pure _) rfl rfl
  | expected ns podName =>
    exact endsByFailures_of_reports rfl (.bind (reports_expected ns podName) fun _ => .pure _)
      rfl rfl

end Errand

end Service

/-! ## From the cluster to the response -/

namespace Service

theorem status_respond_of_failed {σ : Type} [Cluster σ] {settings : Settings}
    {request : Http.Request} {call : Call} {s : Session σ} {forgiven : List FailedCall}
    {f : FailedCall} (hasks : Http.Asks settings request call)
    (hfailed : (Errand.of call).failed s = forgiven ++ [f]) (hends : ¬ f.IsForgiven) :
    (Http.respond settings request s).1.status = f.failure.status := by
  have hof := Errand.endsByFailures (Errand.of call) s
  have hnotRefused : (Errand.of call).refusal? s.now = none := by
    cases hrefusal : (Errand.of call).refusal? s.now with
    | none => rfl
    | some e =>
      have hnone := (hof.refused e hrefusal).2.1
      rw [hfailed] at hnone
      simp at hnone
  have hend := hof.ends hnotRefused
  rw [hfailed] at hend
  obtain ⟨e, hresult, hpassed⟩ := hend.of_last hends
  have hperform : (call.perform s).1 = .error e := hresult
  rw [Http.status_respond, Http.planOf_eq_perform_iff.2 hasks, Http.Plan.run, hperform,
    Failure.status, ← hpassed.kind]
  rfl

/-- **The kind of a failure survives from the cluster to the response.** -/
theorem failure_kind_survives :
    (∀ (σ : Type) [Cluster σ] (errand : Errand) (s : Session σ), errand.EndsByFailures s) ∧
    (∀ (contexts : List String) (e : Failure),
      PassedOn contexts e (contexts.foldr Failure.during e)) ∧
    (∀ e : Failure, (Http.Response.ofFailure e).status =
      if e.kind = .notFound then 404 else if e.kind = .conflict then 409
      else if e.kind = .validation then 400 else 500) ∧
    (∀ (σ : Type) [Cluster σ] (settings : Settings) (request : Http.Request) (call : Call)
      (s : Session σ) (forgiven : List FailedCall) (f : FailedCall),
      Http.Asks settings request call → (Errand.of call).failed s = forgiven ++ [f] →
        ¬ f.IsForgiven →
          (Http.respond settings request s).1.status = (Http.Response.ofFailure f.failure).status) ∧
    (∀ e : Remote.ApiError,
      (e.failure.kind = .notFound ↔ e.code = 404) ∧ (e.failure.kind = .conflict ↔ e.code = 409)) ∧
    (∀ (call : ClusterCall) (c : Remote) (e : Failure),
      ((Remote.said call).outcome c).1 = .error e →
        c.KindByCode (Remote.requestOf call) e.kind ∧
          (call.make.outcome c).1 =
            if call.deletes = true ∧ e.kind = .notFound then .ok () else .error e) ∧
    ∀ (ns name : String) (s : Store), s.faults .deleteJob = none →
      s.jobs.find? ⟨ns, name⟩ = none →
        (ClusterCall.deleteJob ns name).make.outcome s = (.ok (), s) := by
  refine ⟨fun σ _ errand s => Errand.endsByFailures errand s, passedOn_foldr_during, fun e => ?_,
    fun σ _ settings request call s forgiven f => status_respond_of_failed, fun e => ?_,
    fun call c e hsaid => ⟨Remote.kindByCode_of_ask hsaid, ?_⟩, fun ns name s hfaults hnone => ?_⟩
  · show e.kind.status = _
    cases e.kind <;> rfl
  · obtain ⟨hmissing, hconflict, -⟩ := Remote.kind_failure e
    exact ⟨hmissing, hconflict⟩
  · cases hdeletes : call.deletes with
    | false =>
      rw [Remote.outcome_make_of_not_deletes hdeletes, hsaid]
      simp
    | true =>
      cases call with
      | deleteJob ns name =>
        rw [Remote.outcome_make_deleteJob, hsaid]
        simp [Remote.orAbsent, Failure.isNotFound]
      | _ => cases hdeletes
  · show (Cluster.deleteJob ns name .foreground : Attempt Store Unit).outcome s = _
    rw [Store.outcome_deleteJob, hfaults]
    simp [Store.deleteJob, SortedMap.contains, hnone]

/-- A pod of a deployment, and what the API server says of the deployment. -/
def ownerYard (said : ApiResponse) : Session Remote where
  cluster := { network := .scripted [
    ⟨200, "\x7b\"metadata\":\x7b\x7d,\"items\":[\x7b\"metadata\":\x7b\"name\":\"web-1\"," ++
      "\"ownerReferences\":[\x7b\"kind\":\"Deployment\",\"name\":\"web\"\x7d]\x7d\x7d]\x7d"⟩,
    said] }
  now := .epoch

/-- Asks for the health of all pods of a namespace. -/
def healthRequest : Http.Request := ⟨.get, ⟨"/namespaces/apps/health".toList, none⟩, none, ""⟩

theorem asks_healthRequest : Http.Asks {} healthRequest (.health "apps" .all) :=
  .health (.inl rfl) (Http.Request.isFor_of_plain rfl (by decide) (by decide))
    (Http.Request.hasSelectorText_of_none rfl) rfl

/-- An owner that is busy ends the roll-up with a conflict, and one that does not exist does not end
it. -/
theorem failure_kind_survives_busyOwner :
    (∃ f, (Errand.of (.health "apps" .all)).failed (ownerYard ⟨409, "busy"⟩) = [] ++ [f] ∧
      ¬ f.IsForgiven ∧ f.failure.kind = .conflict ∧
      (Http.respond {} healthRequest (ownerYard ⟨409, "busy"⟩)).1.status = 409) ∧
    ∃ f, (Errand.of (.health "apps" .all)).failed (ownerYard ⟨404, "lost"⟩) = [f] ∧
      f.IsForgiven ∧ (Http.respond {} healthRequest (ownerYard ⟨404, "lost"⟩)).1.status = 200 := by
  have hbusy : ((Errand.of (.health "apps" .all)).failed (ownerYard ⟨409, "busy"⟩)).map
      (·.failure.kind) = [.conflict] := by decide +kernel
  have hlost : ((Errand.of (.health "apps" .all)).failed (ownerYard ⟨404, "lost"⟩)).map
      (fun f => (f.call.asksOwner, f.failure.kind)) = [(true, .notFound)] := by decide +kernel
  obtain ⟨f, hf, hkind⟩ := List.map_eq_singleton_iff.1 hbusy
  obtain ⟨g, hg, hforgiven⟩ := List.map_eq_singleton_iff.1 hlost
  have hends : ¬ f.IsForgiven := by
    rintro ⟨-, hmissing⟩
    rw [hkind] at hmissing
    cases hmissing
  have hstatus := failure_kind_survives.2.2.2.1 Remote {} healthRequest _ _ [] f
    asks_healthRequest hf hends
  refine ⟨⟨f, hf, hends, hkind, ?_⟩, g, hg, Prod.ext_iff.1 hforgiven, by decide +kernel⟩
  rw [hstatus]
  show f.failure.kind.status = 409
  rw [hkind]
  rfl

end Service

end BuildYard
