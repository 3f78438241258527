import BuildYard.Cli.Run
import BuildYard.Proofs.Build.Correlation
import BuildYard.Proofs.Build.Traffic
/-!
# What is shown and what is submitted

The job of a build can be shown without starting the build. The command that shows it and a submission
make the job each for itself, and a cluster in memory sets the namespace of what it stores; still there
is one job only (`submit_eq_rendered`).

* `stored_of_submit`: the job that a cluster in memory has after a submission.
* `posted_of_submit`: the one job that an API server is asked to create.
-/

namespace BuildYard

namespace Remote

/-- Nothing comes back from a server that cannot be reached. -/
theorem outcome_ask_unreachable {α : Type} {s : Remote} {reason : String}
    (h : s.network = .unreachable reason) (request : ApiRequest) (read : Json → Option α) :
    ∃ e, (ask request read).outcome s = (.error e, s) := by
  rw [ask, Attempt.outcome_bind, Attempt.outcome_ofResult]
  rcases sendable request with e | ⟨⟩
  · exact ⟨e, rfl⟩
  · dsimp only
    rw [Attempt.outcome_bind, exchange, Attempt.outcome_of, h]
    exact ⟨_, rfl⟩

end Remote

namespace Build

open Cli (renderedJob)

variable {settings : Settings} {request : BuildRequest} {name : String}

/-! ## A cluster in memory -/

/-- A job is rendered in the namespace of the settings. -/
theorem key_renderedJob (settings : Settings) (request : BuildRequest) (now : Instant) :
    ObjectKey.of (renderedJob settings request now).metadata =
      ⟨settings.namespace_, jobName request now⟩ := rfl

/-- After a submission the job is stored as it is rendered. -/
theorem stored_of_submit {s s' : Session Store}
    (h : (submit settings request).outcome s = (.ok name, s')) :
    name = jobName request s.now ∧
      s'.cluster.jobs.find? ⟨settings.namespace_, name⟩ =
        some (renderedJob settings request s.now) := by
  obtain ⟨-, rfl, names, s₁, stored, c, -, hcreate, rfl⟩ := submit_eq_ok_iff.1 h
  refine ⟨rfl, ?_⟩
  rw [outcome_create_manifest] at hcreate
  split at hcreate
  · cases hcreate
  · split at hcreate
    · cases hcreate
    · cases hcreate
      exact SortedMap.find?_insert_self ..

/-! ## A cluster behind its API server -/

/-- A submission that succeeds has reached the server. -/
theorem scripted_of_submit {s s' : Session Remote}
    (h : (submit settings request).outcome s = (.ok name, s')) :
    ∃ responses, s.cluster.network = .scripted responses := by
  cases hnetwork : s.cluster.network with
  | scripted responses => exact ⟨responses, rfl⟩
  | unreachable reason =>
    obtain ⟨-, -, names, s₁, stored, c, hcancel, -⟩ := submit_eq_ok_iff.1 h
    have hlist : ∃ e, (Cluster.listJobs settings.namespace_ (.forService request.serviceId) :
        Attempt Remote (List Job)).outcome s.cluster = (.error e, s.cluster) :=
      Remote.outcome_ask_unreachable hnetwork _ _
    obtain ⟨e, hlist⟩ := hlist
    rw [outcome_cancel, hlist] at hcancel
    cases hcancel

/-- A cancellation creates nothing. -/
theorem filter_post_clearing (settings : Settings) (serviceId : String) (order : List String) :
    (clearing settings serviceId order).filter (·.method = .post) = [] := by
  rw [List.filter_eq_nil_iff]
  intro r hr
  rcases List.mem_cons.1 hr with rfl | hr
  · simp [listing]
  · obtain ⟨name, -, rfl⟩ := List.mem_map.1 hr
    simp [deletion]

/-- A submission that succeeds asks once to create a job. -/
theorem posted_of_submit {s s' : Session Remote}
    (h : (submit settings request).outcome s = (.ok name, s')) :
    name = jobName request s.now ∧
      ∃ requests, s'.cluster.sent = s.cluster.sent ++ requests ∧
        requests.filter (·.method = .post) = [creation settings request s.now] := by
  obtain ⟨responses, hs⟩ := scripted_of_submit h
  obtain ⟨requests, hcluster, hsubmits⟩ := submit_sent hs h
  refine ⟨(submit_eq_ok_iff.1 h).2.1, requests, by rw [hcluster, Remote.sending], ?_⟩
  generalize hresult : Except.ok name = result at hsubmits
  cases hsubmits with
  | refused | uncreated => cases hresult
  | creating hcheck hcancel hname =>
    obtain ⟨jobs, order, -, -, rfl, -⟩ := hcancel.of_ok
    rw [List.filter_append, filter_post_clearing, List.nil_append]
    rfl

/-! ## One job -/

/-- **What is shown is what is submitted.** For one request at one time, the command that shows the job
prints the rendered job; a cluster in memory stores this job, with its namespace, under its own
namespace and name when a submission succeeds; and an API server is asked once to create a job, which
is this one. -/
theorem submit_eq_rendered (settings : Settings) (request : BuildRequest) (now : Instant) :
    (∀ (σ : Type) [Cluster σ] (around : Cli.Surroundings σ) (build : Cli.BuildArguments),
      build.toRequest around.freshId = request → around.now = now →
        (Cli.Command.renderJob build).run settings around =
          ({ stdout := Yaml.text (renderedJob settings request now).toJson }, around.cluster)) ∧
    (∀ (s s' : Session Store) (name : String), s.now = now →
      (submit settings request).outcome s = (.ok name, s') →
        s'.cluster.jobs.find? ⟨settings.namespace_, name⟩ =
            some (renderedJob settings request now) ∧
          ObjectKey.of (renderedJob settings request now).metadata =
            ⟨settings.namespace_, name⟩) ∧
    ∀ (s s' : Session Remote) (name : String), s.now = now →
      (submit settings request).outcome s = (.ok name, s') →
        ∃ requests post, s'.cluster.sent = s.cluster.sent ++ requests ∧
          requests.filter (·.method = .post) = [post] ∧
          post.body = some (renderedJob settings request now).toJson := by
  refine ⟨?_, ?_, ?_⟩
  · rintro σ _ around build rfl rfl
    rfl
  · rintro s s' name rfl h
    obtain ⟨rfl, hstored⟩ := stored_of_submit h
    exact ⟨hstored, key_renderedJob settings request s.now⟩
  · rintro s s' name rfl h
    obtain ⟨-, requests, hsent, hpost⟩ := posted_of_submit h
    exact ⟨requests, _, hsent, hpost, rfl⟩

/-- The program around a command that leaves the id of the new build to chance. -/
def newSurroundings : Cli.Surroundings Store where
  environment := fun _ => none
  cluster := none
  now := .epoch
  freshId := "new"

/-- The API server of `goneScript`. -/
def goneYard : Session Remote := { cluster := { network := .scripted goneScript }, now := .epoch }

/-- The job of a build with an id of its own: it is shown, stored beside the jobs of `busyYard`, and
posted when the old job is gone. -/
theorem submit_eq_rendered_newRequest :
    ((Cli.Command.renderJob { serviceId := "svc" }).run {} newSurroundings).1.stdout =
        Yaml.text (renderedJob {} newRequest .epoch).toJson ∧
      submittedYard.cluster.jobs.find? ⟨"unbind-system", "new-deployment-0"⟩ =
        some (renderedJob {} newRequest .epoch) ∧
      ∃ s' requests post,
        (submit {} newRequest).outcome goneYard = (.ok "new-deployment-0", s') ∧
        s'.cluster.sent = goneYard.cluster.sent ++ requests ∧
        requests.filter (·.method = .post) = [post] ∧
        post.body = some (renderedJob {} newRequest .epoch).toJson := by
  obtain ⟨hshown, hstored, hposted⟩ := submit_eq_rendered {} newRequest .epoch
  have hyard : ((submit {} newRequest).outcome busyYard).1 = .ok "new-deployment-0" := rfl
  have hgone : ((submit {} newRequest).outcome goneYard).1 = .ok "new-deployment-0" :=
    toOption_eq_some_iff.1 (by decide +kernel)
  obtain ⟨requests, post, hsent, hpost, hbody⟩ := hposted goneYard _ _ rfl (Prod.ext hgone rfl)
  have hshow := hshown Store newSurroundings { serviceId := "svc" } rfl rfl
  exact ⟨congrArg (·.1.stdout) hshow,
    (hstored busyYard submittedYard _ rfl (Prod.ext hyard rfl)).1, _, requests, post,
    Prod.ext hgone rfl, hsent, hpost, hbody⟩

end Build

end BuildYard
