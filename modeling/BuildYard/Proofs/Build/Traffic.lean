import BuildYard.Proofs.Build.Steps
import BuildYard.Proofs.Build.Underway
/-!
# The requests of a submission

Over a cluster behind its API server a submission lists the jobs of its service, deletes the active
ones and creates the new one. The deletions are under way together, in any order; the job is created
when all of them are answered well.

* `Cancels`, `Submits`: the ways in which a cancellation and a submission go.
* `cancel_sent`, `submit_sent`: they go in no other way.
* `submit_orderly`: what that means for each kind of request.
-/

namespace BuildYard.Build

open Remote (answer onWire sending IsGone)

/-! ## The requests -/

/-- The requests of a cancellation that asks to delete these jobs, in this order. -/
def clearing (settings : Settings) (serviceId : String) (order : List String) : List ApiRequest :=
  listing settings serviceId :: order.map (deletion settings)

/-- All the requests of a submission that asks to delete these jobs, in this order. -/
def schedule (settings : Settings) (request : BuildRequest) (at_ : Instant) (order : List String) :
    List ApiRequest :=
  clearing settings request.serviceId order ++ [creation settings request at_]

/-- What the first response says the jobs of the service are. -/
def listed (responses : List ApiResponse) : Except Failure (List Job) :=
  answer (Remote.objectList? Job.ofJson?) responses.head?

/-- The jobs that have active pods by the first response, none if it does not list jobs. -/
def activeListed (responses : List ApiResponse) : List Job :=
  match listed responses with
  | .ok jobs => jobs.filter fun job => 0 < (job.status.bind (·.active)).getD 0
  | .error _ => []

theorem activeNames_eq {responses : List ApiResponse} {jobs : List Job}
    (h : listed responses = .ok jobs) :
    activeNames jobs = (activeListed responses).map (·.metadata.anyName) := by
  rw [activeListed, h]
  rfl

theorem clearing_cases {settings : Settings} {serviceId : String} {order : List String} {i : Nat}
    {r : ApiRequest} (h : (clearing settings serviceId order)[i]? = some r) :
    (i = 0 ∧ r = listing settings serviceId) ∨
      ∃ j name, i = j + 1 ∧ order[j]? = some name ∧ r = deletion settings name := by
  cases i with
  | zero =>
    rw [clearing, List.getElem?_cons_zero] at h
    exact .inl ⟨rfl, (Option.some.inj h).symm⟩
  | succ j =>
    rw [clearing, List.getElem?_cons_succ, List.getElem?_map, Option.map_eq_some_iff] at h
    obtain ⟨name, hname, rfl⟩ := h
    exact .inr ⟨j, name, rfl, hname, rfl⟩

theorem filter_delete_map (settings : Settings) (order : List String) :
    (order.map (deletion settings)).filter (·.method = .delete) =
      order.map (deletion settings) := by
  rw [List.filter_eq_self]
  intro r hr
  obtain ⟨name, -, rfl⟩ := List.mem_map.1 hr
  rfl

theorem filter_delete_clearing (settings : Settings) (serviceId : String) (order : List String) :
    (clearing settings serviceId order).filter (·.method = .delete) =
      order.map (deletion settings) := by
  rw [clearing, List.filter_cons_of_neg (by simp [listing]), filter_delete_map]

theorem filter_delete_schedule (settings : Settings) (request : BuildRequest) (at_ : Instant)
    (order : List String) :
    (schedule settings request at_ order).filter (·.method = .delete) =
      order.map (deletion settings) := by
  rw [schedule, List.filter_append, filter_delete_clearing,
    List.filter_cons_of_neg (by simp [creation]), List.filter_nil, List.append_nil]

theorem isGone_drop_one {responses : List ApiResponse} {i : Nat} :
    IsGone (responses.drop 1)[i]? ↔ IsGone responses[i + 1]? := by
  rw [List.getElem?_drop, Nat.add_comm]

/-! ## A cancellation -/

/-- The ways in which a cancellation goes: the requests it sends and what comes of it. -/
inductive Cancels (settings : Settings) (serviceId : String) (responses : List ApiResponse) :
    List ApiRequest → Except Failure (List String) → Prop
  | unsent {e₀ e : Failure} (hcan : canList settings serviceId = .error e₀) :
    Cancels settings serviceId responses [] (.error e)
  | unlisted {e₀ e : Failure} (hcan : canList settings serviceId = .ok ())
    (hlist : listed responses = .error e₀) :
    Cancels settings serviceId responses [listing settings serviceId] (.error e)
  | deleting {jobs : List Job} {order : List String} {result : Except Failure Unit}
    (hcan : canList settings serviceId = .ok ()) (hlist : listed responses = .ok jobs)
    (hdeletes : Deletes settings (responses.drop 1) (activeNames jobs) order result) :
    Cancels settings serviceId responses (clearing settings serviceId order)
      (result.map fun _ => activeNames jobs)

theorem outcome_listJobs (settings : Settings) (serviceId : String) {c : Remote}
    {responses : List ApiResponse} (hc : c.network = .scripted responses) :
    (Cluster.listJobs settings.namespace_ (.forService serviceId) :
        Attempt Remote (List Job)).outcome c =
      match canList settings serviceId with
      | .error e => (.error e, c)
      | .ok () => (listed responses, c.sending responses [listing settings serviceId]) := by
  rw [← onWire_listRequest]
  exact Remote.outcome_ask hc _ _

theorem cancel_sent {settings : Settings} {serviceId : String} {s s' : Session Remote}
    {responses : List ApiResponse} {result : Except Failure (List String)}
    (hs : s.cluster.network = .scripted responses)
    (h : (cancel settings serviceId).outcome s = (result, s')) :
    ∃ requests, s'.cluster = s.cluster.sending responses requests ∧
      Cancels settings serviceId responses requests result := by
  rw [outcome_cancel, outcome_listJobs settings serviceId hs] at h
  cases hcan : canList settings serviceId with
  | error e₀ =>
    rw [hcan] at h
    cases h
    exact ⟨[], (Remote.sending_nil hs).symm, .unsent hcan⟩
  | ok =>
    cases hlist : listed responses with
    | error e₀ =>
      rw [hcan, hlist] at h
      cases h
      exact ⟨[listing settings serviceId], rfl, .unlisted hcan hlist⟩
    | ok jobs =>
      obtain ⟨deleted, c, hdelete, hjoins⟩ := outcome_deleteAll settings.namespace_
        (activeNames jobs)
        { s with cluster := s.cluster.sending responses [listing settings serviceId] }
      have hnetwork : (s.cluster.sending responses [listing settings serviceId]).network =
        .scripted (responses.drop 1) := rfl
      obtain ⟨order, rfl, hdeletes⟩ := deletions_sent hnetwork hjoins
      simp only [hcan, hlist, hdelete] at h
      have hsent := Remote.sending_sending s.cluster responses [listing settings serviceId]
        (order.map (deletion settings))
      have hway := Cancels.deleting hcan hlist hdeletes
      cases deleted with
      | error e =>
        cases h
        exact ⟨clearing settings serviceId order, hsent, hway⟩
      | ok =>
        cases h
        exact ⟨clearing settings serviceId order, hsent, hway⟩

namespace Cancels

variable {settings : Settings} {serviceId : String} {responses : List ApiResponse}
  {requests : List ApiRequest} {result : Except Failure (List String)}

/-- A cancellation begins with the listing, or sends nothing and fails. -/
theorem start (h : Cancels settings serviceId responses requests result) :
    (canList settings serviceId ≠ .ok () ∧ requests = [] ∧ ∃ e, result = .error e) ∨
      (canList settings serviceId = .ok () ∧
        requests.head? = some (listing settings serviceId)) := by
  cases h with
  | unsent hcan => exact .inl ⟨by rw [hcan]; simp, rfl, _, rfl⟩
  | unlisted hcan => exact .inr ⟨hcan, rfl⟩
  | deleting hcan => exact .inr ⟨hcan, rfl⟩

/-- A cancellation succeeds when nothing stands in the way of the listing and of any deletion. -/
theorem done {jobs : List Job} (h : Cancels settings serviceId responses requests result)
    (hcan : canList settings serviceId = .ok ()) (hlist : listed responses = .ok jobs)
    (hdelete : ∀ name ∈ activeNames jobs, canDelete settings name = .ok ())
    (hgone : ∀ j < (activeNames jobs).length, IsGone responses[j + 1]?) :
    result = .ok (activeNames jobs) := by
  cases h with
  | unsent hno =>
    rw [hcan] at hno
    cases hno
  | unlisted _ hno =>
    rw [hlist] at hno
    cases hno
  | deleting _ hlist' hdeletes =>
    rw [hlist] at hlist'
    cases hlist'
    rw [hdeletes.done hdelete fun j hj => isGone_drop_one.2 (hgone j hj)]
    rfl

/-- A cancellation that succeeds has deleted every active job. -/
theorem of_ok {names : List String}
    (h : Cancels settings serviceId responses requests (.ok names)) :
    ∃ jobs order, listed responses = .ok jobs ∧ order.Perm (activeNames jobs) ∧
      requests = clearing settings serviceId order ∧
      ∀ j < order.length, IsGone responses[j + 1]? := by
  generalize hresult : Except.ok names = result at h
  cases h with
  | unsent => cases hresult
  | unlisted => cases hresult
  | deleting hcan hlist hdeletes =>
    rename_i jobs order result
    cases result with
    | error e => cases hresult
    | ok =>
      obtain ⟨hall, hgone⟩ := hdeletes.ok rfl
      exact ⟨jobs, order, hlist, hall, rfl, fun j hj => isGone_drop_one.1 (hgone j hj)⟩

/-- A request of a cancellation is the listing, which comes first, or the deletion of a job. -/
theorem request_cases (h : Cancels settings serviceId responses requests result) {i : Nat}
    {r : ApiRequest} (hr : requests[i]? = some r) :
    (i = 0 ∧ r = listing settings serviceId) ∨ ∃ name, r = deletion settings name := by
  cases h with
  | unsent => simp at hr
  | unlisted =>
    cases i with
    | zero =>
      rw [List.getElem?_cons_zero] at hr
      exact .inl ⟨rfl, (Option.some.inj hr).symm⟩
    | succ i => simp at hr
  | deleting hcan hlist hdeletes =>
    obtain hfirst | ⟨j, name, -, -, rfl⟩ := clearing_cases hr
    · exact .inl hfirst
    · exact .inr ⟨name, rfl⟩

/-- Only active jobs of the list are deleted, each no more often than it is there. -/
theorem deleted (h : Cancels settings serviceId responses requests result) :
    (requests.filter (·.method = .delete)).Subperm
      ((activeListed responses).map fun job => deletion settings job.metadata.anyName) := by
  cases h with
  | unsent => exact List.nil_subperm
  | unlisted => exact List.nil_subperm
  | deleting hcan hlist hdeletes =>
    obtain ⟨names, hperm, hsublist⟩ := hdeletes.once
    rw [activeNames_eq hlist] at hsublist
    have hjobs := hsublist.map (deletion settings)
    rw [List.map_map] at hjobs
    rw [filter_delete_clearing]
    exact ⟨names.map (deletion settings), hperm.map _, hjobs⟩

/-- Nothing follows a listing that is not answered with a list. -/
theorem is_listed (h : Cancels settings serviceId responses requests result)
    (hmore : 1 < requests.length) : ∃ jobs, listed responses = .ok jobs := by
  cases h with
  | unsent => simp at hmore
  | unlisted => simp at hmore
  | deleting hcan hlist => exact ⟨_, hlist⟩

end Cancels

/-! ## A submission -/

/-- The ways in which a submission goes: the requests it sends and what comes of it. -/
inductive Submits (settings : Settings) (request : BuildRequest) (at_ : Instant)
    (responses : List ApiResponse) : List ApiRequest → Except Failure String → Prop
  | refused {e₀ e : Failure} (hcheck : checkRequest request at_ = .error e₀) :
    Submits settings request at_ responses [] (.error e)
  | uncreated {requests : List ApiRequest} {canceled : Except Failure (List String)} {e : Failure}
    (hcheck : checkRequest request at_ = .ok ())
    (hcancel : Cancels settings request.serviceId responses requests canceled)
    (hwhy : ∀ names, canceled = .ok names → canCreate settings request at_ ≠ .ok ()) :
    Submits settings request at_ responses requests (.error e)
  | creating {requests : List ApiRequest} {names : List String} {result : Except Failure String}
    (hcheck : checkRequest request at_ = .ok ())
    (hcancel : Cancels settings request.serviceId responses requests (.ok names))
    (hname : ∀ name, result = .ok name ↔ name = jobName request at_ ∧
      ∃ job, answer Job.ofJson? responses[requests.length]? = .ok job) :
    Submits settings request at_ responses (requests ++ [creation settings request at_]) result

theorem outcome_createJob (settings : Settings) (request : BuildRequest) (at_ : Instant)
    {c : Remote} {responses : List ApiResponse} (hc : c.network = .scripted responses) :
    (Cluster.createJob settings.namespace_
        (manifest request (jobName request at_) at_ settings) : Attempt Remote Job).outcome c =
      match canCreate settings request at_ with
      | .error e => (.error e, c)
      | .ok () => (answer Job.ofJson? responses.head?,
          c.sending responses [creation settings request at_]) := by
  rw [← onWire_createRequest]
  exact Remote.outcome_ask hc _ _

theorem submit_sent {settings : Settings} {request : BuildRequest} {s s' : Session Remote}
    {responses : List ApiResponse} {result : Except Failure String}
    (hs : s.cluster.network = .scripted responses)
    (h : (submit settings request).outcome s = (result, s')) :
    ∃ requests, s'.cluster = s.cluster.sending responses requests ∧
      Submits settings request s.now responses requests result := by
  rw [outcome_submit] at h
  cases hcheck : checkRequest request s.now with
  | error e₀ =>
    rw [hcheck] at h
    cases h
    exact ⟨[], (Remote.sending_nil hs).symm, .refused hcheck⟩
  | ok =>
    rcases hcancel : (cancel settings request.serviceId).outcome s with ⟨canceled, s₁⟩
    obtain ⟨requests, hcluster, hcancels⟩ := cancel_sent hs hcancel
    rw [hcheck, hcancel] at h
    cases canceled with
    | error e₀ =>
      cases h
      exact ⟨requests, hcluster, .uncreated hcheck hcancels (by intro names hok; cases hok)⟩
    | ok names =>
      have hnetwork : s₁.cluster.network = .scripted (responses.drop requests.length) := by
        rw [hcluster, Remote.sending]
      dsimp only at h
      rw [outcome_createJob settings request s.now hnetwork] at h
      have hsending := Remote.sending_sending s.cluster responses requests
        [creation settings request s.now]
      cases hcan : canCreate settings request s.now with
      | error e₀ =>
        rw [hcan] at h
        cases h
        exact ⟨requests, hcluster, .uncreated hcheck hcancels (by simp [hcan])⟩
      | ok =>
        -- The creation is sent; what its response comes to decides the result.
        rw [hcan, List.head?_drop] at h
        cases hanswer : answer Job.ofJson? responses[requests.length]? with
        | error e₀ =>
          rw [hanswer] at h
          cases h
          refine ⟨requests ++ [creation settings request s.now], ?_,
            .creating hcheck hcancels fun name => by simp [hanswer]⟩
          rw [hcluster]
          exact hsending
        | ok job =>
          rw [hanswer] at h
          cases h
          refine ⟨requests ++ [creation settings request s.now], ?_,
            .creating hcheck hcancels fun name => by simp [hanswer, eq_comm]⟩
          rw [hcluster]
          exact hsending

namespace Submits

variable {settings : Settings} {request : BuildRequest} {at_ : Instant}
  {responses : List ApiResponse} {requests : List ApiRequest} {result : Except Failure String}

/-- A submission begins with the listing, or sends nothing. -/
theorem start (h : Submits settings request at_ responses requests result) :
    (requests = [] ∧
      (checkRequest request at_ ≠ .ok () ∨ canList settings request.serviceId ≠ .ok ())) ∨
    (checkRequest request at_ = .ok () ∧ canList settings request.serviceId = .ok () ∧
      requests.head? = some (listing settings request.serviceId)) := by
  cases h with
  | refused hcheck => exact .inl ⟨rfl, .inl (by rw [hcheck]; simp)⟩
  | uncreated hcheck hcancel =>
    rcases hcancel.start with ⟨hno, hnone, -⟩ | ⟨hcan, hfirst⟩
    · exact .inl ⟨hnone, .inr hno⟩
    · exact .inr ⟨hcheck, hcan, hfirst⟩
  | creating hcheck hcancel =>
    rcases hcancel.start with ⟨-, -, e, hfails⟩ | ⟨hcan, hfirst⟩
    · cases hfails
    · refine .inr ⟨hcheck, hcan, ?_⟩
      rw [List.head?_append, hfirst]
      rfl

/-- A request of a submission is the listing, which comes first, the deletion of a job, or the
creation, which comes last, after the deletions of all active jobs of the list, which are gone. -/
theorem request_cases (h : Submits settings request at_ responses requests result) {i : Nat}
    {r : ApiRequest} (hr : requests[i]? = some r) :
    (i = 0 ∧ r = listing settings request.serviceId) ∨ (∃ name, r = deletion settings name) ∨
    (r = creation settings request at_ ∧ i + 1 = requests.length ∧
      ∃ jobs order, listed responses = .ok jobs ∧ order.Perm (activeNames jobs) ∧
        requests = schedule settings request at_ order ∧
        ∀ j < order.length, IsGone responses[j + 1]?) := by
  cases h with
  | refused => simp at hr
  | uncreated hcheck hcancel =>
    obtain hfirst | hdelete := hcancel.request_cases hr
    · exact .inl hfirst
    · exact .inr (.inl hdelete)
  | creating hcheck hcancel =>
    rename_i requests names hname
    rcases Nat.lt_or_ge i requests.length with hi | hi
    · rw [List.getElem?_append_left hi] at hr
      obtain hfirst | hdelete := hcancel.request_cases hr
      · exact .inl hfirst
      · exact .inr (.inl hdelete)
    · rw [List.getElem?_append_right hi, List.getElem?_singleton] at hr
      split at hr
      · obtain ⟨jobs, order, hlist, hall, rfl, hgone⟩ := hcancel.of_ok
        refine .inr (.inr ⟨(Option.some.inj hr).symm, ?_, jobs, order, hlist, hall, rfl, hgone⟩)
        rw [List.length_append, List.length_singleton]
        omega
      · cases hr

theorem deleted (h : Submits settings request at_ responses requests result) :
    (requests.filter (·.method = .delete)).Subperm
      ((activeListed responses).map fun job => deletion settings job.metadata.anyName) := by
  cases h with
  | refused => exact List.nil_subperm
  | uncreated hcheck hcancel => exact hcancel.deleted
  | creating hcheck hcancel =>
    rw [List.filter_append, List.filter_cons_of_neg (by simp [creation]), List.filter_nil,
      List.append_nil]
    exact hcancel.deleted

/-- Nothing follows a listing that is not answered with a list. -/
theorem is_listed (h : Submits settings request at_ responses requests result)
    (hmore : 1 < requests.length) : ∃ jobs, listed responses = .ok jobs := by
  cases h with
  | refused => simp at hmore
  | uncreated hcheck hcancel => exact hcancel.is_listed hmore
  | creating hcheck hcancel =>
    obtain ⟨jobs, order, hlist, -⟩ := hcancel.of_ok
    exact ⟨jobs, hlist⟩

/-- A submission sends its whole schedule when nothing stands in the way of any request, and succeeds
when the creation is answered with a job. -/
theorem done {jobs : List Job} (h : Submits settings request at_ responses requests result)
    (hcheck : checkRequest request at_ = .ok ())
    (hcan : canList settings request.serviceId = .ok ()) (hlist : listed responses = .ok jobs)
    (hdelete : ∀ name ∈ activeNames jobs, canDelete settings name = .ok ())
    (hgone : ∀ j < (activeNames jobs).length, IsGone responses[j + 1]?)
    (hcreate : canCreate settings request at_ = .ok ()) :
    ∃ order, order.Perm (activeNames jobs) ∧ requests = schedule settings request at_ order ∧
      ∀ job, answer Job.ofJson? responses[(activeNames jobs).length + 1]? = .ok job →
        result = .ok (jobName request at_) := by
  cases h with
  | refused hno =>
    rw [hcheck] at hno
    cases hno
  | uncreated _ hcancel hwhy =>
    exact absurd hcreate (hwhy _ (hcancel.done hcan hlist hdelete hgone))
  | creating _ hcancel hname =>
    obtain ⟨jobs', order, hlist', hall, rfl, -⟩ := hcancel.of_ok
    rw [hlist] at hlist'
    cases hlist'
    refine ⟨order, hall, rfl, fun job hanswer => (hname _).2 ⟨rfl, job, ?_⟩⟩
    rwa [clearing, List.length_cons, List.length_map, hall.length_eq]

end Submits

/-- What the requests of a submission keep to, with these responses. -/
structure Orderly (settings : Settings) (request : BuildRequest) (at_ : Instant)
    (responses : List ApiResponse) (requests : List ApiRequest) (result : Except Failure String) :
    Prop where
  /-- Nothing is sent when an id or the name of the job is no label value. -/
  refused : ¬ HasLabelValues request at_ → requests = []
  /-- Otherwise the jobs of the service are asked for first. A namespace that is a label value does not
  stand in the way of that. -/
  first : HasLabelValues request at_ →
    canList settings request.serviceId = .ok () ∨ labelFault? settings.namespace_ = none →
      requests.head? = some (listing settings request.serviceId)
  /-- If that cannot be asked for, nothing else is. -/
  unlisted : ∀ e, canList settings request.serviceId = .error e → requests = []
  /-- They are asked for once. -/
  get : ∀ (i : Nat) (r : ApiRequest), requests[i]? = some r → r.method = .get →
    i = 0 ∧ r = listing settings request.serviceId
  /-- Nothing follows unless they are listed. -/
  is_listed : 1 < requests.length → ∃ jobs, listed responses = .ok jobs
  /-- Only active jobs of the list are asked to be deleted, in some order, each no more often than it
  is there. -/
  delete : (requests.filter (·.method = .delete)).Subperm
    ((activeListed responses).map fun job => deletion settings job.metadata.anyName)
  /-- The job is created last, after all the active jobs of the list were asked to be deleted and
  are gone. -/
  post : ∀ (i : Nat) (r : ApiRequest), requests[i]? = some r → r.method = .post →
    r = creation settings request at_ ∧ i + 1 = requests.length ∧
      (∃ jobs, listed responses = .ok jobs) ∧
      (requests.filter (·.method = .delete)).Perm
        ((activeListed responses).map fun job => deletion settings job.metadata.anyName) ∧
      ∀ (j : Nat) (d : ApiRequest), requests[j]? = some d → d.method = .delete →
        IsGone responses[j]?
  /-- The submission succeeds only when the creation is answered with a job. -/
  ok : ∀ name, result = .ok name → name = jobName request at_ ∧
    ∃ (i : Nat) (job : Job), requests[i]? = some (creation settings request at_) ∧
      answer Job.ofJson? responses[i]? = .ok job
  /-- When nothing stands in the way everything is sent, and the submission succeeds. -/
  done : ∀ jobs, HasLabelValues request at_ → canList settings request.serviceId = .ok () →
    listed responses = .ok jobs →
    (∀ job ∈ activeListed responses, canDelete settings job.metadata.anyName = .ok ()) →
    (∀ j < (activeListed responses).length, IsGone responses[j + 1]?) →
    canCreate settings request at_ = .ok () →
      ∃ order, order.Perm ((activeListed responses).map (·.metadata.anyName)) ∧
        requests = schedule settings request at_ order ∧
        ∀ job, answer Job.ofJson? responses[(activeListed responses).length + 1]? = .ok job →
          result = .ok (jobName request at_)

/-- What a submission keeps to follows from the ways in which it goes. -/
theorem Submits.orderly {settings : Settings} {request : BuildRequest} {at_ : Instant}
    {responses : List ApiResponse} {requests : List ApiRequest} {result : Except Failure String}
    (h : Submits settings request at_ responses requests result) :
    Orderly settings request at_ responses requests result where
  refused := by
    intro hlabels
    rcases h.start with ⟨hnone, -⟩ | ⟨hcheck, -, -⟩
    · exact hnone
    · exact absurd (checkRequest_eq_ok_iff.1 hcheck) hlabels
  first := by
    intro hlabels hns
    have hcan : canList settings request.serviceId = .ok () :=
      hns.elim id fun hns => canList_of_labelFault? hns hlabels.1
    rcases h.start with ⟨-, hno | hno⟩ | ⟨-, -, hfirst⟩
    · exact absurd (checkRequest_eq_ok_iff.2 hlabels) hno
    · exact absurd hcan hno
    · exact hfirst
  unlisted := by
    intro e hno
    rcases h.start with ⟨hnone, -⟩ | ⟨-, hcan, -⟩
    · exact hnone
    · rw [hno] at hcan
      cases hcan
  get := by
    intro i r hr hmethod
    obtain hfirst | ⟨name, rfl⟩ | ⟨rfl, -⟩ := h.request_cases hr
    · exact hfirst
    · cases hmethod
    · cases hmethod
  is_listed := h.is_listed
  delete := h.deleted
  post := by
    intro i r hr hmethod
    obtain ⟨-, rfl⟩ | ⟨name, rfl⟩ | ⟨rfl, hlast, jobs, order, hlist, hall, rfl, hgone⟩ :=
      h.request_cases hr
    · cases hmethod
    · cases hmethod
    · refine ⟨rfl, hlast, ⟨jobs, hlist⟩, ?_, fun j d hd hdelete => ?_⟩
      · have hjobs := hall.map (deletion settings)
        rw [activeNames_eq hlist, List.map_map] at hjobs
        rw [filter_delete_schedule]
        exact hjobs
      · -- Among the requests of a schedule the deletions stand between the first and the last.
        rcases Nat.lt_or_ge j (clearing settings request.serviceId order).length with hj | hj
        · rw [schedule, List.getElem?_append_left hj] at hd
          obtain ⟨-, rfl⟩ | ⟨k, name, rfl, hname, rfl⟩ := clearing_cases hd
          · cases hdelete
          · exact hgone k (List.getElem?_eq_some_iff.1 hname).1
        · rw [schedule, List.getElem?_append_right hj, List.getElem?_singleton] at hd
          split at hd
          · obtain rfl := Option.some.inj hd
            cases hdelete
          · cases hd
  ok := by
    intro name hok
    cases h with
    | refused => cases hok
    | uncreated => cases hok
    | creating hcheck hcancel hname =>
      rename_i requests names
      obtain ⟨rfl, job, hanswer⟩ := (hname name).1 hok
      refine ⟨rfl, requests.length, job, ?_, hanswer⟩
      rw [List.getElem?_append_right (Nat.le_refl _), Nat.sub_self, List.getElem?_cons_zero]
  done := by
    intro jobs hlabels hcan hlist hdelete hgone hcreate
    have hnames := activeNames_eq hlist
    have hlength : (activeNames jobs).length = (activeListed responses).length := by
      rw [hnames, List.length_map]
    have hcanDelete : ∀ name ∈ activeNames jobs, canDelete settings name = .ok () := by
      rw [hnames]
      exact List.forall_mem_map.2 hdelete
    rw [← hnames, ← hlength]
    rw [← hlength] at hgone
    exact h.done (checkRequest_eq_ok_iff.2 hlabels) hcan hlist hcanDelete hgone hcreate

/-- **The requests of a submission.** Whatever the API server answers, with any number of responses and
in whatever order the deletions go, a submission lists the jobs of its service, deletes the active ones
among them and creates the new job when all of them are gone. -/
theorem submit_orderly {settings : Settings} {request : BuildRequest} {s : Session Remote}
    {responses : List ApiResponse} (hs : s.cluster.network = .scripted responses) :
    ∃ requests,
      ((submit settings request).outcome s).2.cluster.sent = s.cluster.sent ++ requests ∧
      Orderly settings request s.now responses requests
        ((submit settings request).outcome s).1 := by
  rcases hsubmit : (submit settings request).outcome s with ⟨result, s'⟩
  obtain ⟨requests, hcluster, hsubmits⟩ := submit_sent hs hsubmit
  refine ⟨requests, ?_, hsubmits.orderly⟩
  rw [hcluster, Remote.sending]

/-- A service with an active job, which is gone when it comes to be deleted, and a finished one. -/
def goneScript : List ApiResponse := [
  ⟨200, "\x7b\"metadata\":\x7b\x7d,\"items\":[" ++
    "\x7b\"metadata\":\x7b\"name\":\"old\"\x7d,\"status\":\x7b\"active\":1\x7d\x7d," ++
    "\x7b\"metadata\":\x7b\"name\":\"done\"\x7d,\"status\":\x7b\"active\":0\x7d\x7d]\x7d"⟩,
  ⟨404, "gone"⟩,
  ⟨201, "\x7b\"metadata\":\x7b\"name\":\"new-deployment-0\"\x7d\x7d"⟩]

/-- One listing, one deletion and one creation, in this order, and nothing before or after them. -/
theorem submit_orderly_goneScript :
    ∃ s : Session Remote, s.cluster.network = .scripted goneScript ∧
      ((submit {} { serviceId := "svc", jobId := "new" }).outcome s).1.toOption =
        some "new-deployment-0" ∧
      ((submit {} { serviceId := "svc", jobId := "new" }).outcome s).2.cluster.sent.map
        (·.method) = [.get, .delete, .post] ∧
      ∃ requests,
        ((submit {} { serviceId := "svc", jobId := "new" }).outcome s).2.cluster.sent =
          s.cluster.sent ++ requests ∧
        Orderly {} { serviceId := "svc", jobId := "new" } s.now goneScript requests
          ((submit {} { serviceId := "svc", jobId := "new" }).outcome s).1 := by
  let s : Session Remote := { cluster := { network := .scripted goneScript }, now := .epoch }
  have hrun : ((submit {} { serviceId := "svc", jobId := "new" }).outcome s).1.toOption =
        some "new-deployment-0" ∧
      ((submit {} { serviceId := "svc", jobId := "new" }).outcome s).2.cluster.sent.map
        (·.method) = [.get, .delete, .post] := by
    decide +kernel
  exact ⟨s, rfl, hrun.1, hrun.2, submit_orderly (s := s) rfl⟩

/-- A service with one active job, which has a number sign in its name. -/
def hashScript : List ApiResponse := [
  ⟨200, "\x7b\"metadata\":\x7b\x7d,\"items\":[" ++
    "\x7b\"metadata\":\x7b\"name\":\"x#y\"\x7d,\"status\":\x7b\"active\":1\x7d\x7d]\x7d"⟩,
  ⟨200, "\x7b\"metadata\":\x7b\"name\":\"x\"\x7d\x7d"⟩,
  ⟨201, "\x7b\"metadata\":\x7b\"name\":\"new-deployment-0\"\x7d\x7d"⟩]

/-- The API server of `hashScript`. -/
def hashYard : Session Remote := { cluster := { network := .scripted hashScript }, now := .epoch }

/-- The deletion of a job with a number sign in its name goes to a job that is not on the list. -/
theorem deletes_unlisted_hashScript :
    (activeListed hashScript).map (·.metadata.anyName) = ["x#y"] ∧
      ∃ r ∈ ((submit {} { serviceId := "svc", jobId := "new" }).outcome hashYard).2.cluster.sent,
        r.method = .delete ∧ r.uri = "/apis/batch/v1/namespaces/unbind-system/jobs/x" := by
  decide +kernel

end BuildYard.Build
