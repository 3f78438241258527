import BuildYard.Proofs.Build.Steps
import BuildYard.Proofs.Service.Calls
/-!
# What the server cannot give away

Two runs of the server may differ in secrets: in the database that builds talk to, and in the values of
the variables that callers give to their builds. Both go into the templates of the pods of jobs and
nowhere else. This file shows that nothing that can be observed depends on those templates.

* `Attempt.Alike`: two computations cannot be told apart by what is seen of their results and of the
  states they leave. It is kept by everything that computations are made of.
* `Store.seen`: a store without the templates. Every operation of a store is alike itself.
* `alike_operation`: calls that differ in secrets are alike.
-/

namespace BuildYard

/-! ## Computations that cannot be told apart -/

namespace Attempt

variable {σ τ α β γ δ : Type}

/-- Two computations come to results and states that look the same, from states that look the
same. -/
def Alike (see : σ → τ) (view : α → γ) (a a' : Attempt σ α) : Prop :=
  ∀ s s', see s = see s' →
    (a.outcome s).1.map view = (a'.outcome s').1.map view ∧
      see (a.outcome s).2 = see (a'.outcome s').2

namespace Alike

variable {see : σ → τ} {view : α → γ} {view' : β → δ}

theorem pure {x x' : α} (h : view x = view x') :
    Alike see view (Pure.pure x) (Pure.pure x') := by
  intro s s' hs
  exact ⟨congrArg Except.ok h, hs⟩

theorem ofResult (r : Except Failure α) :
    Alike see id (Attempt.ofResult r) (Attempt.ofResult r) := by
  intro s s' hs
  exact ⟨rfl, hs⟩

theorem map_id (r : Except Failure α) : r.map id = r := by
  cases r <;> rfl

/-- A function of the whole result. -/
theorem changed {a a' : Attempt σ α} (h : Alike see id a a')
    (change : Except Failure α → Except Failure α) :
    Alike see id (.of fun s => let (r, s') := a.outcome s; (change r, s'))
      (.of fun s => let (r, s') := a'.outcome s; (change r, s')) := by
  intro s s' hs
  obtain ⟨hresult, hstate⟩ := h s s' hs
  rw [map_id, map_id] at hresult
  refine ⟨?_, hstate⟩
  simp only [outcome_of, hresult]

/-- What follows may depend on what is seen of the result before it. -/
theorem bind {a a' : Attempt σ α} {f f' : α → Attempt σ β} (h : Alike see view a a')
    (hf : ∀ x x', view x = view x' → Alike see view' (f x) (f' x')) :
    Alike see view' (a >>= f) (a' >>= f') := by
  intro s s' hs
  obtain ⟨hresult, hstate⟩ := h s s' hs
  rw [outcome_bind, outcome_bind]
  rcases ha : a.outcome s with ⟨e | x, t⟩ <;> rcases ha' : a'.outcome s' with ⟨e' | x', t'⟩ <;>
    rw [ha, ha'] at hresult hstate
  · exact ⟨congrArg Except.error (Except.error.inj hresult), hstate⟩
  · cases hresult
  · cases hresult
  · exact hf x x' (Except.ok.inj hresult) t t' hstate

theorem map_during (operation : String) (r : Except Failure α) :
    (during operation r).map view = during operation (r.map view) := by
  cases r <;> rfl

theorem within {a a' : Attempt σ α} (h : Alike see view a a') (operation : String) :
    Alike see view (a.within operation) (a'.within operation) := by
  intro s s' hs
  obtain ⟨hresult, hstate⟩ := h s s' hs
  refine ⟨?_, hstate⟩
  rw [outcome_within, outcome_within, map_during, map_during, hresult]

end Alike

end Attempt

/-- A session with its cluster seen through a function. -/
def Session.seen {σ τ : Type} (see : σ → τ) (s : Session σ) : Session τ where
  cluster := see s.cluster
  counters := s.counters
  now := s.now

namespace Attempt.Alike

variable {σ τ α γ : Type} {see : σ → τ} {view : α → γ}

theorem onCluster {a a' : Attempt σ α} (h : Alike see view a a') :
    Alike (Session.seen see) view (Session.onCluster a) (Session.onCluster a') := by
  intro s s' hs
  obtain ⟨hcluster, hcounters, hnow⟩ := Session.mk.inj hs
  obtain ⟨hresult, hstate⟩ := h s.cluster s'.cluster hcluster
  refine ⟨hresult, ?_⟩
  simp only [Session.outcome_onCluster, Session.seen, hstate, hcounters, hnow]

theorem count (f : Counters → Counters) :
    Alike (Session.seen see) id (Session.count f) (Session.count f) := by
  intro s s' hs
  obtain ⟨hcluster, hcounters, hnow⟩ := Session.mk.inj hs
  refine ⟨rfl, ?_⟩
  simp only [Session.outcome_count, Session.seen, hcluster, hcounters, hnow]

theorem clock : Alike (Session.seen see) id (Session.clock) (Session.clock) := by
  intro s s' hs
  exact ⟨congrArg Except.ok (Session.mk.inj hs).2.2, hs⟩

end Attempt.Alike

/-! ## Stores without the templates of pods -/

/-- The job without the template of its pods. -/
def Job.withoutTemplate (job : Job) : Job :=
  { job with spec := job.spec.map fun spec => { spec with template := {} } }

namespace Store

open Attempt (Alike)

/-- The store as it can be seen: without the templates of the pods of jobs. -/
def seen (s : Store) : Store := { s with jobs := s.jobs.map Job.withoutTemplate }

/-- Results with stores that look the same. -/
def viewed {α γ : Type} (view : α → γ) (r : α × Store) : γ × Store := (view r.1, r.2.seen)

variable {α γ : Type} {view : α → γ}

/-- An operation is alike another if they are whenever they are not made to fail. -/
theorem alike_attempt {operation : Operation} {f f' : Store → Except Failure (α × Store)}
    (h : ∀ s s', s.seen = s'.seen → (f s).map (viewed view) = (f' s').map (viewed view)) :
    Alike seen view (attempt operation f) (attempt operation f') := by
  intro s s' hs
  have hfaults : s.faults = s'.faults := (Store.mk.inj hs).2.2.2.2.2
  simp only [attempt, Attempt.outcome_of, hfaults]
  cases s'.faults operation with
  | some message => exact ⟨rfl, hs⟩
  | none =>
    have hresult := h s s' hs
    rcases hf : f s with e | ⟨a, t⟩ <;> rcases hf' : f' s' with e' | ⟨a', t'⟩ <;>
      rw [hf, hf'] at hresult
    · exact ⟨congrArg Except.error (Except.error.inj hresult), hs⟩
    · cases hresult
    · cases hresult
    · obtain ⟨hview, hstate⟩ := Prod.mk.inj (Except.ok.inj hresult)
      exact ⟨congrArg Except.ok hview, hstate⟩

theorem alike_look {operation : Operation} {f f' : Store → Except Failure α}
    (h : ∀ s s', s.seen = s'.seen → (f s).map view = (f' s').map view) :
    Alike seen view (look operation f) (look operation f') := by
  refine alike_attempt fun s s' hs => ?_
  have hresult := h s s' hs
  rcases hf : f s with e | a <;> rcases hf' : f' s' with e' | a' <;> rw [hf, hf'] at hresult
  · exact congrArg Except.error (Except.error.inj hresult)
  · cases hresult
  · cases hresult
  · exact congrArg Except.ok (Prod.ext (Except.ok.inj hresult) hs)

theorem within_map (objects : SortedMap ObjectKey Job) (ns : String) {test : Job → Bool}
    (htest : ∀ job, test job.withoutTemplate = test job) :
    within (objects.map Job.withoutTemplate) ns test =
      (within objects ns test).map Job.withoutTemplate := by
  simp only [within, SortedMap.map_filter, SortedMap.values_map, htest]

/-- A listing shows the jobs of a store as they can be seen. -/
theorem listJobs_seen (s : Store) (ns : String) (selector : Selector) :
    s.seen.listJobs ns selector = (s.listJobs ns selector).map Job.withoutTemplate :=
  within_map s.jobs ns fun _ => rfl

theorem lookup_jobs_seen (s : Store) (ns name : String) :
    lookup s.seen.jobs .job ns name = (lookup s.jobs .job ns name).map Job.withoutTemplate := by
  rw [lookup, seen, SortedMap.find?_map, lookup]
  cases s.jobs.find? ⟨ns, name⟩ <;> rfl

theorem alike_listJobs (ns : String) (selector : Selector) :
    Alike seen (List.map Job.withoutTemplate)
      (Cluster.listJobs ns selector : Attempt Store (List Job)) (Cluster.listJobs ns selector) := by
  refine alike_look fun s s' hs => ?_
  show Except.ok _ = Except.ok _
  rw [← listJobs_seen, ← listJobs_seen, hs]

theorem alike_getJob (ns name : String) :
    Alike seen Job.withoutTemplate (Cluster.getJob ns name : Attempt Store Job)
      (Cluster.getJob ns name) := by
  refine alike_look fun s s' hs => ?_
  rw [← lookup_jobs_seen, ← lookup_jobs_seen, hs]

theorem contains_jobs_seen (s : Store) (key : ObjectKey) :
    s.seen.jobs.contains key = s.jobs.contains key :=
  SortedMap.contains_map ..

theorem createJob_seen (s : Store) (ns : String) (job : Job) :
    s.seen.createJob ns job.withoutTemplate =
      (s.createJob ns job).map (viewed Job.withoutTemplate) := by
  have hname : job.withoutTemplate.metadata = job.metadata := rfl
  unfold createJob
  rw [hname]
  cases job.metadata.name with
  | none => rfl
  | some name =>
    dsimp only
    by_cases hthere : s.jobs.contains ⟨ns, name⟩ = true
    · rw [if_pos hthere, if_pos ((contains_jobs_seen s _).trans hthere)]
      rfl
    · rw [if_neg hthere, if_neg (by rwa [contains_jobs_seen])]
      simp only [Except.map, viewed, seen, SortedMap.map_insert]
      rfl

theorem deleteJob_seen (s : Store) (ns name : String) (propagation : Propagation) :
    s.seen.deleteJob ns name propagation = (s.deleteJob ns name propagation).seen := by
  unfold deleteJob
  by_cases hthere : s.jobs.contains ⟨ns, name⟩ = true
  · rw [if_pos hthere, if_pos ((contains_jobs_seen s _).trans hthere)]
    simp only [seen, SortedMap.map_erase]
  · rw [if_neg hthere, if_neg (by rwa [contains_jobs_seen])]

/-- Creations of jobs that differ in their templates. -/
theorem alike_createJob (ns : String) {job job' : Job}
    (h : job.withoutTemplate = job'.withoutTemplate) :
    Alike seen Job.withoutTemplate (Cluster.createJob ns job : Attempt Store Job)
      (Cluster.createJob ns job') := by
  refine alike_attempt fun s s' hs => ?_
  rw [← createJob_seen, ← createJob_seen, hs, h]

theorem alike_deleteJob (ns name : String) (propagation : Propagation) :
    Alike seen id (Cluster.deleteJob ns name propagation : Attempt Store Unit)
      (Cluster.deleteJob ns name propagation) := by
  show Alike seen id (attempt .deleteJob fun s => .ok ((), s.deleteJob ns name propagation))
    (attempt .deleteJob fun s => .ok ((), s.deleteJob ns name propagation))
  refine alike_attempt fun s s' hs => congrArg Except.ok (Prod.ext rfl ?_)
  show (s.deleteJob ns name propagation).seen = (s'.deleteJob ns name propagation).seen
  rw [← deleteJob_seen, ← deleteJob_seen, hs]

/-- What looks at nothing but the objects other than jobs. -/
theorem alike_look_others {operation : Operation} {f : Store → Except Failure α}
    (h : ∀ s, f s = f s.seen) : Alike seen id (look operation f) (look operation f) := by
  refine alike_look fun s s' hs => ?_
  rw [h s, h s', hs]

theorem alike_listPods (ns : String) (selector : Selector) :
    Alike seen id (Cluster.listPods ns selector : Attempt Store (List Pod))
      (Cluster.listPods ns selector) :=
  alike_look_others fun _ => rfl

theorem alike_getScaledSet (kind : ScaledKind) (ns name : String) :
    Alike seen id (Cluster.getScaledSet kind ns name : Attempt Store ScaledSet)
      (Cluster.getScaledSet kind ns name) :=
  alike_look_others fun _ => rfl

theorem alike_getDaemonSet (ns name : String) :
    Alike seen id (Cluster.getDaemonSet ns name : Attempt Store DaemonSet)
      (Cluster.getDaemonSet ns name) :=
  alike_look_others fun _ => rfl

end Store

/-! ## Operations -/

/-- The settings without the database that builds talk to. -/
def Settings.withoutDatabase (settings : Settings) : Settings := { settings with database := {} }

/-- The request without the values of the variables. -/
def BuildRequest.withoutValues (request : BuildRequest) : BuildRequest :=
  { request with env := request.env.map fun _ => "" }

namespace Build

open Attempt (Alike)

/-- What can be seen of a session over a store. -/
abbrev seen : Session Store → Session Store := Session.seen Store.seen

theorem activeNames_withoutTemplate (jobs : List Job) :
    activeNames (jobs.map Job.withoutTemplate) = activeNames jobs := by
  rw [activeNames, List.filter_map, List.map_map]
  rfl

theorem alike_inOrder {strands : List (Strand Store Unit)}
    (h : ∀ strand ∈ strands, Alike Store.seen id strand.run strand.run) :
    Alike Store.seen id (Strand.inOrder strands) (Strand.inOrder strands) := by
  induction strands with
  | nil => exact .pure rfl
  | cons strand strands ih =>
    obtain ⟨hfirst, hrest⟩ := List.forall_mem_cons.1 h
    exact .bind hfirst fun _ _ _ => ih hrest

theorem alike_deleteAll (ns : String) (names : List String) :
    Alike seen id (deleteAll ns names : Attempt (Session Store) Unit) (deleteAll ns names) := by
  have hdeletions : Alike Store.seen id (Strand.inOrder (deletions ns names))
      (Strand.inOrder (deletions ns names)) := by
    refine alike_inOrder fun strand hstrand => ?_
    obtain ⟨name, -, rfl⟩ := List.mem_map.1 hstrand
    exact (Store.alike_deleteJob ns name .foreground).within _
  exact hdeletions.onCluster

/-- A cancellation depends on nothing of the settings but the namespace. -/
theorem alike_cancel {settings settings' : Settings} (h : settings.namespace_ = settings'.namespace_)
    (serviceId : String) :
    Alike seen id (cancel settings serviceId : Attempt (Session Store) (List String))
      (cancel settings' serviceId) := by
  unfold cancel
  rw [h]
  refine .bind ((Store.alike_listJobs _ _).onCluster.within _) fun jobs jobs' hjobs => ?_
  have hnames : activeNames jobs = activeNames jobs' := by
    rw [← activeNames_withoutTemplate jobs, hjobs, activeNames_withoutTemplate]
  dsimp only
  rw [hnames]
  exact .bind (alike_deleteAll _ _) fun _ _ _ => .bind (.count _) fun _ _ _ => .pure rfl

/-- The job of a build without its template: the variables of the caller and the database are not in
it. -/
theorem withoutTemplate_manifest {request request' : BuildRequest} {settings settings' : Settings}
    (hsettings : settings.withoutDatabase = settings'.withoutDatabase)
    (hrequest : request.withoutValues = request'.withoutValues) (name : String) (at_ : Instant) :
    (manifest request name at_ settings).withoutTemplate =
      (manifest request' name at_ settings').withoutTemplate := by
  obtain ⟨-, hnamespace, -, -, -⟩ := Settings.mk.inj hsettings
  obtain ⟨hservice, hjob, -, htrigger⟩ := BuildRequest.mk.inj hrequest
  simp only [manifest, Job.withoutTemplate, Option.map_some, labels, hnamespace, hservice, hjob,
    htrigger]

/-- Submissions that differ in the database and in the values of variables. -/
theorem alike_submit {settings settings' : Settings} {request request' : BuildRequest}
    (hsettings : settings.withoutDatabase = settings'.withoutDatabase)
    (hrequest : request.withoutValues = request'.withoutValues) :
    Alike seen id (submit settings request : Attempt (Session Store) String)
      (submit settings' request') := by
  obtain ⟨-, hnamespace, -, -, -⟩ := Settings.mk.inj hsettings
  obtain ⟨hservice, hjob, -, htrigger⟩ := BuildRequest.mk.inj hrequest
  unfold submit
  refine .bind .clock fun now now' hnow => ?_
  obtain rfl : now = now' := hnow
  have hname : jobName request now = jobName request' now := by
    rw [jobName, jobName, hjob]
  have hcheck : checkRequest request now = checkRequest request' now := by
    rw [checkRequest, checkRequest, hservice, hjob, hname]
  rw [hcheck, hname, hservice, hnamespace]
  have hcreate := Store.alike_createJob settings'.namespace_
    (withoutTemplate_manifest hsettings hrequest (jobName request' now) now)
  refine .bind (.ofResult _) fun _ _ _ => .bind (alike_cancel hnamespace _) fun _ _ _ => ?_
  exact .bind (hcreate.onCluster.within _) fun _ _ _ => .bind (.count _) fun _ _ _ => .pure rfl

theorem needsPods_withoutTemplate (job : Job) : needsPods job.withoutTemplate = needsPods job := rfl

theorem statusOf_withoutTemplate (job : Job) (pods : List Pod) (now : Instant) :
    statusOf job.withoutTemplate pods now = statusOf job pods now := by
  obtain ⟨_, _ | spec, _⟩ := job
  · rfl
  · rfl

theorem alike_status (ns name : String) :
    Alike seen id (status ns name : Attempt (Session Store) BuildStatus) (status ns name) := by
  unfold status
  refine .bind ((Store.alike_getJob ns name).onCluster.within _) fun job job' hjob => ?_
  have hneeds : needsPods job = needsPods job' := by
    rw [← needsPods_withoutTemplate job, hjob, needsPods_withoutTemplate]
  have hstatus : ∀ pods now, statusOf job pods now = statusOf job' pods now := by
    intro pods now
    rw [← statusOf_withoutTemplate job, hjob, statusOf_withoutTemplate]
  rw [hneeds]
  have hrest : ∀ pods, Alike seen id
      (Session.clock >>= fun now => do
        Session.count (Counters.addPoll (statusOf job pods now).phase)
        return statusOf job pods now : Attempt (Session Store) BuildStatus)
      (Session.clock >>= fun now => do
        Session.count (Counters.addPoll (statusOf job' pods now).phase)
        return statusOf job' pods now) := by
    intro pods
    refine .bind .clock fun now now' hnow => ?_
    obtain rfl : now = now' := hnow
    rw [hstatus]
    exact .bind (.count _) fun _ _ _ => .pure rfl
  split
  · refine .bind ((Store.alike_listPods _ _).onCluster.within _) fun pods pods' hpods => ?_
    obtain rfl : pods = pods' := hpods
    exact hrest pods
  · exact hrest []

end Build

namespace Health

open Attempt (Alike)

theorem alike_podsOf (ns : String) (selector : Selector) :
    Alike Build.seen id (podsOf ns selector : Attempt (Session Store) (List Pod))
      (podsOf ns selector) :=
  (Store.alike_listPods ns selector).onCluster.within _

theorem alike_aggregate (ns : String) (selector : Selector) :
    Alike Build.seen id (aggregate ns selector : Attempt (Session Store) (List PodView))
      (aggregate ns selector) := by
  refine .bind (alike_podsOf ns selector) fun pods pods' hpods => ?_
  obtain rfl : pods = pods' := hpods
  exact .pure rfl

theorem alike_wanted (ns : String) (kind : OwnerKind) (name : String) :
    Alike Store.seen id (wanted ns kind name) (wanted ns kind name) := by
  cases kind with
  | scaled kind =>
    refine .bind (Store.alike_getScaledSet kind ns name) fun set set' hset => ?_
    obtain rfl : set = set' := hset
    exact .pure rfl
  | daemonSet =>
    refine .bind (Store.alike_getDaemonSet ns name) fun set set' hset => ?_
    obtain rfl : set = set' := hset
    exact .pure rfl

theorem alike_expectedFor (ns : String) (pod : Pod) :
    Alike Build.seen id (expectedFor ns pod : Attempt (Session Store) Int) (expectedFor ns pod) := by
  unfold expectedFor
  split
  · exact .pure rfl
  · split
    · exact .pure rfl
    · exact (alike_wanted ns _ _).onCluster.changed _

theorem alike_summaryOf (ns : String) (pods : List Pod) :
    Alike Build.seen id (summaryOf ns pods : Attempt (Session Store) HealthSummary)
      (summaryOf ns pods) := by
  unfold summaryOf
  split
  · exact .pure rfl
  · rename_i first _
    refine .bind (alike_expectedFor ns first) fun n n' hn => ?_
    obtain rfl : n = n' := hn
    exact .pure rfl

theorem alike_simpleHealth (ns : String) (selector : Selector) :
    Alike Build.seen id (simpleHealth ns selector : Attempt (Session Store) HealthSummary)
      (simpleHealth ns selector) := by
  refine .bind (alike_podsOf ns selector) fun pods pods' hpods => ?_
  obtain rfl : pods = pods' := hpods
  refine .bind (alike_summaryOf ns pods) fun found found' hfound => ?_
  obtain rfl : found = found' := hfound
  exact .bind (.count _) fun _ _ _ => .pure rfl

end Health

/-! ## Calls and requests -/

/-- Two calls are the same, or submissions that differ in the database and in the values of
variables. -/
inductive Call.Alike : Call → Call → Prop where
  | same (call : Call) : Call.Alike call call
  | submits {settings settings' : Settings} {request request' : BuildRequest}
      (hsettings : settings.withoutDatabase = settings'.withoutDatabase)
      (hrequest : request.withoutValues = request'.withoutValues) :
      Call.Alike (.submit settings request) (.submit settings' request')
  | cancels {settings settings' : Settings} (serviceId : String)
      (hsettings : settings.withoutDatabase = settings'.withoutDatabase) :
      Call.Alike (.cancel settings serviceId) (.cancel settings' serviceId)

open Attempt (Alike)

/-- What is answered is seen whole. -/
theorem Attempt.Alike.answer {α : Type} {a a' : Attempt (Session Store) α} (f : α → Json)
    (h : Alike Build.seen id a a') :
    Alike Build.seen id (a >>= fun x => Pure.pure (f x)) (a' >>= fun x => Pure.pure (f x)) := by
  refine .bind h fun x x' hx => ?_
  obtain rfl : x = x' := hx
  exact .pure rfl

theorem alike_operation {call call' : Call} (h : Call.Alike call call') :
    Alike Build.seen id (call.operation : Attempt (Session Store) Json) call'.operation := by
  cases h with
  | submits hsettings hrequest => exact (Build.alike_submit hsettings hrequest).answer _
  | cancels serviceId hsettings =>
    obtain ⟨-, hnamespace, -, -, -⟩ := Settings.mk.inj hsettings
    exact (Build.alike_cancel hnamespace serviceId).answer _
  | same =>
    cases call with
    | submit settings request => exact (Build.alike_submit rfl rfl).answer _
    | cancel settings serviceId => exact (Build.alike_cancel rfl serviceId).answer _
    | status ns name => exact (Build.alike_status ns name).answer _
    | aggregate ns selector => exact (Health.alike_aggregate ns selector).answer _
    | health ns selector => exact (Health.alike_simpleHealth ns selector).answer _

end BuildYard
