import BuildYard.Cluster.Basic
import Mathlib.Data.List.InsertIdx
/-!
# Watching the calls of a cluster fail

A watched cluster does what the cluster does, and keeps the calls that failed and what they failed
with, in order. Whatever is put together from the operations of a cluster runs over a watched one too;
`Attempt.Reports` says that it comes to the same there, and how its result depends on the calls that
failed:

* a call that fails is the last one, and its failure becomes the failure of the whole with nothing
  changed but the text in front of it (`PassedOn`);
* unless a pod's owner is asked for and does not exist (`FailedCall.IsForgiven`): then it goes on.
-/

namespace BuildYard

/-! ## Calls that fail -/

/-- A call of an operation of a cluster. Jobs are deleted with their pods. -/
inductive ClusterCall where
  | createJob (ns : String) (job : Job)
  | listJobs (ns : String) (selector : Selector)
  | getJob (ns name : String)
  | deleteJob (ns name : String)
  | listPods (ns : String) (selector : Selector)
  | getPod (ns name : String)
  | getScaledSet (kind : ScaledKind) (ns name : String)
  | getDaemonSet (ns name : String)

/-- Is this a call for the owner of a pod? -/
def ClusterCall.asksOwner : ClusterCall → Bool
  | .getScaledSet _ _ _ | .getDaemonSet _ _ => true
  | .createJob _ _ | .listJobs _ _ | .getJob _ _ | .deleteJob _ _ | .listPods _ _
  | .getPod _ _ => false

/-- A call that failed. -/
structure FailedCall where
  call : ClusterCall
  failure : Failure

/-- Is the failure no obstacle? An owner of a pod need not exist. -/
def FailedCall.IsForgiven (f : FailedCall) : Prop :=
  f.call.asksOwner = true ∧ f.failure.kind = .notFound

/-- The failure of a call, if it is one. -/
def failedIn {α : Type} (call : ClusterCall) : Except Failure α → List FailedCall
  | .ok _ => []
  | .error e => [⟨call, e⟩]

/-! ## Watched clusters -/

/-- A cluster with the calls that failed so far. -/
structure Watched (σ : Type) where
  cluster : σ
  failed : List FailedCall := []

namespace Watched

variable {σ α : Type}

/-- A call over the cluster that is watched. -/
def watching (call : ClusterCall) (a : Attempt σ α) : Attempt (Watched σ) α :=
  .of fun w =>
    let (r, c) := a.outcome w.cluster
    (r, ⟨c, w.failed ++ failedIn call r⟩)

/-- What is made of the result of a call does not matter for whether it fails. -/
theorem outcome_watching_bind_pure {β : Type} (call : ClusterCall) (a : Attempt σ α) (f : α → β)
    (w : Watched σ) :
    (watching call a >>= fun x => pure (f x)).outcome w =
      (watching call (a >>= fun x => pure (f x))).outcome w := by
  rw [Attempt.outcome_bind_pure]
  simp only [watching, Attempt.outcome_of, Attempt.outcome_bind_pure]
  cases (a.outcome w.cluster).1 <;> rfl

/-- The strand over the cluster that is watched; its last step is the call. -/
def strand (call : ClusterCall) : Strand σ α → Strand (Watched σ) α
  | .last a => .last (watching call a)
  | .step next rest =>
    .step (fun w => { w with cluster := next w.cluster }) fun w => strand call (rest w.cluster)

theorem run_strand (call : ClusterCall) (s : Strand σ α) :
    (strand call s).run = watching call s.run := by
  induction s with
  | last a => rfl
  | step next rest ih =>
    funext w
    exact congrFun (ih w.cluster) { w with cluster := next w.cluster }

instance [Cluster σ] : Cluster (Watched σ) where
  createJob ns job := watching (.createJob ns job) (Cluster.createJob ns job)
  listJobs ns selector := watching (.listJobs ns selector) (Cluster.listJobs ns selector)
  getJob ns name := watching (.getJob ns name) (Cluster.getJob ns name)
  deletion ns name propagation :=
    strand (.deleteJob ns name) (Cluster.deletion ns name propagation)
  turns w := Cluster.turns w.cluster
  listPods ns selector := watching (.listPods ns selector) (Cluster.listPods ns selector)
  getPod ns name := watching (.getPod ns name) (Cluster.getPod ns name)
  getScaledSet kind ns name :=
    watching (.getScaledSet kind ns name) (Cluster.getScaledSet kind ns name)
  getDaemonSet ns name := watching (.getDaemonSet ns name) (Cluster.getDaemonSet ns name)

end Watched

/-- The session over the watched cluster, after some calls that failed. -/
def Session.watched {σ : Type} (s : Session σ) (failed : List FailedCall) :
    Session (Watched σ) where
  cluster := ⟨s.cluster, failed⟩
  counters := s.counters
  now := s.now

/-! ## Failures that are passed on -/

/-- A failure is another one with contexts in front of its text, the outermost first, if the text of
its kind takes them, and else the same. -/
structure PassedOn (contexts : List String) (e e' : Failure) : Prop where
  kind : e'.kind = e.kind
  told : e.kind ∈ [.kubernetes, .notFound, .conflict, .internal] →
    e'.text = ": ".intercalate (contexts ++ [e.text])
  untold : e.kind ∉ [.kubernetes, .notFound, .conflict, .internal] → e'.text = e.text

theorem takesContext_iff (kind : FailureKind) :
    kind.takesContext = true ↔ kind ∈ [.kubernetes, .notFound, .conflict, .internal] := by
  cases kind <;> decide

theorem kind_foldr_during (contexts : List String) (e : Failure) :
    (contexts.foldr Failure.during e).kind = e.kind := by
  induction contexts with
  | nil => rfl
  | cons context contexts ih => rw [List.foldr_cons, Failure.kind_during, ih]

theorem text_foldr_during_of_takes (contexts : List String) {e : Failure}
    (h : e.kind.takesContext = true) :
    (contexts.foldr Failure.during e).text = ": ".intercalate (contexts ++ [e.text]) := by
  induction contexts with
  | nil => simp
  | cons context contexts ih =>
    have hkind : (contexts.foldr Failure.during e).kind.takesContext = true := by
      rwa [kind_foldr_during]
    rw [List.foldr_cons, Failure.during, if_pos hkind, ih]
    cases contexts <;> simp [String.intercalate_cons_cons]

theorem foldr_during_of_not_takes (contexts : List String) {e : Failure}
    (h : e.kind.takesContext = false) : contexts.foldr Failure.during e = e := by
  induction contexts with
  | nil => rfl
  | cons context contexts ih =>
    rw [List.foldr_cons, ih, Failure.during, if_neg (Bool.eq_false_iff.1 h)]

/-- **Contexts are told in front of a failure**, whatever they are. -/
theorem passedOn_foldr_during (contexts : List String) (e : Failure) :
    PassedOn contexts e (contexts.foldr Failure.during e) where
  kind := kind_foldr_during contexts e
  told h := text_foldr_during_of_takes contexts ((takesContext_iff e.kind).2 h)
  untold h := by
    rw [← takesContext_iff, Bool.not_eq_true] at h
    rw [foldr_during_of_not_takes contexts h]

/-! ## How a computation ends -/

variable {contexts : ClusterCall → List String}

/-- How a computation ends by the calls that failed in it: with a result if all of them are forgiven;
else with the failure of the last of them, in its contexts, and all before it are forgiven. -/
def Ends {α : Type} (contexts : ClusterCall → List String) (failed : List FailedCall) :
    Except Failure α → Prop
  | .ok _ => ∀ f ∈ failed, f.IsForgiven
  | .error e => ∃ forgiven f, failed = forgiven ++ [f] ∧ (∀ g ∈ forgiven, g.IsForgiven) ∧
      ¬ f.IsForgiven ∧ PassedOn (contexts f.call) f.failure e

/-- Failures that are forgiven do not matter for how it goes on. -/
theorem Ends.append {α : Type} {forgiven failed : List FailedCall} {r : Except Failure α}
    (hforgiven : ∀ f ∈ forgiven, f.IsForgiven) (h : Ends contexts failed r) :
    Ends contexts (forgiven ++ failed) r := by
  cases r with
  | ok a =>
    intro f hf
    rcases List.mem_append.1 hf with hf | hf
    · exact hforgiven f hf
    · exact h f hf
  | error e =>
    obtain ⟨before, f, rfl, hbefore, hlast, hpassed⟩ := h
    refine ⟨forgiven ++ before, f, (List.append_assoc ..).symm, fun g hg => ?_, hlast, hpassed⟩
    rcases List.mem_append.1 hg with hg | hg
    · exact hforgiven g hg
    · exact hbefore g hg

/-- A failure that is not forgiven is passed on. -/
theorem Ends.of_last {α : Type} {forgiven : List FailedCall} {f : FailedCall} {r : Except Failure α}
    (h : Ends contexts (forgiven ++ [f]) r) (hends : ¬ f.IsForgiven) :
    ∃ e, r = .error e ∧ PassedOn (contexts f.call) f.failure e := by
  cases r with
  | ok a => exact absurd (h f (by simp)) hends
  | error e =>
    obtain ⟨before, g, hlast, -, -, hpassed⟩ := h
    obtain rfl : f = g := List.singleton_inj.1 (List.append_inj' hlast rfl).2
    exact ⟨e, rfl, hpassed⟩

namespace Attempt

variable {σ α β : Type}

/-- A computation over a watched cluster comes to the same as one over the cluster, and the calls that
fail decide how it ends. -/
def Reports (contexts : ClusterCall → List String) (a : Attempt (Session (Watched σ)) α)
    (b : Attempt (Session σ) α) : Prop :=
  ∀ (s : Session σ) (before : List FailedCall), ∃ failed,
    a.outcome (s.watched before) =
      ((b.outcome s).1, (b.outcome s).2.watched (before ++ failed)) ∧
    Ends contexts failed (b.outcome s).1

namespace Reports

/-- A computation that calls nothing and succeeds. -/
theorem silent {a : Attempt (Session (Watched σ)) α} {b : Attempt (Session σ) α}
    (x : Session σ → α) (f : Session σ → Session σ)
    (ha : ∀ s before, a.outcome (s.watched before) = (.ok (x s), (f s).watched before))
    (hb : ∀ s, b.outcome s = (.ok (x s), f s)) : Reports contexts a b := by
  intro s before
  refine ⟨[], ?_, ?_⟩
  · rw [ha, hb, List.append_nil]
  · rw [hb]
    intro f hf
    cases hf

theorem pure (x : α) :
    Reports contexts (Pure.pure x : Attempt (Session (Watched σ)) α) (Pure.pure x) :=
  silent (fun _ => x) id (fun _ _ => rfl) (fun _ => rfl)

theorem count (f : Counters → Counters) :
    Reports contexts (Session.count f : Attempt (Session (Watched σ)) Unit) (Session.count f) :=
  silent (fun _ => ()) (fun s => { s with counters := f s.counters }) (fun _ _ => rfl)
    (fun _ => rfl)

theorem clock :
    Reports contexts (Session.clock : Attempt (Session (Watched σ)) Instant) Session.clock :=
  silent (·.now) id (fun _ _ => rfl) (fun _ => rfl)

/-- What follows goes on from the calls that are forgiven. -/
theorem bind {a : Attempt (Session (Watched σ)) α} {b : Attempt (Session σ) α}
    {f : α → Attempt (Session (Watched σ)) β} {g : α → Attempt (Session σ) β}
    (h : Reports contexts a b) (hf : ∀ x, Reports contexts (f x) (g x)) :
    Reports contexts (a >>= f) (b >>= g) := by
  intro s before
  obtain ⟨failed, hsame, hends⟩ := h s before
  rw [outcome_bind, outcome_bind, hsame]
  rcases hb : b.outcome s with ⟨e | x, t⟩ <;> rw [hb] at hends
  · exact ⟨failed, rfl, hends⟩
  · obtain ⟨failed', hsame', hends'⟩ := hf x t (before ++ failed)
    refine ⟨failed ++ failed', ?_, hends'.append hends⟩
    dsimp only
    rw [hsame', List.append_assoc]

/-- A call in its context. -/
theorem call {a : Attempt σ α} {call : ClusterCall} {context : String}
    (hcontext : contexts call = [context]) (howner : call.asksOwner = false) :
    Reports contexts ((Session.onCluster (Watched.watching call a)).within context)
      ((Session.onCluster a).within context) := by
  intro s before
  refine ⟨failedIn call (a.outcome s.cluster).1, rfl, ?_⟩
  simp only [outcome_within, Session.outcome_onCluster]
  rcases (a.outcome s.cluster).1 with e | x
  · refine ⟨[], ⟨call, e⟩, rfl, by simp, ?_, ?_⟩
    · simp [FailedCall.IsForgiven, howner]
    · dsimp only
      rw [hcontext]
      exact passedOn_foldr_during [context] e
  · intro f hf
    cases hf

/-! Calls that are made in strands side by side, each in its context. -/

section Strands

variable {ι : Type} (call : ι → ClusterCall) (context : ι → String)
  (hcontext : ∀ i, contexts (call i) = [context i]) (howner : ∀ i, (call i).asksOwner = false)

include hcontext howner

/-- One strand with nothing beside it is one call. -/
theorem run (i : ι) (strand : Strand σ Unit) :
    Reports contexts
      (Session.onCluster ((Watched.strand (call i) strand).within (context i)).run)
      (Session.onCluster (strand.within (context i)).run) := by
  rw [Strand.run_within, Strand.run_within, Watched.run_strand]
  exact Reports.call (hcontext i) (howner i)

theorem inOrder (entries : List (ι × Strand σ Unit)) :
    Reports contexts
      (Session.onCluster (Strand.inOrder
        (entries.map fun e => (Watched.strand (call e.1) e.2).within (context e.1))))
      (Session.onCluster (Strand.inOrder (entries.map fun e => e.2.within (context e.1)))) := by
  induction entries with
  | nil => exact .pure ()
  | cons entry entries ih =>
    simp only [List.map_cons, Strand.inOrder, Session.onCluster_bind]
    exact .bind (run call context hcontext howner entry.1 entry.2) fun _ => ih

/-- The watched strands are where the strands are after every turn. -/
theorem byTurns (turns : List Nat) (entries : List (ι × Strand σ Unit)) :
    Reports contexts
      (Session.onCluster (Strand.byTurns turns
        (entries.map fun e => (Watched.strand (call e.1) e.2).within (context e.1))))
      (Session.onCluster (Strand.byTurns turns (entries.map fun e => e.2.within (context e.1)))) := by
  induction turns generalizing entries with
  | nil => exact inOrder call context hcontext howner entries
  | cons turn turns ih =>
    simp only [Strand.byTurns, List.getElem?_map]
    rcases entries[turn]? with _ | ⟨i, a | ⟨next, rest⟩⟩
    · exact ih entries
    · simp only [Option.map_some, Strand.within, Watched.strand, List.eraseIdx_map,
        Session.onCluster_bind]
      exact .bind (Reports.call (hcontext i) (howner i)) fun _ => ih (entries.eraseIdx turn)
    · intro s before
      have hnext := ih (entries.set turn (i, rest s.cluster))
        { s with cluster := next s.cluster } before
      rwa [List.map_set, List.map_set] at hnext

theorem sideBySide [Cluster σ] (entries : List (ι × Strand σ Unit)) :
    Reports contexts
      (Session.onCluster (Cluster.sideBySide
        (entries.map fun e => (Watched.strand (call e.1) e.2).within (context e.1))))
      (Session.onCluster (Cluster.sideBySide (entries.map fun e => e.2.within (context e.1)))) := by
  intro s before
  have hturns := byTurns call context hcontext howner
    (Cluster.turns s.cluster entries.length) entries s before
  simp only [Session.outcome_onCluster, Cluster.sideBySide, Attempt.outcome_of, List.length_map]
  exact hturns

end Strands

end Reports

end Attempt

end BuildYard
