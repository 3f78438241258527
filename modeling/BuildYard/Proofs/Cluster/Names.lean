import BuildYard.Proofs.Cluster.Deletion
import BuildYard.Proofs.Cluster.Listing
/-!
# Objects and their names

Whoever has read an object off a listing knows it by its name, and asks for it by that name. This comes to
the object because every object is kept where its metadata say, whichever way it came into the store.

* `Keyed.find?_of_mem_within`, `Keyed.pairwise_names`: what is listed is found under its name, and the
  names ascend.
* `Reachable.found_by_name`: so the jobs that are listed are got and deleted by their names.
-/

namespace BuildYard

namespace Keyed

variable {α : Type} {metadata : α → ObjectMeta} {objects : SortedMap ObjectKey α} {ns : String}
  {test : α → Bool}

/-- What a listing gives is found under its name in the namespace that is listed. -/
theorem find?_of_mem_within (h : Keyed metadata objects) {a : α}
    (ha : a ∈ Store.within objects ns test) :
    objects.find? ⟨ns, (metadata a).anyName⟩ = some a := by
  obtain ⟨name, hfind, -⟩ := Store.mem_within.1 ha
  rw [h.name_eq hfind]
  exact hfind

/-- The names that a listing gives are in strictly ascending order. -/
theorem pairwise_names (h : Keyed metadata objects) (ns : String) (test : α → Bool) :
    ((Store.within objects ns test).map fun a => (metadata a).anyName).Pairwise (· < ·) := by
  rw [← Store.values_entriesWithin, SortedMap.values, List.map_map, List.pairwise_map]
  refine (Store.pairwise_entriesWithin objects ns test).imp_of_mem fun {e e'} he he' hlt => ?_
  have hname := h.name_eq (Store.mem_entriesWithin.1 he).2.1
  have hname' := h.name_eq (Store.mem_entriesWithin.1 he').2.1
  simpa only [Function.comp_apply, hname, hname'] using hlt

/-- An object is nowhere else than under its name. -/
theorem eq_of_find? (h : Keyed metadata objects) {key key' : ObjectKey} {a : α}
    (hfind : objects.find? key = some a) (hfind' : objects.find? key' = some a) : key = key' :=
  (h key a hfind).trans (h key' a hfind').symm

end Keyed

namespace Store

variable {s : Store} {ns : String}

/-- Unless the operations are made to fail, the job is what is got by its name from the namespace, and
what a deletion by its name takes out, with no other job. -/
structure KnownByName (s : Store) (ns : String) (job : Job) : Prop where
  got : s.faults .getJob = none →
    (Cluster.getJob ns job.metadata.anyName : Attempt Store Job).outcome s = (.ok job, s)
  deleted : s.faults .deleteJob = none → ∀ propagation, ∃ s',
    (Cluster.deleteJob ns job.metadata.anyName propagation : Attempt Store Unit).outcome s =
        (.ok (), s') ∧
      ∀ key other, s'.jobs.find? key = some other ↔
        s.jobs.find? key = some other ∧ other ≠ job

/-- Under other keys there are other jobs. -/
theorem find?_deleteJob_iff (h : Keyed Job.metadata s.jobs) {name : String} {job : Job}
    (hjob : s.jobs.find? ⟨ns, name⟩ = some job) (propagation : Propagation) {key : ObjectKey}
    {other : Job} :
    (s.deleteJob ns name propagation).jobs.find? key = some other ↔
      s.jobs.find? key = some other ∧ other ≠ job := by
  rw [jobs_deleteJob, SortedMap.find?_erase_eq_some_iff]
  refine and_congr_right fun hother => not_congr ⟨?_, ?_⟩
  · rintro rfl
    exact Option.some.inj (hother.symm.trans hjob)
  · rintro rfl
    exact h.eq_of_find? hother hjob

theorem knownByName_of_mem (h : Keyed Job.metadata s.jobs) {selector : Selector} {job : Job}
    (hjob : job ∈ s.listJobs ns selector) : KnownByName s ns job where
  got hfault := by
    rw [outcome_getJob, hfault, lookup, h.find?_of_mem_within hjob]
  deleted hfault propagation :=
    ⟨_, (outcome_deleteJob s ns _ propagation).trans (by rw [hfault]),
      fun _ _ => find?_deleteJob_iff h (h.find?_of_mem_within hjob) propagation⟩

/-- **In every store that can come about each object is stored where its metadata say. So listings have
their names in strictly ascending order, and a job off a listing is got and deleted by its name.** -/
theorem Reachable.found_by_name (h : Reachable s) :
    WellKeyed s ∧
    (∀ ns selector, s.faults .listJobs = none → ∃ jobs,
      (Cluster.listJobs ns selector : Attempt Store (List Job)).outcome s = (.ok jobs, s) ∧
        (jobs.map fun job => job.metadata.anyName).Pairwise (· < ·) ∧
        ∀ job ∈ jobs, KnownByName s ns job) ∧
    ∀ ns selector, s.faults .listPods = none → ∃ pods,
      (Cluster.listPods ns selector : Attempt Store (List Pod)).outcome s = (.ok pods, s) ∧
        (pods.map fun pod => pod.metadata.anyName).Pairwise (· < ·) := by
  have hkeyed := h.wellKeyed
  refine ⟨hkeyed, fun ns selector hfault => ?_, fun ns selector hfault => ?_⟩
  · refine ⟨s.listJobs ns selector, ?_, hkeyed.jobs.pairwise_names ns _,
      fun job hjob => knownByName_of_mem hkeyed.jobs hjob⟩
    rw [outcome_listJobs, hfault]
  · refine ⟨s.listPods ns selector, ?_, hkeyed.pods.pairwise_names ns _⟩
    rw [outcome_listPods, hfault]

/-- A job that has neither a name nor a namespace. -/
def namelessJob : Job where
  metadata := { generateName := some "build-" }

/-- A job is put in as it is, one is created in another namespace than it says, and one changes. -/
def mixedYard : Store := after {} [
  .insertJob namelessJob, .createJob "default" (bareJob "elsewhere" "zeta"),
  .createJob "apps" (bareJob "apps" "build-"), .setJobStatus "default" "zeta" { active := some 1 },
  .fail .listPods "down"]

/-- The job without a name is got by the name that it asks for, and its deletion leaves the others. -/
theorem found_by_name_mixedYard :
    mixedYard.Reachable ∧ mixedYard.faults .listJobs = none ∧
      namelessJob ∈ mixedYard.listJobs "default" .all ∧
      KnownByName mixedYard "default" namelessJob ∧
      (mixedYard.listJobs "default" .all).map (fun job => job.metadata.anyName) =
        ["build-", "zeta"] := by
  have hreachable : mixedYard.Reachable := ⟨_, rfl⟩
  have hlisted : namelessJob ∈ mixedYard.listJobs "default" .all := List.mem_cons_self
  obtain ⟨jobs, hjobs, -, hknown⟩ := hreachable.found_by_name.2.1 "default" .all rfl
  obtain rfl : mixedYard.listJobs "default" .all = jobs := by
    injection (congrArg Prod.fst hjobs)
  exact ⟨hreachable, rfl, hlisted, hknown namelessJob hlisted, rfl⟩

end Store

end BuildYard
