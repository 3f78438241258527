import BuildYard.Proofs.Build.Rendering
import BuildYard.Proofs.Time.Reading
/-!
# The time of a submission

The job of a build tells twice when the build was asked for: an annotation has the time, and the name of
the job the seconds of it. Both are of the one instant at which the submission starts
(`recordsTime_of_submit`): the annotation loses nothing of it, and the seconds are the same ones.
-/

namespace BuildYard.Build

open Cli (renderedJob)

/-- The name of a build that was asked for so many seconds after the start of 1970. -/
def nameAt (request : BuildRequest) (seconds : Int) : String :=
  request.jobId ++ "-deployment-" ++ toString seconds

/-- The job tells when the build was asked for. -/
structure RecordsTime (job : Job) (request : BuildRequest) (now : Instant) : Prop where
  /-- The annotation has the form of RFC 3339 and is read as the instant. -/
  annotated : ∃ annotations text, job.metadata.annotations = some annotations ∧
    annotations.find? triggeredAtKey = some text ∧ Instant.IsStamp text.toList now ∧
    Instant.ofText? text = some now
  /-- The name ends in the seconds of the instant. -/
  named : job.metadata.name = some (nameAt request now.seconds)
  /-- The label for the name has the same value. -/
  labelled : job.metadata.labels.bind (·.find? LabelKey.jobName.text) =
    some (nameAt request now.seconds)

theorem jobName_eq_nameAt (request : BuildRequest) (now : Instant) :
    jobName request now = nameAt request now.seconds := by
  rw [jobName, buildJobName, Text.signedDecimal_eq_toString, nameAt]

/-- The annotations of a build. -/
theorem find?_triggeredAtKey (settings : Settings) (request : BuildRequest) (now : Instant) :
    ∃ annotations, (renderedJob settings request now).metadata.annotations = some annotations ∧
      annotations.find? triggeredAtKey = some now.offsetText :=
  ⟨_, rfl, SortedMap.find?_insert_self ..⟩

/-- A job that is made for an instant tells of that instant. -/
theorem recordsTime_renderedJob (settings : Settings) (request : BuildRequest) (now : Instant) :
    RecordsTime (renderedJob settings request now) request now where
  annotated := by
    obtain ⟨annotations, hannotations, htext⟩ := find?_triggeredAtKey settings request now
    exact ⟨annotations, _, hannotations, htext, now.isStamp_offsetText, now.ofText?_offsetText⟩
  named := congrArg some (jobName_eq_nameAt request now)
  labelled := by
    rw [← jobName_eq_nameAt]
    exact BuildLabels.find?_toLabels _ .jobName

/-- **A build tells when it was asked for.** When a submission succeeds, at any instant with any
nanoseconds and inside leap seconds too, the job that a cluster in memory has stored under the name that
is returned, and the one job that an API server was asked to create, have that instant in their
annotation and its seconds at the end of their name. -/
theorem recordsTime_of_submit (settings : Settings) (request : BuildRequest) :
    (∀ (s s' : Session Store) (name : String),
      (submit settings request).outcome s = (.ok name, s') →
        name = nameAt request s.now.seconds ∧
        ∃ job, s'.cluster.jobs.find? ⟨settings.namespace_, name⟩ = some job ∧
          RecordsTime job request s.now) ∧
    ∀ (s s' : Session Remote) (name : String),
      (submit settings request).outcome s = (.ok name, s') →
        name = nameAt request s.now.seconds ∧
        ∃ requests post job, s'.cluster.sent = s.cluster.sent ++ requests ∧
          requests.filter (·.method = .post) = [post] ∧ post.body = some job.toJson ∧
          RecordsTime job request s.now := by
  refine ⟨fun s s' name h => ?_, fun s s' name h => ?_⟩
  · obtain ⟨rfl, hstored⟩ := stored_of_submit h
    exact ⟨jobName_eq_nameAt request s.now, _, hstored,
      recordsTime_renderedJob settings request s.now⟩
  · obtain ⟨rfl, requests, hsent, hpost⟩ := posted_of_submit h
    exact ⟨jobName_eq_nameAt request s.now, requests, _, _, hsent, hpost, rfl,
      recordsTime_renderedJob settings request s.now⟩

/-- Half a second into a leap second at the end of 1969. -/
def leapEnd : Instant := ⟨-1, 1500000000, by decide⟩

/-- A submission at `leapEnd`, where the seconds are negative: the job is stored beside the jobs of
`busyYard`, and posted to the API server of `goneYard`. -/
theorem recordsTime_of_submit_leapEnd :
    leapEnd.offsetText = "1969-12-31T23:59:60.500+00:00" ∧
      (∃ s' job, (submit {} newRequest).outcome { busyYard with now := leapEnd } =
          (.ok "new-deployment--1", s') ∧
        s'.cluster.jobs.find? ⟨"unbind-system", "new-deployment--1"⟩ = some job ∧
        RecordsTime job newRequest leapEnd) ∧
      ∃ s' requests post job, (submit {} newRequest).outcome { goneYard with now := leapEnd } =
          (.ok "new-deployment--1", s') ∧
        s'.cluster.sent = goneYard.cluster.sent ++ requests ∧
        requests.filter (·.method = .post) = [post] ∧ post.body = some job.toJson ∧
        RecordsTime job newRequest leapEnd := by
  obtain ⟨hstores, hposts⟩ := recordsTime_of_submit {} newRequest
  refine ⟨by decide +kernel, ?_, ?_⟩
  · have hname : ((submit {} newRequest).outcome { busyYard with now := leapEnd }).1 =
        .ok "new-deployment--1" := rfl
    obtain ⟨-, job, hjob, hrecords⟩ := hstores _ _ _ (Prod.ext hname rfl)
    exact ⟨_, job, Prod.ext hname rfl, hjob, hrecords⟩
  · have hname : ((submit {} newRequest).outcome { goneYard with now := leapEnd }).1 =
        .ok "new-deployment--1" := toOption_eq_some_iff.1 (by decide +kernel)
    obtain ⟨-, requests, post, job, hsent, hpost, hbody, hrecords⟩ :=
      hposts _ _ _ (Prod.ext hname rfl)
    exact ⟨_, requests, post, job, Prod.ext hname rfl, hsent, hpost, hbody, hrecords⟩

end BuildYard.Build
