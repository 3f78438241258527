import BuildYard.Build.Manifest
import BuildYard.Cluster.Basic
import BuildYard.Label.Value
/-!
# Submitting and canceling builds

A service has at most one build that runs: submitting a build first deletes the active jobs of the
service and then creates the new one. Everything that can be refused is refused before anything is
deleted.
-/

namespace BuildYard.Build

variable {σ : Type} [Cluster σ]

/-- The names of the active jobs among the jobs of a service. -/
def activeNames (jobs : List Job) : List String :=
  (jobs.filter Job.isActive).map (·.metadata.anyName)

/-- The deletions of jobs, with their pods. -/
def deletions (ns : String) (names : List String) : List (Strand σ Unit) :=
  names.map fun name =>
    (Cluster.deletion ns name .foreground).within ("failed to delete job " ++ name)

/-- Deletes jobs side by side, up to the first deletion that fails. -/
def deleteAll (ns : String) (names : List String) : Attempt (Session σ) Unit :=
  Session.onCluster (Cluster.sideBySide (deletions ns names))

/-- Deletes the active jobs of a service and gives their names. The counter counts them when all of
them are deleted. -/
def cancel (settings : Settings) (serviceId : String) : Attempt (Session σ) (List String) := do
  let jobs ← (Session.onCluster
    (Cluster.listJobs settings.namespace_ (.forService serviceId))).within
      ("failed to list jobs for service ID " ++ serviceId)
  let names := activeNames jobs
  deleteAll settings.namespace_ names
  Session.count (Counters.addCanceled names.length)
  return names

/-- Refuses a request whose ids, or whose job name at a time, are no label values. -/
def checkRequest (request : BuildRequest) (at_ : Instant) : Except Failure Unit := do
  checkLabelValue "serviceID" request.serviceId
  checkLabelValue "jobID" request.jobId
  checkLabelValue "job-name" (jobName request at_)

/-- Cancels the builds of the service that run, starts the build and gives the name of its job. -/
def submit (settings : Settings) (request : BuildRequest) : Attempt (Session σ) String := do
  let now ← Session.clock
  Attempt.ofResult (checkRequest request now)
  let _ ← cancel settings request.serviceId
  let name := jobName request now
  let _ ← (Session.onCluster
    (Cluster.createJob settings.namespace_ (manifest request name now settings))).within
      ("failed to create job " ++ name)
  Session.count Counters.addSubmitted
  return name

end BuildYard.Build
