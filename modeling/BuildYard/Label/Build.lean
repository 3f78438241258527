import BuildYard.Label.Selector
import BuildYard.Text.Digits
/-!
# The labels of builds and workloads

A build job and its pods carry the ids of the service and the job and the name of the job. A
workload's pods carry the ids of the team, the project, the environment and the service.
-/

namespace BuildYard

/-- The name of the job of a build that is submitted at a time. -/
def buildJobName (jobId : String) (unixSeconds : Int) : String :=
  jobId ++ "-deployment-" ++ String.ofList (Text.signedDecimal unixSeconds)

/-- The value of the label that marks a build job. -/
def buildJobMark : String := "true"

/-- The ids that a build job and its pods carry. -/
structure BuildLabels where
  serviceId : String
  jobId : String
  jobName : String
  deriving DecidableEq, Repr

namespace BuildLabels

/-- The ids as labels. -/
def toLabels (b : BuildLabels) : Labels :=
  SortedMap.ofList [
    (LabelKey.deploymentJob.text, buildJobMark),
    (LabelKey.jobId.text, b.jobId),
    (LabelKey.serviceId.text, b.serviceId),
    (LabelKey.jobName.text, b.jobName)]

/-- The ids among labels, if the labels have the mark of a build job and all three of the ids. -/
def ofLabels? (labels : Labels) : Option BuildLabels :=
  if labels.find? LabelKey.deploymentJob.text = some buildJobMark then do
    return {
      serviceId := ← labels.find? LabelKey.serviceId.text
      jobId := ← labels.find? LabelKey.jobId.text
      jobName := ← labels.find? LabelKey.jobName.text }
  else none

/-- The label for the id of the service has that id. -/
@[simp] theorem find?_serviceId_toLabels (b : BuildLabels) :
    b.toLabels.find? LabelKey.serviceId.text = some b.serviceId := by
  have hne : LabelKey.serviceId.text ≠ LabelKey.jobName.text := by decide
  simp only [toLabels, SortedMap.ofList, List.foldl_cons, List.foldl_nil]
  rw [SortedMap.find?_insert_of_ne _ hne, SortedMap.find?_insert_self]

end BuildLabels

/-- Whose workload a pod belongs to, as far as its labels tell. -/
structure Correlation where
  teamId : Option String
  projectId : Option String
  environmentId : Option String
  serviceId : Option String
  deriving DecidableEq, Repr

/-- What labels tell about the workload; the pods of a build have only the label of the build for
the id of the service. -/
def Correlation.ofLabels (labels : Labels) : Correlation where
  teamId := labels.find? LabelKey.team.text
  projectId := labels.find? LabelKey.project.text
  environmentId := labels.find? LabelKey.environment.text
  serviceId := (labels.find? LabelKey.service.text).or (labels.find? LabelKey.serviceId.text)

end BuildYard
