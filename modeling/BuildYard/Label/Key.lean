/-!
# Label keys

The keys of the labels that tie a build job, its pods and a service together.
-/

namespace BuildYard

/-- The keys of the labels that the build yard reads and writes. -/
inductive LabelKey where
  | serviceId
  | jobId
  | deploymentJob
  | jobName
  | team
  | project
  | environment
  | service
  deriving DecidableEq, Repr

/-- The text of a key on cluster objects. -/
def LabelKey.text : LabelKey → String
  | .serviceId => "serviceID"
  | .jobId => "jobID"
  | .deploymentJob => "unbind-deployment-job"
  | .jobName => "job-name"
  | .team => "unbind-team"
  | .project => "unbind-project"
  | .environment => "unbind-environment"
  | .service => "unbind-service"

/-- Every key. -/
def LabelKey.all : List LabelKey :=
  [.serviceId, .jobId, .deploymentJob, .jobName, .team, .project, .environment, .service]

/-- Keys with the same text are the same key. -/
theorem LabelKey.text_injective {a b : LabelKey} (h : a.text = b.text) : a = b := by
  revert h; cases a <;> cases b <;> decide

end BuildYard
