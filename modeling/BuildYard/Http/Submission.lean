import BuildYard.Build.Manifest
import BuildYard.Json.Stepwise
/-!
# Submissions

The body of a request to build something: an object with the ids of the service and the job, and
perhaps variables and what made the caller ask. The values in this order, as an array, are a
submission too. A field that is unknown is skipped; a field that is given twice is not wanted,
except that of two variables with one name the later counts.
-/

namespace BuildYard.Http

/-- What a caller asks to have built. -/
structure Submission where
  serviceId : String
  jobId : String
  env : SortedMap String String := .empty
  triggerSource : Option String := none
  deriving DecidableEq

namespace Submission

/-- The request for a build that a submission makes. -/
def toRequest (s : Submission) : BuildRequest :=
  let request : BuildRequest := { serviceId := s.serviceId, jobId := s.jobId, env := s.env }
  match s.triggerSource with
  | some triggerSource => { request with triggerSource }
  | none => request

/-- The fields of a submission that were read so far. -/
structure Draft where
  serviceId : Option String := none
  jobId : Option String := none
  env : Option (SortedMap String String) := none
  triggerSource : Option (Option String) := none

/-- A field that was not given before. -/
def once {α : Type} (before : Option α) (read : Json.Step α) : Json.Step α := do
  if before.isSome then throw .unwanted
  Json.Step.colon
  read

/-- The draft with one more field. -/
def Draft.add (d : Draft) (name : String) : Json.Step Draft := do
  if name = "service_id" then
    return { d with serviceId := some (← once d.serviceId Json.Step.text) }
  else if name = "job_id" then return { d with jobId := some (← once d.jobId Json.Step.text) }
  else if name = "env" then return { d with env := some (← once d.env Json.Step.textMap) }
  else if name = "trigger_source" then
    return { d with triggerSource := some (← once d.triggerSource Json.Step.textOrNull) }
  else
    Json.Step.colon
    Json.Step.anything
    return d

/-- The submission whose fields were read, if none of the ids is missing. -/
def Draft.finish (d : Draft) : Json.Step Submission :=
  match d.serviceId, d.jobId with
  | some serviceId, some jobId =>
    pure {
      serviceId
      jobId
      env := d.env.getD .empty
      triggerSource := d.triggerSource.join }
  | _, _ => throw .unwanted

/-- A submission as an object, from after its opening brace on. -/
def ofObject : Json.Step Submission := do (← Json.Step.fields {} Draft.add).finish

/-- A submission as an array, from after its opening bracket on. -/
def ofArray : Json.Step Submission := do
  let serviceId ← Json.Step.item true Json.Step.text
  let jobId ← Json.Step.item false Json.Step.text
  let env ← Json.Step.item false Json.Step.textMap
  let triggerSource ← Json.Step.item false Json.Step.textOrNull
  Json.Step.arrayEnd
  return { serviceId, jobId, env, triggerSource }

/-- A submission with nothing after it. -/
def whole : Json.Step Submission := do
  let submission ← match ← Json.Step.next with
    | '{' :: rest => do set rest; ofObject
    | '[' :: rest => do set rest; ofArray
    | other => throw (Json.Step.refused other)
  Json.Step.textEnd
  return submission

/-- The submission that a body is. -/
def read (body : String) : Except Json.Fault Submission := whole.run' body.toList

/-- The HTTP status that answers a body with a fault. -/
def statusOf : Json.Fault → Nat
  | .malformed => 400
  | .unwanted => 422

end Submission

end BuildYard.Http
