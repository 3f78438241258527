import BuildYard.Http.Message
import BuildYard.Label.Selector
import BuildYard.Text.Percent
/-!
# Routes

What the paths of the server are, and which method each of them serves. A path is cut at its slashes
before anything in it is decoded, so an encoded slash does not separate; an empty segment counts as
a segment.
-/

namespace BuildYard.Http

/-- A path of the server, with the segment that varies still encoded. -/
inductive Route where
  | health
  | metrics
  | deployments
  | serviceJobs (serviceId : List Char)
  | jobStatus (jobName : List Char)
  | namespacePods (ns : List Char)
  | namespaceHealth (ns : List Char)
  deriving DecidableEq, Repr

namespace Route

/-- The route of one segment. -/
def ofOne? (segment : String) : Option Route :=
  if segment = "health" then some .health
  else if segment = "metrics" then some .metrics
  else if segment = "deployments" then some .deployments
  else none

/-- The route of three segments, the middle one of which varies. -/
def ofThree? (first : String) (middle : List Char) (last : String) : Option Route :=
  if first = "services" && last = "jobs" then some (.serviceJobs middle)
  else if first = "jobs" && last = "status" then some (.jobStatus middle)
  else if first = "namespaces" && last = "pods" then some (.namespacePods middle)
  else if first = "namespaces" && last = "health" then some (.namespaceHealth middle)
  else none

/-- The route of a path. -/
def of? (path : List Char) : Option Route :=
  match Text.pieces '/' path with
  | [[], segment] => ofOne? (String.ofList segment)
  | [[], first, middle, last] => ofThree? (String.ofList first) middle (String.ofList last)
  | _ => none

/-- The method that a route serves. -/
def method : Route → Method
  | .health | .metrics | .jobStatus _ | .namespacePods _ | .namespaceHealth _ => .get
  | .deployments => .post
  | .serviceJobs _ => .delete

/-- Does a route serve a method? Where it can be got, its head can be got too. -/
def serves (r : Route) (m : Method) : Bool := r.method = m || (r.method = .get && m = .head)

end Route

/-! ## Queries -/

/-- The names and values of a query. -/
def queryFields (query : List Char) : List (List Char × List Char) :=
  ((Text.pieces '&' query).filter (!·.isEmpty)).map fun field =>
    let (name, value) := (Text.cutAt? ['='] field).getD (field, [])
    (Text.ofForm name, Text.ofForm value)

/-- The text of the selector in a query: empty if it is not given, nothing if it is given twice. -/
def selectorText? (query : Option (List Char)) : Option (List Char) :=
  match (queryFields (query.getD [])).filter (·.1 = "selector".toList) with
  | [] => some []
  | [(_, value)] => some value
  | _ => none

end BuildYard.Http
