import BuildYard.Cluster.Basic
import BuildYard.Http.Target
import BuildYard.Http.Vocabulary
import BuildYard.Json.Reader
import BuildYard.Text.Percent
import BuildYard.Text.Quoted
/-!
# A cluster behind its API server

Every operation sends one request to the API server and reads one response. What the network does is
a `Network`: either the server cannot be reached, or it answers with a list of responses, one for
each request, until the list is used up. The requests that were sent are kept in order. Requests may be
under way together, and then it is a matter of the network when each is sent and answered.

A response with an error status is a failure: `notFound` for code 404, `conflict` for code 409, else
`kubernetes`. The code is that of the status object in the body if there is one, else that of the
response. A response without an error status whose body is not the object that was asked for is a
failure too.
-/

namespace BuildYard

/-- The methods of requests to the API server. -/
inductive ApiMethod where
  | get
  | post
  | delete
  deriving DecidableEq, Repr

/-- What a method is called. -/
def ApiMethod.text : ApiMethod → String
  | .get => "GET"
  | .post => "POST"
  | .delete => "DELETE"

/-- A request to the API server. -/
structure ApiRequest where
  method : ApiMethod
  uri : String
  body : Option Json := none

/-- A response of the API server. -/
structure ApiResponse where
  status : Nat
  body : String

/-- What becomes of requests. -/
inductive Network where
  /-- No request arrives; what is said of it. -/
  | unreachable (reason : String)
  /-- Every request arrives, and these are the responses that are left. -/
  | scripted (responses : List ApiResponse)

/-- The turns over a network that answers every request before anything else happens. A few strands all
begin before any of them goes on; many go on one after the other. Other networks have other turns, and a
request can be under way in them while others are sent and answered. -/
def atOnce (count : Nat) : List Nat := if count ≤ 30 then List.range count else []

/-- A cluster behind its API server. -/
structure Remote where
  network : Network
  /-- The requests that were sent, in order. -/
  sent : List ApiRequest := []
  /-- The turns of so many requests that are under way together: which is sent next, and of which the
  response comes in next. -/
  pace : Nat → List Nat := atOnce

namespace Remote

/-! ## Requests -/

/-- Where the objects of a kind in a namespace are found. -/
def collection (kind : ObjectKind) (ns : String) : String :=
  let root := match kind with
    | .pod => "/api/v1"
    | .job => "/apis/batch/v1"
    | .statefulSet | .deployment | .replicaSet | .daemonSet => "/apis/apps/v1"
  root ++ "/namespaces/" ++ ns ++ "/" ++ kind.plural

/-- Asks for one object. -/
def getRequest (kind : ObjectKind) (ns name : String) : ApiRequest :=
  ⟨.get, collection kind ns ++ "/" ++ name, none⟩

/-- Asks for the objects that a selector selects. -/
def listRequest (kind : ObjectKind) (ns : String) (selector : Selector) : ApiRequest :=
  let query := if selector.isEmpty then ""
    else "&labelSelector=" ++ String.ofList (Text.toForm selector.chars)
  ⟨.get, collection kind ns ++ "?" ++ query, none⟩

/-- Asks to create a job. -/
def createRequest (ns : String) (job : Job) : ApiRequest :=
  ⟨.post, collection .job ns ++ "?", some job.toJson⟩

/-- Asks to delete a job. -/
def deleteRequest (ns name : String) (propagation : Propagation) : ApiRequest :=
  ⟨.delete, collection .job ns ++ "/" ++ name ++ "?",
    some (.obj [("propagationPolicy", .str propagation.text)])⟩

/-! ## Responses -/

/-- A failure of the API server or of the way to it. -/
def broken (text : String) : Failure := ⟨.kubernetes, text⟩

/-- The failure of a response whose body is not what was asked for. -/
def unreadable : Failure := broken "Error deserializing response"

/-- What the API server says of an error. -/
structure ApiError where
  status : String
  message : String
  reason : String
  code : Nat

/-- A field that is not repeated. -/
def single? (fields : Json.Fields) (name : String) : Option (Option Json) :=
  match fields.filter (·.1 = name) with
  | [] => some none
  | [f] => some (some f.2)
  | _ => none

/-- A field that is there once, or its default where it is not there. -/
def singleOr? {α : Type} (read : Json → Option α) (default : Option α) (fields : Json.Fields)
    (name : String) : Option α := do
  match ← single? fields name with
  | some j => read j
  | none => default

/-- A number that fits an unsigned 16-bit word. -/
def asCode? : Json → Option Nat := Json.asNatBelow? (wordSize 16)

/-- Reads what the API server says of an error: an object, or its values in order. -/
def ApiError.ofJson? : Json → Option ApiError
  | .obj fields => do
    return {
      status := ← singleOr? Json.asText? none fields "status"
      message := ← singleOr? Json.asText? (some "") fields "message"
      reason := ← singleOr? Json.asText? (some "") fields "reason"
      code := ← singleOr? asCode? none fields "code" }
  | .arr [status, message, reason, code] => do
    return {
      status := ← status.asText?
      message := ← message.asText?
      reason := ← reason.asText?
      code := ← asCode? code }
  | _ => none

/-- What is said of an error whose body says nothing. -/
def ApiError.madeUp (response : ApiResponse) : ApiError where
  status :=
    String.ofList (Text.decimal response.status) ++ " " ++ Http.reasonOf response.status
  message := Text.quoted response.body
  reason := "Failed to parse error data"
  code := response.status

/-- What a response with an error status says. -/
def ApiError.of (response : ApiResponse) : ApiError :=
  ((Json.scan? response.body).bind ApiError.ofJson?).getD (.madeUp response)

/-- All that is known of an error in one line. -/
def ApiError.text (e : ApiError) : String :=
  "ApiError: " ++ e.message ++ ": " ++ e.reason ++ " (ErrorResponse \x7b status: " ++
    Text.quoted e.status ++ ", message: " ++ Text.quoted e.message ++ ", reason: " ++
    Text.quoted e.reason ++ ", code: " ++ String.ofList (Text.decimal e.code) ++ " \x7d)"

/-- The failure that an error of the API server is. -/
def ApiError.failure (e : ApiError) : Failure :=
  if e.code = 404 then ⟨.notFound, e.message⟩
  else if e.code = 409 then ⟨.conflict, e.message⟩
  else broken e.text

/-! ## Sending -/

/-- Can a request be sent? -/
def sendable (request : ApiRequest) : Except Failure Unit :=
  if Http.maxTargetOctets < request.uri.utf8ByteSize then
    .error (broken "Failed to build request: failed to build request: uri too long")
  else if (Http.Target.ofPath? false request.uri.toList).isSome then .ok ()
  else .error (broken "Failed to build request: failed to build request: invalid uri character")

/-- The text of a request's target, without a fragment. -/
def sentUri (uri : String) : String := String.ofList (uri.toList.takeWhile (· ≠ '#'))

/-- Sends a request and takes the response to it. -/
def exchange (request : ApiRequest) : Attempt Remote ApiResponse :=
  .of fun s =>
    match s.network with
    | .unreachable reason => (.error (broken ("HyperError: " ++ reason)), s)
    | .scripted responses =>
      let sent := s.sent ++ [{ request with uri := sentUri request.uri }]
      match responses with
      | [] => (.error (broken "ServiceError: no response left"), { s with sent })
      | response :: rest => (.ok response, { s with network := .scripted rest, sent })

/-- What a response comes to. -/
def reading {α : Type} (read : Json → Option α) (response : ApiResponse) : Except Failure α :=
  if Http.isErrorCode response.status then .error (ApiError.of response).failure
  else match (Json.scan? response.body).bind read with
    | some a => .ok a
    | none => .error unreadable

/-- Sends a request and reads the body of the response. -/
def ask {α : Type} (request : ApiRequest) (read : Json → Option α) : Attempt Remote α := do
  Attempt.ofResult (sendable request)
  let response ← exchange request
  Attempt.ofResult (reading read response)

/-- Asks in steps: the request is built, then it is sent, and then its response comes in, which is
concluded from. -/
def asking {α : Type} (request : ApiRequest) (read : Json → Option α)
    (conclude : Except Failure α → Except Failure α) : Strand Remote α :=
  match sendable request with
  | .error e => .last (.ofResult (conclude (.error e)))
  | .ok () =>
    .step id fun _ => .step (fun s => ((exchange request).outcome s).2) fun s =>
      .last (.ofResult (conclude (((exchange request).outcome s).1 >>= reading read)))

/-! ## What is read -/

/-- Reads a list of objects: it has metadata and items, each once. The other fields have to be whole,
whatever they are. -/
def objectList? {α : Type} (read : Json → Option α) (j : Json) : Option (List α) := do
  let fields ← j.asFields?
  if !fields.all fun f => f.1 = "metadata" || f.1 = "items" || f.2.isWhole then none
  let listMeta ← (← single? fields "metadata")
  let _ ← Shape.listMeta.normal? listMeta
  let items ← (← single? fields "items")
  return (← Json.orNull? (Json.asList? read) items).getD []

/-- Does a value have fields that pass their tests? They stand in an object, none of them twice, or
in an array in their order; in both, any of them may be missing. -/
def hasMembers (members : List (String × (Json → Bool))) : Json → Bool
  | .obj fields => members.all fun (name, test) =>
      match single? fields name with
      | none => false
      | some found => found.all test
  | .arr items =>
    items.length ≤ members.length && (items.zip members).all fun (j, _, test) => test j
  | _ => false

/-- Is this a text? -/
def isText (j : Json) : Bool := j.asText?.isSome

/-- Is this a cause among the details of a status? -/
def isStatusCause : Json → Bool :=
  hasMembers [("reason", isText), ("message", isText), ("field", isText)]

/-- Are these the details of a status? -/
def areStatusDetails : Json → Bool :=
  hasMembers [("name", isText), ("group", isText), ("kind", isText), ("uid", isText),
    ("causes", fun j => j.asItems?.any (·.all isStatusCause)),
    ("retryAfterSeconds", fun j => (Json.asNatBelow? (wordSize 32) j).isSome)]

/-- Is this how an operation came out: a word, or an object with the word as its only field and
nothing in it? -/
def isOutcome : Json → Bool
  | .str word => word = "Success" || word = "Failure"
  | .obj [(word, .null)] => word = "Success" || word = "Failure"
  | _ => false

/-- Is this the status of an operation? -/
def isStatus : Json → Bool :=
  hasMembers [("status", fun j => j.isNull || isOutcome j), ("code", fun j => (asCode? j).isSome),
    ("message", isText), ("reason", isText), ("details", fun j => j.isNull || areStatusDetails j)]

/-- Reads the answer to a deletion, which has to be whole: the status of the operation, or the job. -/
def deleted? (j : Json) : Option Unit :=
  if !j.isWhole then none
  else if j.field? "kind" == some (.str "Status") then if isStatus j then some () else none
  else (Job.ofJson? j).map fun _ => ()

/-! ## A cluster behind its API server as a cluster -/

/-- An answer, where an object that does not exist counts as one that is deleted. -/
def orAbsent (r : Except Failure Unit) : Except Failure Unit :=
  match r with
  | .ok () => .ok ()
  | .error e => if e.isNotFound then .ok () else .error e

instance : Cluster Remote where
  createJob ns job := ask (createRequest ns job) Job.ofJson?
  listJobs ns selector := ask (listRequest .job ns selector) (objectList? Job.ofJson?)
  getJob ns name := ask (getRequest .job ns name) Job.ofJson?
  deletion ns name propagation := asking (deleteRequest ns name propagation) deleted? orAbsent
  turns s := s.pace
  listPods ns selector := ask (listRequest .pod ns selector) (objectList? Pod.ofJson?)
  getPod ns name := ask (getRequest .pod ns name) Pod.ofJson?
  getScaledSet kind ns name :=
    ask (getRequest kind.toKind ns name) (ScaledSet.ofJson? kind)
  getDaemonSet ns name := ask (getRequest .daemonSet ns name) DaemonSet.ofJson?

end Remote

end BuildYard
