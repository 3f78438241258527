import BuildYard.Failure
import BuildYard.Http.Target
import BuildYard.Http.Vocabulary
import BuildYard.Json.Basic
/-!
# Requests and responses

What the HTTP server receives and what it gives back. Of the headers only the type of the content is
kept.
-/

namespace BuildYard.Http

/-- The method of a request. -/
inductive Method where
  | get
  | head
  | post
  | delete
  | other (name : String)
  deriving DecidableEq, Repr

/-- The method that is called so: any token; case counts. -/
def Method.of? (name : String) : Option Method :=
  if name = "GET" then some .get
  else if name = "HEAD" then some .head
  else if name = "POST" then some .post
  else if name = "DELETE" then some .delete
  else if name ≠ "" && name.toList.all isTokenChar then some (.other name)
  else none

/-- A request. Its body is a text: bodies that are no UTF-8 are left out. -/
structure Request where
  method : Method
  target : Target
  contentType : Option String := none
  body : String := ""

/-- What a response brings, by the type that it announces; the body itself is left out of the
response to a request for the head alone. -/
inductive Content where
  | nothing
  | json (body : Option Json)
  | text (body : Option String)

/-- The content without the body. -/
def Content.headOnly : Content → Content
  | .nothing => .nothing
  | .json _ => .json none
  | .text _ => .text none

/-- A response. -/
structure Response where
  status : Nat
  content : Content := .nothing

namespace Response

/-- The response that brings a JSON value. -/
def ofJson (status : Nat) (j : Json) : Response := ⟨status, .json (some j)⟩

/-- The response to an operation that failed. -/
def ofFailure (f : Failure) : Response :=
  ofJson f.status (.obj [("error", .str f.message)])

/-- The response to an operation: its answer, or its failure. -/
def ofResult {α : Type} (status : Nat) (toJson : α → Json) : Except Failure α → Response
  | .ok a => ofJson status (toJson a)
  | .error f => ofFailure f

/-- The response to the same request for the head alone. -/
def headOnly (r : Response) : Response := { r with content := r.content.headOnly }

end Response

end BuildYard.Http
