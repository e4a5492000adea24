import ArchiveDesk.Failure
import ArchiveDesk.Url.Basic

/-!
# Requests and responses

What the desk asks of a server and how the server answers. A network says what
becomes of a request.
-/

namespace ArchiveDesk.Http

/-- What a request does. -/
inductive Method where
  | get
  | post
  | delete
  deriving DecidableEq, Repr

/-- A request. -/
structure Request where
  method : Method
  url : Url
  /-- The type of the content, if there is any. -/
  contentType : Option String
  body : ByteArray

namespace Request

/-- The type of content that every request accepts. -/
def accept : String := "application/json"

/-- A request without content. -/
def plain (method : Method) (url : Url) : Request := ⟨method, url, none, .empty⟩

/-- A request that delivers bytes. -/
def deliver (url : Url) (body : ByteArray) : Request :=
  ⟨.post, url, some "application/octet-stream", body⟩

end Request

/-- The answer of a server. -/
structure Response where
  status : Nat
  body : ByteArray

namespace Response

/-- Whether the status reports success. -/
def isSuccess (r : Response) : Bool := 200 ≤ r.status && r.status < 300

/-- Whether the status reports an error, of the request or of the server. -/
def isError (r : Response) : Bool := 400 ≤ r.status && r.status < 600

/-- The status as a failure of the request. -/
def failure (r : Response) : Failure := .transport ("status " ++ toString r.status)

end Response

/-- What becomes of a request. -/
inductive Delivery where
  | answered (response : Response)
  /-- The server is not reached, or breaks off. -/
  | broken
  /-- The server never answers. -/
  | silent

/-- What becomes of every request. -/
abbrev Network := Request → Delivery

/-- The network that reaches no server. -/
def Network.unreachable : Network := fun _ => .broken

/-- A request that no server answers. -/
def unanswered : Failure := .transport "no answer"

end ArchiveDesk.Http
