import DocsConsole.Backend.Answer
import DocsConsole.CoreInstances
import DocsConsole.Web.Url

/-!
# The client

A call becomes a request, the network may give a response to it, and the
response is read as an answer.  The network is a function, so what the client
sends and makes of a response can be told without one.
-/

namespace DocsConsole.Backend

open scoped CoreInstances

structure HttpRequest where
  method : String
  url : Web.Url
  authorization : Option String
  body : Body
deriving Inhabited

structure HttpResponse where
  status : Nat
  body : ByteArray
deriving DecidableEq, Inhabited

inductive CallFailure where
  /-- There is no request: the address or the token cannot be sent. -/
  | unsendable
  /-- There is no response. -/
  | noResponse
  /-- The response reports a failure. -/
  | status (code : Nat)
  /-- The body of the response is no answer. -/
  | unreadable
deriving DecidableEq, Repr

/-- A network: for a request there is a response or none. -/
abbrev Network := HttpRequest → Option HttpResponse

/-- A network without any connection. -/
def Network.unreachable : Network := fun _ => none

/-- A client of the backend at an address, which does not end in a slash. -/
structure Client where
  baseUrl : String
deriving DecidableEq, Repr, Inhabited

namespace Client

/-- The client of the backend at an address.  Slashes at its end do not count. -/
def ofAddress (address : String) : Client :=
  ⟨String.ofList (Unicode.dropEndWhile (· = '/') address.toList)⟩

/-- Whether a text can be sent in a header. -/
def isHeaderText (text : String) : Bool :=
  text.toList.all fun c => c = '\t' || (0x20 ≤ c.toNat && c ≠ '\x7f')

def request (client : Client) (call : Call) : Except CallFailure HttpRequest :=
  match Web.Url.read? (client.baseUrl ++ "/" ++ call.endpoint) with
  | none => .error .unsendable
  | some url =>
      let authorization := call.bearer?.map ("Bearer " ++ ·)
      if authorization.all isHeaderText then .ok ⟨call.method, url, authorization, call.body⟩
      else .error .unsendable

/-- Reads a response to a call.  A status from 400 on reports a failure. -/
def receive (call : Call) (response : HttpResponse) : Except CallFailure Answer :=
  if 400 ≤ response.status ∧ response.status < 600 then .error (.status response.status)
  else
    match Answer.read? call response.body with
    | some answer => .ok answer
    | none => .error .unreadable

def perform (client : Client) (network : Network) (call : Call) : Except CallFailure Answer :=
  match client.request call with
  | .error failure => .error failure
  | .ok request =>
      match network request with
      | none => .error .noResponse
      | some response => receive call response

end Client

end DocsConsole.Backend
