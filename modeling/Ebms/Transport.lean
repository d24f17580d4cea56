import Ebms.Bytes
import Ebms.Text.Trim
import Ebms.Time.Span

/-! # Transport outcomes

A transmission is a request that was answered, failed, or was not answered in
time.  An answer counts as received when its status says success, and also when
a server error carries a SOAP message, which then tells what went wrong. -/

set_option autoImplicit false

namespace Ebms

structure Transmission where
  endpoint : String
  contentType : String
  body : Bytes
  messageId : String
  deriving DecidableEq, Repr, Inhabited

structure Response where
  status : Nat
  contentType : Option String
  body : Bytes
  deriving DecidableEq, Repr, Inhabited

def Response.empty : Response := { status := 200, contentType := none, body := [] }

inductive TransportError where
  | unreachable (endpoint reason : String)
  | timeout (after : Span)
  | serverError (status : Nat)
  | unauthorized (status : Nat)
  | rejected (status : Nat)
  | invalidEndpoint (reason : String)
  | broken (reason : String)
  deriving DecidableEq, Repr, Inhabited

namespace TransportError

def message : TransportError → String
  | .unreachable endpoint reason => "Connection to " ++ endpoint ++ " failed: " ++ reason
  | .timeout after => "Attempt timed out after " ++ after.unitText
  | .serverError status => "Server error: HTTP " ++ Text.ofNat status
  | .unauthorized status => "Authentication rejected: HTTP " ++ Text.ofNat status
  | .rejected status => "Request rejected: HTTP " ++ Text.ofNat status
  | .invalidEndpoint reason => "Invalid endpoint: " ++ reason
  | .broken reason => "Transport I/O error: " ++ reason

/-- Whether the cause may pass, so that another attempt makes sense. -/
def isRetriable : TransportError → Bool
  | .unreachable .. | .timeout _ | .serverError _ => true
  | _ => false

end TransportError

def mediaTypeOf (contentType : String) : String :=
  Text.asciiLower (Text.trim ((Text.pieces ';' contentType).headD ""))

def isSoapContentType (contentType : String) : Bool :=
  ["application/soap+xml", "text/xml", "multipart/related"].contains (mediaTypeOf contentType)

/-- Whether an answer counts as received, by its status and content type. -/
def classifyStatus (status : Nat) (contentType : Option String) : Except TransportError Unit :=
  if 200 ≤ status ∧ status ≤ 299 then .ok ()
  else if status = 401 ∨ status = 403 then .error (.unauthorized status)
  else if 500 ≤ status ∧ status ≤ 599 then
    if contentType.any isSoapContentType then .ok () else .error (.serverError status)
  else .error (.rejected status)

inductive Outcome where
  | answered (response : Response)
  | failed (error : TransportError)
  | silent
  deriving DecidableEq, Repr, Inhabited

/-- The result of an attempt that waits for an answer up to a time limit. -/
def Outcome.received (limit : Span) : Outcome → Except TransportError Response
  | .answered response =>
    match classifyStatus response.status response.contentType with
    | .ok () => .ok response
    | .error error => .error error
  | .failed error => .error error
  | .silent => .error (.timeout limit)

/-- The waits of an attempt: up to the time limit for an answer that does not come. -/
def Outcome.waits (limit : Span) : Outcome → List Span
  | .silent => [limit]
  | _ => []

end Ebms
