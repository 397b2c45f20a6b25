import LiveCounter.Counter.Store
import LiveCounter.Json.Value
import LiveCounter.Stream.Fault

/-!
# Responses

What a request is answered with: a status, headers, and a body. The body of an event stream is not a
text but the session that feeds it. Errors are answered with a JSON object that holds their message.
-/

namespace LiveCounter.Http

/-- The body of a response. -/
inductive Body where
  | text (content : String)
  /-- The frames of a session, as long as it lasts. -/
  | stream (session : Nat)
  deriving DecidableEq, Repr

/-- The answer to a request. -/
structure Response where
  status : Nat
  headers : List (String × String)
  body : Body
  deriving DecidableEq, Repr

namespace Response

/-- A response without content. -/
def empty (status : Nat) (headers : List (String × String)) : Response :=
  ⟨status, headers, .text ""⟩

/-- A response with a text of the given type. -/
def typed (status : Nat) (type content : String) : Response :=
  ⟨status, [("content-type", type)], .text content⟩

/-- A response with a plain text. -/
def plain (status : Nat) (content : String) : Response :=
  typed status "text/plain; charset=utf-8" content

/-- A response with a JSON value. -/
def json (status : Nat) (value : Json) : Response :=
  typed status "application/json" value.compact

/-- A response that opens an event stream. -/
def eventStream (session : Nat) : Response where
  status := 200
  headers := [("content-type", "text/event-stream"), ("cache-control", "no-cache"),
    ("x-accel-buffering", "no")]
  body := .stream session

/-- A response with further headers. -/
def withHeaders (response : Response) (headers : List (String × String)) : Response :=
  { response with headers := response.headers ++ headers }

end Response

/-- A request that cannot be served. -/
structure Refusal where
  status : Nat
  message : String
  deriving DecidableEq, Repr

namespace Refusal

/-- The body that reports an error. -/
def json (refusal : Refusal) : Json :=
  .object [("error", .str refusal.message)]

/-- The response that reports an error. -/
def response (refusal : Refusal) : Response :=
  .json refusal.status refusal.json

/-- A topic that is none is the client's fault. -/
def ofTopic (fault : TopicFault) : Refusal := ⟨400, fault.message⟩

/-- A counter that exists or is missing is a conflict with a write, and not found by a reader. -/
def ofCounter (fault : CounterFault) : Refusal :=
  match fault with
  | .alreadyExists _ | .missing _ => ⟨409, fault.message⟩
  | .notFound _ => ⟨404, fault.message⟩
  | .overflow _ => ⟨400, fault.message⟩

/-- A stream that is not admitted may be asked for again; all else is the server's fault. -/
def ofStream (fault : StreamFault) : Refusal :=
  match fault with
  | .capacityExceeded _ | .stopping | .sessionClosed => ⟨503, fault.message⟩
  | _ => ⟨500, fault.message⟩

end Refusal

end LiveCounter.Http
