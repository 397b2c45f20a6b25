import LiveCounter.Time.Duration

/-!
# Stream errors and close reasons

A stream fails because of its client's connection, because it was silent or slow, or because it was
not admitted. Every session that closes does so for one reason; an error determines the reason that
it leads to.
-/

namespace LiveCounter

/-- A write to a client failed. -/
inductive TransportFault where
  | closed
  | timeout (bound : Duration)
  | io (message : String)
  deriving DecidableEq, Repr

/-- The wording of a failed write. -/
def TransportFault.message : TransportFault → String
  | .closed => "peer closed the stream"
  | .timeout bound => "write timed out after " ++ bound.text
  | .io message => "transport I/O error: " ++ message

/-- What can go wrong with a stream. -/
inductive StreamFault where
  | transport (fault : TransportFault)
  | idleTimeout (silence : Duration)
  | backpressureDrop
  | disagreement (message : String)
  | capacityExceeded (max : Nat)
  | stopping
  | sessionClosed
  deriving DecidableEq, Repr

/-- The name of a kind of stream error. -/
def StreamFault.kind : StreamFault → String
  | .transport .closed => "TransportClosed"
  | .transport (.timeout _) => "TransportTimeout"
  | .transport (.io _) => "TransportIo"
  | .idleTimeout _ => "IdleTimeout"
  | .backpressureDrop => "BackpressureDrop"
  | .disagreement _ => "RegistryInconsistency"
  | .capacityExceeded _ => "CapacityExceeded"
  | .stopping => "ShuttingDown"
  | .sessionClosed => "SessionClosed"

/-- The wording of a stream error. -/
def StreamFault.message : StreamFault → String
  | .transport fault => fault.message
  | .idleTimeout silence => "no activity for " ++ silence.text
  | .backpressureDrop => "outbound queue full, event dropped"
  | .disagreement message => "registry inconsistency: " ++ message
  | .capacityExceeded max => "connection limit reached (" ++ toString max ++ ")"
  | .stopping => "server is shutting down"
  | .sessionClosed => "session closed while opening"

/-- Why a session was closed. -/
inductive CloseReason where
  | clientClosed
  | transportError
  | idleTimeout
  | backpressure
  | topicClosed
  | shutdown
  | explicit
  | inconsistency
  | aborted
  deriving DecidableEq, Repr

namespace CloseReason

/-- All reasons. -/
def all : List CloseReason :=
  [.clientClosed, .transportError, .idleTimeout, .backpressure, .topicClosed, .shutdown, .explicit,
    .inconsistency, .aborted]

/-- The label of a reason in logs and metrics. -/
def label : CloseReason → String
  | .clientClosed => "client_closed"
  | .transportError => "transport_error"
  | .idleTimeout => "idle_timeout"
  | .backpressure => "backpressure"
  | .topicClosed => "topic_closed"
  | .shutdown => "shutdown"
  | .explicit => "explicit"
  | .inconsistency => "inconsistency"
  | .aborted => "aborted"

/-- The form of a reason in diagnostics. -/
def debugText : CloseReason → String
  | .clientClosed => "ClientClosed"
  | .transportError => "TransportError"
  | .idleTimeout => "IdleTimeout"
  | .backpressure => "Backpressure"
  | .topicClosed => "TopicClosed"
  | .shutdown => "Shutdown"
  | .explicit => "Explicit"
  | .inconsistency => "Inconsistency"
  | .aborted => "Aborted"

/-- The reason with the given label. -/
def ofLabel? (label : String) : Option CloseReason :=
  all.find? fun reason => reason.label == label

/-- Whether the server closed the session on its own account. -/
def isForced : CloseReason → Bool
  | .idleTimeout | .backpressure | .inconsistency | .aborted => true
  | _ => false

/-- The reason to which an error leads. -/
def ofError : StreamFault → CloseReason
  | .transport _ => .transportError
  | .idleTimeout _ => .idleTimeout
  | .backpressureDrop => .backpressure
  | .disagreement _ => .inconsistency
  | .stopping => .shutdown
  | .capacityExceeded _ | .sessionClosed => .explicit

end CloseReason

end LiveCounter
