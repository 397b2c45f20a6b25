/-!
# Listening

A server listens at an address and a port. A host is an address in dotted form or the name of the
machine itself. Port zero stands for any free port.
-/

namespace LiveCounter.Http

/-- An address of four octets. -/
structure Address where
  a : UInt8
  b : UInt8
  c : UInt8
  d : UInt8
  deriving DecidableEq, Repr

namespace Address

/-- All addresses of the machine. -/
def any : Address := ⟨0, 0, 0, 0⟩

/-- The address by which a machine reaches itself. -/
def loopback : Address := ⟨127, 0, 0, 1⟩

/-- Whether a machine without a network has this address. -/
def isLocal (address : Address) : Bool := address == any || address.a == 127

/-- The dotted form of an address. -/
def text (address : Address) : String :=
  ".".intercalate ([address.a, address.b, address.c, address.d].map fun n => toString n.toNat)

/-- An octet in decimal, without leading zeros. -/
def octet? (text : String) : Option UInt8 :=
  let digits := text.toList
  if digits.isEmpty || 3 < digits.length || (digits.head? == some '0' && 1 < digits.length) ||
      !digits.all Char.isDigit then none
  else
    let n := digits.foldl (fun n digit => 10 * n + (digit.toNat - '0'.toNat)) 0
    if n < 256 then some (.ofNat n) else none

/-- The address of a dotted form. -/
def ofText? (text : String) : Option Address :=
  match (text.splitOn ".").mapM octet? with
  | some [a, b, c, d] => some ⟨a, b, c, d⟩
  | _ => none

end Address

/-- An address with a port, at which a server can listen. -/
structure Socket where
  address : Address
  port : UInt16
  deriving DecidableEq, Repr

namespace Socket

/-- The form of a socket in an address line. -/
def text (socket : Socket) : String :=
  socket.address.text ++ ":" ++ toString socket.port.toNat

/-- Whether two sockets cannot both be listened at. -/
def clash (one other : Socket) : Bool :=
  one.port == other.port &&
    (one.address == other.address || one.address == .any || other.address == .any)

end Socket

/-- Why a server cannot listen. -/
inductive BindFault where
  | inUse
  | notLocal
  | unknownHost
  deriving DecidableEq, Repr

/-- The kind of a fault. -/
def BindFault.kind : BindFault → String
  | .inUse => "AddrInUse"
  | .notLocal => "AddrNotAvailable"
  | .unknownHost => "Uncategorized"

/-- The wording of a fault. -/
def BindFault.message : BindFault → String
  | .inUse => "Address already in use (os error 98)"
  | .notLocal => "Cannot assign requested address (os error 99)"
  | .unknownHost => "failed to lookup address information: Temporary failure in name resolution"

/-- The sockets of a machine: those at which somebody listens, and a port that is free. -/
structure Sockets where
  taken : List Socket := []
  free : UInt16 := 49152

/-- The address of a host. -/
def resolve (host : String) : Except BindFault Address :=
  match Address.ofText? host with
  | some address => .ok address
  | none => if host = "localhost" then .ok .loopback else .error .unknownHost

/-- Starts to listen at a host and a port. -/
def Sockets.bind (sockets : Sockets) (host : String) (port : UInt16) :
    Except BindFault (Socket × Sockets) := do
  let address ← resolve host
  let socket : Socket := ⟨address, if port = 0 then sockets.free else port⟩
  if !address.isLocal then .error .notLocal
  else if sockets.taken.any socket.clash then .error .inUse
  else return (socket, { sockets with taken := socket :: sockets.taken })

end LiveCounter.Http
