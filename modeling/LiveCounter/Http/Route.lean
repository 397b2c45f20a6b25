import LiveCounter.Http.Percent
import LiveCounter.Topic

/-!
# Routes

The paths of the server. A path about a counter is a verb followed by a namespace and a key, or by a
key alone, which then lies in the default namespace. The key is not empty; a namespace may be, and
is then refused as such. The parts of a path are decoded after they have been told apart.
-/

namespace LiveCounter.Http

/-- What a path leads to. -/
inductive Endpoint where
  | stream
  | hit
  | get
  | create
  | createRandom
  | info
  | delete
  | set
  | reset
  | update
  | stats
  | health
  | metrics
  deriving DecidableEq, Repr

namespace Endpoint

/-- Whether an endpoint answers `GET`, and with it `HEAD`. -/
def answersGet : Endpoint → Bool
  | .delete | .set | .reset | .update => false
  | _ => true

/-- Whether an endpoint answers `POST`. -/
def answersPost : Endpoint → Bool
  | .create | .createRandom | .delete | .set | .reset | .update => true
  | _ => false

/-- Whether an endpoint answers a method. -/
def answers (endpoint : Endpoint) (method : String) : Bool :=
  match method with
  | "GET" | "HEAD" => endpoint.answersGet
  | "POST" => endpoint.answersPost
  | _ => false

/-- The methods that an endpoint answers, as a header. -/
def allow (endpoint : Endpoint) : String :=
  ",".intercalate ((if endpoint.answersGet then ["GET", "HEAD"] else []) ++
    (if endpoint.answersPost then ["POST"] else []))

/-- The endpoint about counters that a verb names. -/
def ofVerb? : String → Option Endpoint
  | "stream" => some .stream
  | "hit" => some .hit
  | "get" => some .get
  | "create" => some .create
  | "info" => some .info
  | "delete" => some .delete
  | "set" => some .set
  | "reset" => some .reset
  | "update" => some .update
  | _ => none

/-- The query field that an endpoint reads. -/
def queryField? : Endpoint → Option String
  | .create | .createRandom => some "initializer"
  | .set | .update => some "value"
  | _ => none

end Endpoint

/-- The parts of a path that name a topic, still encoded. -/
structure PathParams where
  space : Option String
  key : String
  deriving DecidableEq, Repr

/-- A part of a path whose bytes are no text. -/
structure UndecodablePart where
  name : String
  deriving DecidableEq, Repr

/-- The wording of an undecodable part. -/
def UndecodablePart.message (fault : UndecodablePart) : String :=
  "Invalid URL: Invalid UTF-8 in `" ++ fault.name ++ "`"

namespace PathParams

/-- The parts, decoded. -/
def decode (params : PathParams) : Except UndecodablePart PathParams :=
  let space : Except UndecodablePart (Option String) :=
    match params.space with
    | none => .ok none
    | some encoded =>
      match Percent.decodeText? encoded with
      | some space => .ok (some space)
      | none => .error ⟨"namespace"⟩
  match space with
  | .error fault => .error fault
  | .ok space =>
    match Percent.decodeText? params.key with
    | some key => .ok ⟨space, key⟩
    | none => .error ⟨"key"⟩

/-- The topic that decoded parts name. -/
def topic (params : PathParams) : Except TopicFault Topic :=
  match params.space with
  | some space => Topic.ofParts space params.key
  | none => Topic.ofKey params.key

end PathParams

/-- Where a path leads, with the parts that name a topic. -/
structure Route where
  endpoint : Endpoint
  params : Option PathParams := none
  deriving DecidableEq, Repr

/-- The route of a path. -/
def Route.ofPath? (path : String) : Option Route :=
  let about (verb : String) (space : Option String) (key : String) : Option Route :=
    if key.isEmpty then none
    else (Endpoint.ofVerb? verb).map fun endpoint => ⟨endpoint, some ⟨space, key⟩⟩
  match path.splitOn "/" with
  | ["", "stats"] => some { endpoint := .stats }
  | ["", "health"] => some { endpoint := .health }
  | ["", "metrics"] => some { endpoint := .metrics }
  | ["", "create"] | ["", "create", ""] => some { endpoint := .createRandom }
  | ["", verb, key] => about verb none key
  | ["", verb, space, key] => about verb (some space) key
  | _ => none

end LiveCounter.Http
