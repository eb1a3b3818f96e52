import EnumBridge.Relay.Hop

/-!
# Sessions

A `Session σ` is the state of the stream that a bridge makes of one request over a hop
whose streams have states in `σ`.  Nothing happens before it is polled for the first
time.  The first poll serializes the request and hands it on; from then on every poll is
handed on to the stream below, and the responses that come back are parsed.  The session
is closed by the first failure and by the end of the stream below, which is released at
that moment, and a closed session answers that it is finished.
-/

set_option autoImplicit false

namespace EnumBridge

/-- The state of a stream of converted responses; it holds the stream below exactly while
that stream is in use. -/
inductive Session (σ : Type)
  /-- Not polled yet. -/
  | idle
  /-- Handed on, without a response yet. -/
  | pending (below : σ)
  /-- Behind the first response. -/
  | emitting (below : σ)
  /-- Finished or failed. -/
  | closed

namespace Session

variable {σ : Type}

/-- The name of a state. -/
def stateName : Session σ → String
  | .idle => "Idle"
  | .pending _ => "Pending"
  | .emitting _ => "Emitting"
  | .closed => "Closed"

/-- Whether a session will have no more responses. -/
def isClosed : Session σ → Bool
  | .closed => true
  | _ => false

/-- The stream below, while it is in use. -/
def below? : Session σ → Option σ
  | .pending below => some below
  | .emitting below => some below
  | _ => none

/-- A session in a log line. -/
def describe (session : Session σ) (request : Request) : String :=
  "TranscodedResultStream \x7b operation_name: " ++ Text.quotedOption request.operationName ++
    ", state: " ++ session.stateName ++ ", .. \x7d"

/-- Polls the stream below, which stays in the state `waiting` if it has no answer yet. -/
def advance (bridge : Bridge) (request : Request) (hop : Hop σ) (waiting : σ → Session σ)
    (below : σ) : Traced Event (Poll × Session σ) := do
  let (answer, below) ← hop.poll below
  match answer with
  | .pending => pure (.pending, waiting below)
  | .response response => do
    let response ← (bridge.parseResponse request response).mapEvents .note
    pure (.response response, .emitting below)
  | .failure error => do
    hop.release below
    pure (.failure error, .closed)
  | .finished => do
    hop.release below
    pure (.finished, .closed)

/-- Serializes the request, hands it on, and polls the stream below for the first time. -/
def start (bridge : Bridge) (request : Request) (hop : Hop σ) :
    Traced Event (Poll × Session σ) := do
  match ← (bridge.serializeRequest request).run.mapEvents .note with
  | .error error => pure (.failure (.bridge error), .closed)
  | .ok serialized => do
    Traced.report (.note ⟨.trace,
      "Forwarding operation " ++ Text.quotedOption serialized.operationName ++
        " with serialized variables."⟩)
    match ← hop.forward serialized with
    | .error error => pure (.failure error, .closed)
    | .ok below => advance bridge request hop .pending below

/-- Polls a session. -/
def poll (bridge : Bridge) (request : Request) (hop : Hop σ) :
    Session σ → Traced Event (Poll × Session σ)
  | .idle => start bridge request hop
  | .pending below => advance bridge request hop .pending below
  | .emitting below => advance bridge request hop .emitting below
  | .closed => pure (.finished, .closed)

/-- Releases what a session holds. -/
def release (hop : Hop σ) (session : Session σ) : Traced Event Unit :=
  match session.below? with
  | some below => hop.release below
  | none => pure ()

end Session

end EnumBridge
