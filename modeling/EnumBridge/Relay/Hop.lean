import EnumBridge.Relay.Request

/-!
# Hops

A `Hop σ` is anything that takes a request and answers with a stream of responses whose
state is a `σ`: a transport to a server, or a bridge with a hop behind it.  A stream is
polled for its next response, and released when nobody wants it any more.

What happens at the far end is reported as events: the requests that a transport is
given, and the streams of a transport that are released.
-/

set_option autoImplicit false

namespace EnumBridge

/-- Why a stream of responses failed. -/
inductive RelayError
  /-- The server or the connection to it failed. -/
  | downstream (error : ResponseError)
  /-- The request could not be handed on. -/
  | refused (reason : String)
  /-- The variables of the request could not be converted. -/
  | bridge (error : BridgeError)

/-- An error in words. -/
def RelayError.text : RelayError → String
  | .downstream error => "Downstream error: " ++ error.message
  | .refused reason => "Failed to forward the operation: " ++ reason
  | .bridge error => error.text

/-- What a stream answers when it is polled. -/
inductive Poll
  /-- Nothing yet. -/
  | pending
  | response (response : Response)
  | failure (error : RelayError)
  /-- No more responses. -/
  | finished

/-- Something to be known from outside about a relay. -/
inductive Event
  | note (note : Note)
  /-- A transport was given a request. -/
  | forwarded (request : Request)
  /-- A stream of a transport was released. -/
  | released

/-- Something that takes a request and answers with a stream whose state is a `σ`. -/
structure Hop (σ : Type) where
  /-- Takes a request: the stream of its responses, or the reason why there is none. -/
  forward : Request → Traced Event (Except RelayError σ)
  /-- Polls a stream. -/
  poll : σ → Traced Event (Poll × σ)
  /-- Releases a stream. -/
  release : σ → Traced Event Unit

/-- A connection to a server: whether it takes a request, and what it answers the first
time it is polled, the second time, and so on. -/
structure Transport where
  answers : Request → Except RelayError (Nat → Poll)

/-- A stream of a transport: its answers, and how often it has been polled. -/
structure Transport.Stream where
  answers : Nat → Poll
  polled : Nat

/-- A transport as a hop. -/
def Transport.hop (transport : Transport) : Hop Transport.Stream where
  forward request := do
    Traced.report (.forwarded request)
    pure ((transport.answers request).map fun answers => ⟨answers, 0⟩)
  poll stream := pure (stream.answers stream.polled, ⟨stream.answers, stream.polled + 1⟩)
  release _ := Traced.report .released

end EnumBridge
