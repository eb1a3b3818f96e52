import EnumBridge.Relay.Session

/-!
# Stacks of bridges

A bridge with a hop behind it is a hop again (`Bridge.over`): it takes every request, and
its streams are sessions.  So bridges can be stacked; a request passes them from the
first to the last, and a response from the last to the first.
-/

set_option autoImplicit false

namespace EnumBridge

/-- A bridge with a hop behind it, as a hop.  It remembers the request as it was before
its variables were serialized. -/
def Bridge.over {σ : Type} (bridge : Bridge) (hop : Hop σ) : Hop (Request × Session σ) where
  forward request := pure (.ok (request, .idle))
  poll stream := do
    let (answer, session) ← Session.poll bridge stream.1 hop stream.2
    pure (answer, (stream.1, session))
  release stream := stream.2.release hop

namespace Stack

/-- The state of a stream of some bridges over streams with states in `σ`. -/
def State (σ : Type) : List Bridge → Type
  | [] => σ
  | _ :: rest => Request × Session (State σ rest)

/-- Some bridges with a hop behind the last of them, as a hop. -/
def hop {σ : Type} (last : Hop σ) : (bridges : List Bridge) → Hop (State σ bridges)
  | [] => last
  | bridge :: rest => bridge.over (hop last rest)

end Stack

end EnumBridge
