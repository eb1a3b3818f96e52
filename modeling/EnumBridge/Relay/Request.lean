import EnumBridge.Bridge.Response
import EnumBridge.Bridge.Variables
import EnumBridge.Relay.Response

/-!
# Requests and what a bridge does to them and to their responses

A `Request` is an operation on its way to the server.  A bridge serializes the variables
of a request and leaves the rest alone; if a value cannot be converted, the request goes
no further.

Of a response it parses the data.  If that fails the response still goes on, but without
data, and with one more error that says why (`Bridge.parseResponse`).
-/

set_option autoImplicit false

namespace EnumBridge

/-- An operation on its way to the server. -/
structure Request where
  document : Document
  operationName : Option String
  variableValues : Members
  extensions : Members

namespace Bridge

/-- A request with its variables serialized. -/
def serializeRequest (bridge : Bridge) (request : Request) : Attempt BridgeError Request := do
  let values ←
    bridge.serializeVariables request.document request.operationName request.variableValues
  pure { request with variableValues := values }

/-- A response to a request with its data parsed, or without data and with one more
error. -/
def parseResponse (bridge : Bridge) (request : Request) (response : Response) : Noted Response :=
  match response.data with
  | none => pure response
  | some data => do
    match ← (bridge.parseData request.document request.operationName data).run with
    | .ok data => pure { response with data := some data }
    | .error error =>
      Noted.warn
        ("Dropping result data of operation " ++ Text.quotedOption request.operationName ++
          ": " ++ error.text)
      pure { response with
        data := none
        errors := response.errors ++ [ResponseError.ofBridgeError error] }

end Bridge

end EnumBridge
