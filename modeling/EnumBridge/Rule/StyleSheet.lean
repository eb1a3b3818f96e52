import EnumBridge.Naming.Style
import EnumBridge.Table

/-!
# The naming styles of both sides

A `StyleSheet` holds a naming style for the client and one for the server, either of
which may be missing, and styles for single enums that go before those.
-/

set_option autoImplicit false

namespace EnumBridge

/-- Which way a value travels. -/
inductive Direction
  /-- From the client to the server, in a variable. -/
  | toServer
  /-- From the server to the client, in a response. -/
  | toClient
  deriving DecidableEq

/-- The naming styles of both sides, and those of single enums. -/
structure StyleSheet where
  client : Option NamingStyle
  clientEnums : Table NamingStyle
  server : Option NamingStyle
  serverEnums : Table NamingStyle
  deriving DecidableEq

namespace StyleSheet

/-- A sheet without styles. -/
def empty : StyleSheet := ⟨none, [], none, []⟩

/-- The style that applies to all enums of the side that values travel to. -/
def general (sheet : StyleSheet) : Direction → Option NamingStyle
  | .toServer => sheet.server
  | .toClient => sheet.client

/-- The styles for single enums of the side that values travel to. -/
def single (sheet : StyleSheet) : Direction → Table NamingStyle
  | .toServer => sheet.serverEnums
  | .toClient => sheet.clientEnums

/-- The style that values of an enum are written in when they arrive: the one for that
enum, or else the one for all. -/
def target? (sheet : StyleSheet) (enumName : String) (direction : Direction) : Option NamingStyle :=
  ((sheet.single direction).lookup enumName) <|> sheet.general direction

/-- The sheet with another one laid over it: styles for single enums are replaced where
the other sheet has one, and general styles too. -/
def overlay (sheet other : StyleSheet) : StyleSheet :=
  { client := other.client <|> sheet.client
    clientEnums := Table.extend sheet.clientEnums other.clientEnums
    server := other.server <|> sheet.server
    serverEnums := Table.extend sheet.serverEnums other.serverEnums }

/-- The enums that have a style of their own. -/
def enumNames (sheet : StyleSheet) : List String :=
  Table.names sheet.clientEnums ++ Table.names sheet.serverEnums

end StyleSheet

end EnumBridge
