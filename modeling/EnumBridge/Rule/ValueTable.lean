import EnumBridge.Json.Basic
import EnumBridge.Table

/-!
# Value tables

A `ValueTable` pairs the client's values of one enum, which are names, with the server's,
which may be any JSON.  It is read in both directions: a client value has the server
value of its row, and a server value has the client value of the first row that holds it.
-/

set_option autoImplicit false

namespace EnumBridge

/-- Rows of a client value and a server value, with the client values distinct. -/
structure ValueTable where
  rows : Table Json

namespace ValueTable

/-- A table without rows. -/
def empty : ValueTable := ⟨[]⟩

/-- Puts a row into a table; a row for the same client value is replaced in its place. -/
def insert (table : ValueTable) (client : String) (server : Json) : ValueTable :=
  ⟨Table.insert client server table.rows⟩

/-- The table of a list of rows. -/
def ofList (rows : List (String × Json)) : ValueTable := ⟨Table.ofList rows⟩

/-- How many rows there are. -/
def size (table : ValueTable) : Nat := table.rows.length

/-- The server value of a client value. -/
def server? (table : ValueTable) (client : String) : Option Json := table.rows.lookup client

/-- The client value of a server value: that of the first row that holds it. -/
def client? (table : ValueTable) (server : Json) : Option String :=
  (table.rows.find? fun row => row.2 == server).map Prod.fst

/-- A value on its way to the server; anything but a client value of the table is left
alone. -/
def toServer (table : ValueTable) (value : Json) : Json :=
  match value with
  | .string client => (table.server? client).getD value
  | _ => value

/-- A value on its way to the client; anything but a server value of the table is left
alone. -/
def toClient (table : ValueTable) (value : Json) : Json :=
  match table.client? value with
  | some client => .string client
  | none => value

/-- A table as JSON: an object whose members are its rows, in order. -/
def toJson (table : ValueTable) : Json := .object table.rows

end ValueTable

end EnumBridge
