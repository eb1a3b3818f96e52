import EnumBridge.Json.Reader
import EnumBridge.Rule.Settings

/-!
# Configurations in JSON

A configuration has two parts, `enumValueMap` and `valueFormat`, and the second has four:
`client`, `clientEnums`, `server` and `serverEnums`.  Every part may be missing, and
members of other names are ignored whatever they hold.  Instead of an object with these
members an array may list the parts in this order.

A part given twice is an error.  In a map from names a repeated name takes the last
value; the rows of a value table keep the place of the first.
-/

set_option autoImplicit false

namespace EnumBridge

namespace Written

/-- Whether every member has a readable name, and none of the given names stands
twice. -/
def namesAreClear (names : List String) (members : List (Option String × Written)) : Bool :=
  members.all (fun member => member.1.isSome) &&
    names.all fun name => decide ((members.filter fun member => member.1 == some name).length ≤ 1)

/-- The parts of a record, by name in an object or by place in an array; `none` stands
for a part that is missing. -/
def parts? (names : List String) : Written → Option (List (Option Written))
  | .object members =>
    if namesAreClear names members then
      some (names.map fun name => members.lookup (some name))
    else none
  | .array items =>
    if items.length ≤ names.length then
      some ((List.range names.length).map fun place => items[place]?)
    else none
  | _ => none

/-- The members of an object, all with readable names. -/
def entries? : Written → Option (List (String × Written))
  | .object members => members.mapM fun member => member.1.map fun name => (name, member.2)
  | _ => none

/-- A map from names, with every value read in the same way. -/
def table? {α : Type} (read : Written → Option α) (written : Written) : Option (Table α) := do
  let entries ← written.entries?
  let read ← entries.mapM fun entry => (read entry.2).map fun value => (entry.1, value)
  pure (Table.ofList read)

end Written

namespace NamingStyle

/-- A style by its name, given as a string or as an object whose only member is that name
with null. -/
def ofWritten? : Written → Option NamingStyle
  | .string (some name) => ofName? name
  | .object [(some name, .null)] => ofName? name
  | _ => none

/-- A style or null. -/
def optionOfWritten? : Written → Option (Option NamingStyle)
  | .null => some none
  | written => (ofWritten? written).map some

end NamingStyle

/-- A value table from an object; `depth` bounds the nesting of its server values. -/
def ValueTable.ofWritten? (depth : Nat) (written : Written) : Option ValueTable :=
  (written.table? (Written.toJson? depth)).map ValueTable.mk

/-- A style sheet from an object or an array of its parts. -/
def StyleSheet.ofWritten? (written : Written) : Option StyleSheet := do
  match ← written.parts? ["client", "clientEnums", "server", "serverEnums"] with
  | [client, clientEnums, server, serverEnums] =>
    let client ← (client.map NamingStyle.optionOfWritten?).getD (some none)
    let clientEnums ← (clientEnums.map (Written.table? NamingStyle.ofWritten?)).getD (some [])
    let server ← (server.map NamingStyle.optionOfWritten?).getD (some none)
    let serverEnums ← (serverEnums.map (Written.table? NamingStyle.ofWritten?)).getD (some [])
    pure ⟨client, clientEnums, server, serverEnums⟩
  | _ => none

namespace Config

/-- A configuration from an object or an array of its parts; `depth` bounds the nesting
of server values. -/
def ofWritten? (depth : Nat) (written : Written) : Option Config := do
  match ← written.parts? ["enumValueMap", "valueFormat"] with
  | [tables, styles] =>
    let tables ← (tables.map (Written.table? (ValueTable.ofWritten? depth))).getD (some [])
    let styles ← (styles.map StyleSheet.ofWritten?).getD (some .empty)
    pure ⟨tables, styles⟩
  | _ => none

/-- A configuration from JSON text.  Server values stand inside three containers. -/
def ofText? (text : String) : Option Config :=
  (Written.ofText? text).bind (ofWritten? (Written.maxNesting - 3))

/-- A configuration from a JSON value. -/
def ofJson? (value : Json) : Option Config := ofWritten? value.nesting (Written.ofJson value)

end Config

/-- A style sheet from a JSON value. -/
def StyleSheet.ofJson? (value : Json) : Option StyleSheet := ofWritten? (Written.ofJson value)

/-- A value table from JSON text. -/
def ValueTable.ofText? (text : String) : Option ValueTable :=
  (Written.ofText? text).bind (ofWritten? (Written.maxNesting - 1))

/-! ## Writing -/

/-- A style by its name, or null. -/
def NamingStyle.optionToJson (style : Option NamingStyle) : Json :=
  match style with
  | some style => .string style.name
  | none => .null

/-- A style sheet with all its parts. -/
def StyleSheet.toJson (sheet : StyleSheet) : Json :=
  let single (table : Table NamingStyle) : Json :=
    .object (Members.ofList (table.map fun entry => (entry.1, .string entry.2.name)))
  .object
    [ ("client", NamingStyle.optionToJson sheet.client),
      ("clientEnums", single sheet.clientEnums),
      ("server", NamingStyle.optionToJson sheet.server),
      ("serverEnums", single sheet.serverEnums) ]

/-- A configuration with all its parts. -/
def Config.toJson (config : Config) : Json :=
  .object
    [ ("enumValueMap",
        .object (Members.ofList (config.valueTables.map fun entry => (entry.1, entry.2.toJson)))),
      ("valueFormat", config.styles.toJson) ]

end EnumBridge
