import EnumBridge.Rule.Error
import EnumBridge.Rule.StyleSheet
import EnumBridge.Rule.ValueTable

/-!
# The rules by which enum values are converted

A `Rulebook` holds, for enums by name, functions for either direction, value tables and
naming styles.  `Rulebook.rule` picks the one rule that applies to an enum in a
direction: a function goes before a table, a table before a style, and without any of
them values stay as they are.

`Rulebook.convert` applies that rule to a value.  Null stands for no value at all and is
never converted.
-/

set_option autoImplicit false

namespace EnumBridge

/-- A conversion of the values of one enum in one direction. -/
abbrev Converter := Json → Except ValueError Json

/-- How the values of one enum are converted in one direction. -/
inductive Rule
  | function (convert : Converter)
  | identity
  | style (style : NamingStyle)
  | table (direction : Direction) (table : ValueTable)

/-- A value converted by a rule.  A style converts strings and leaves other values
alone. -/
def Rule.apply : Rule → Json → Except ValueError Json
  | .function f, value => f value
  | .identity, value => .ok value
  | .style naming, .string s => .ok (.string (naming.convert s))
  | .style _, value => .ok value
  | .table .toServer rows, value => .ok (rows.toServer value)
  | .table .toClient rows, value => .ok (rows.toClient value)

/-- Every rule there is, by the name of the enum it is for. -/
structure Rulebook where
  toServer : Table Converter
  toClient : Table Converter
  valueTables : Table ValueTable
  styles : StyleSheet

namespace Rulebook

/-- A rulebook without rules. -/
def empty : Rulebook := ⟨[], [], [], .empty⟩

/-- The functions for a direction. -/
def functions (rules : Rulebook) : Direction → Table Converter
  | .toServer => rules.toServer
  | .toClient => rules.toClient

/-- The function for an enum. -/
def function? (rules : Rulebook) (enumName : String) (direction : Direction) : Option Rule :=
  ((rules.functions direction).lookup enumName).map .function

/-- The value table for an enum. -/
def table? (rules : Rulebook) (enumName : String) (direction : Direction) : Option Rule :=
  (rules.valueTables.lookup enumName).map (.table direction)

/-- The naming style for an enum. -/
def style? (rules : Rulebook) (enumName : String) (direction : Direction) : Option Rule :=
  (rules.styles.target? enumName direction).map .style

/-- The rule for an enum. -/
def rule (rules : Rulebook) (enumName : String) (direction : Direction) : Rule :=
  (rules.function? enumName direction <|> rules.table? enumName direction <|>
    rules.style? enumName direction).getD .identity

/-- A value of an enum converted.  An error names the enum. -/
def convert (rules : Rulebook) (enumName : String) (direction : Direction) (value : Json) :
    Except ValueError Json :=
  if value.isNull then .ok value
  else ((rules.rule enumName direction).apply value).mapError (ValueError.inEnumNamed enumName)

/-- The enums that have a rule of their own, each as often as it has one. -/
def enumNames (rules : Rulebook) : List String :=
  Table.names rules.toClient ++ Table.names rules.toServer ++ Table.names rules.valueTables ++
    rules.styles.enumNames

end Rulebook

end EnumBridge
