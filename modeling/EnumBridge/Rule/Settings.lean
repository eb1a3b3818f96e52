import EnumBridge.Rule.Rulebook
import EnumBridge.Schema

/-!
# Settings

A `Setting` is one step in setting up a rulebook.  Steps are taken in order, and a later
one replaces what an earlier one said of the same enum.  A `Config` is the part that can
be written down as data: value tables and naming styles.

`Rulebook.problems` lists the enums that a rulebook mentions and a schema does not have.
-/

set_option autoImplicit false

namespace EnumBridge

/-- Value tables by enum, and naming styles. -/
structure Config where
  valueTables : Table ValueTable
  styles : StyleSheet

/-- A configuration that says nothing. -/
def Config.empty : Config := ⟨[], .empty⟩

/-- Whether a configuration says nothing. -/
def Config.isEmpty (config : Config) : Bool :=
  config.valueTables.isEmpty && decide (config.styles = .empty)

/-- One step in setting up a rulebook. -/
inductive Setting
  /-- A function for the values of an enum in one direction. -/
  | function (direction : Direction) (enumName : String) (convert : Converter)
  /-- The value table of an enum. -/
  | valueTable (enumName : String) (table : ValueTable)
  /-- All naming styles at once, in place of those set before. -/
  | styles (sheet : StyleSheet)
  /-- A configuration laid over what was set before. -/
  | config (config : Config)

namespace Rulebook

/-- The rulebook after one more step. -/
def set (rules : Rulebook) : Setting → Rulebook
  | .function .toServer enumName convert =>
    { rules with toServer := Table.insert enumName convert rules.toServer }
  | .function .toClient enumName convert =>
    { rules with toClient := Table.insert enumName convert rules.toClient }
  | .valueTable enumName table =>
    { rules with valueTables := Table.insert enumName table rules.valueTables }
  | .styles sheet => { rules with styles := sheet }
  | .config config =>
    { rules with
      valueTables := Table.extend rules.valueTables config.valueTables
      styles := rules.styles.overlay config.styles }

/-- The rulebook that some steps set up. -/
def ofSettings (settings : List Setting) : Rulebook := settings.foldl set empty

end Rulebook

/-- A name that a rulebook mentions and that is not an enum of the schema. -/
inductive NameProblem
  | notAnEnum (name : String) (kind : TypeKind)
  | undefined (name : String)
  deriving DecidableEq

/-- A problem in words. -/
def NameProblem.message : NameProblem → String
  | .notAnEnum name kind =>
    "Conversion configured for `" ++ name ++ "`, which is a " ++ kind.name ++
      " type, not an enum"
  | .undefined name =>
    "Conversion configured for `" ++ name ++ "`, but the schema defines no such type"

namespace Rulebook

/-- What is wrong with a name, if anything. -/
def problem? (schema : Schema) (name : String) : Option NameProblem :=
  match schema.find? name with
  | none => some (.undefined name)
  | some type => if type.kind = .enum then none else some (.notAnEnum name type.kind)

/-- The enums that a rulebook mentions, each once, in ascending order. -/
def mentioned (rules : Rulebook) : List String :=
  rules.enumNames.eraseDups.mergeSort fun a b => decide (a ≤ b)

/-- What is wrong with the names that a rulebook mentions, in their order. -/
def problems (rules : Rulebook) (schema : Schema) : List NameProblem :=
  rules.mentioned.filterMap (problem? schema)

end Rulebook

end EnumBridge
