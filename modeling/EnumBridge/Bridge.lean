import EnumBridge.FieldTree.Flatten
import EnumBridge.Rule.Settings

/-!
# Bridges

A `Bridge` converts the enum values of the operations and responses of one schema by one
rulebook.  This module holds the bridge itself and the errors that can stop it; how it
walks variables and responses stands in modules of their own.
-/

set_option autoImplicit false

namespace EnumBridge

/-- A schema and the rules for its enums. -/
structure Bridge where
  schema : Schema
  rules : Rulebook

/-- Why a bridge could not convert variables or data. -/
inductive BridgeError
  | conversion (error : ValueError)
  | flattening (error : FlattenError)

namespace BridgeError

/-- An error in words. -/
def text : BridgeError → String
  | .conversion error => error.text
  | .flattening error => "Unable to resolve fragments of the operation: " ++ error.message

/-- A word for programs that read errors. -/
def code : BridgeError → String
  | .conversion _ => "ENUM_CONVERSION_FAILED"
  | .flattening _ => "MALFORMED_DOCUMENT"

/-- The enum that an error names, if it names one. -/
def enumName? : BridgeError → Option String
  | .conversion error => error.enumName?
  | .flattening _ => none

end BridgeError

namespace Bridge

/-- The bridge that some settings set up, whatever names they mention. -/
def ofSettings (schema : Schema) (settings : List Setting) : Bridge :=
  ⟨schema, Rulebook.ofSettings settings⟩

/-- The bridge that some settings set up, if they mention enums of the schema only. -/
def ofSettingsStrict (schema : Schema) (settings : List Setting) :
    Except (List NameProblem) Bridge :=
  let bridge := ofSettings schema settings
  let problems := bridge.rules.problems schema
  if problems.isEmpty then .ok bridge else .error problems

/-- A value of an enum converted. -/
def convert (bridge : Bridge) (enumName : String) (direction : Direction) (value : Json) :
    Attempt BridgeError Json :=
  Attempt.ofExcept ((bridge.rules.convert enumName direction value).mapError .conversion)

/-- Reports a value whose type the schema does not define. -/
def reportUnknownType (name : String) : Attempt BridgeError Unit :=
  Attempt.debug ("Leaving value of unknown type `" ++ name ++ "` untouched.")

end Bridge

end EnumBridge
