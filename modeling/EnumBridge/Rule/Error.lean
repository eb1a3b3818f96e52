import EnumBridge.Json.Printer

/-!
# Failed conversions

A `ValueError` says why an enum value could not be converted.  A function that converts
values may give a bare message; the enum whose value it was is added afterwards, unless
the error names an enum already (`ValueError.inEnumNamed`).
-/

set_option autoImplicit false

namespace EnumBridge

/-- Why an enum value could not be converted. -/
inductive ValueError
  /-- A failure that happened at a value of an enum. -/
  | inEnum (enumName : String) (source : ValueError)
  /-- A failure that is only described. -/
  | message (text : String)
  /-- A value that has no counterpart. -/
  | unconvertible (enumName : String) (value : Json)

namespace ValueError

/-- An error in words. -/
def text : ValueError → String
  | .inEnum enumName source =>
    "Failed to convert a value of enum `" ++ enumName ++ "`: " ++ source.text
  | .message text => text
  | .unconvertible enumName value =>
    "Unable to convert value " ++ value.compact ++ " of enum `" ++ enumName ++ "`"

/-- The enum that an error names, if it names one. -/
def enumName? : ValueError → Option String
  | .inEnum enumName _ => some enumName
  | .message _ => none
  | .unconvertible enumName _ => some enumName

/-- The error with the enum added, unless it names one already. -/
def inEnumNamed (enumName : String) : ValueError → ValueError
  | .message text => .inEnum enumName (.message text)
  | error => error

end ValueError

end EnumBridge
