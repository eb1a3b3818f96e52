import EnumBridge.Json.Basic

/-!
# JSON as it was written

`Written` is the tree of a JSON text before any of it is interpreted: members keep the
order and the repetitions of the text.  A number too large for a double and a string
with half of a surrogate pair have no value; they are kept as leaves without one, since
a reader that ignores a member does not mind what it holds.

`Written.toJson?` is the value of such a tree.  It fails where a leaf has no value and
where containers are nested deeper than the given number of levels.  Of members with
one name the last counts.
-/

set_option autoImplicit false

namespace EnumBridge

/-- A JSON text as a tree, with the order and the repetitions of the text. -/
inductive Written
  | null
  | bool (value : Bool)
  /-- A number, or nothing if it is too large. -/
  | number (value : Option Number)
  /-- A string, or nothing if it holds half of a surrogate pair. -/
  | string (value : Option String)
  | array (items : List Written)
  | object (members : List (Option String × Written))

namespace Written

/-- How many containers a readable text may nest. -/
def maxNesting : Nat := 127

mutual

/-- The value that was written, if every leaf has one and at most `depth` containers are
nested. -/
def toJson? (depth : Nat) : Written → Option Json
  | .null => some .null
  | .bool b => some (.bool b)
  | .number n => n.map .number
  | .string s => s.map .string
  | .array items =>
    if depth = 0 then none else (itemsToJson? (depth - 1) items).map .array
  | .object members =>
    if depth = 0 then none
    else (membersToJson? (depth - 1) members).map fun ms => .object (Members.ofList ms)

/-- The values of the items of an array. -/
def itemsToJson? (depth : Nat) : List Written → Option (List Json)
  | [] => some []
  | item :: rest => do
    let value ← item.toJson? depth
    let values ← itemsToJson? depth rest
    pure (value :: values)

/-- The names and values of the members of an object, in the order of the text. -/
def membersToJson? (depth : Nat) :
    List (Option String × Written) → Option (List (String × Json))
  | [] => some []
  | (name, item) :: rest => do
    let name ← name
    let value ← item.toJson? depth
    let values ← membersToJson? depth rest
    pure ((name, value) :: values)

end

mutual

/-- A value as a tree: what is written when its members are listed in order. -/
def ofJson : Json → Written
  | .null => .null
  | .bool b => .bool b
  | .number n => .number (some n)
  | .string s => .string (some s)
  | .array items => .array (ofItems items)
  | .object members => .object (ofMembers members)

/-- The trees of the items of an array. -/
def ofItems : List Json → List Written
  | [] => []
  | item :: rest => ofJson item :: ofItems rest

/-- The trees of the members of an object. -/
def ofMembers : List (String × Json) → List (Option String × Written)
  | [] => []
  | (name, item) :: rest => (some name, ofJson item) :: ofMembers rest

end

end Written

end EnumBridge
