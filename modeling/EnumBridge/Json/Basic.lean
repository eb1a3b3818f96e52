import EnumBridge.Double

/-!
# JSON values

A `Json` value is null, a boolean, a number, a string, an array or an object.  Numbers
are exact integers or doubles, and the two kinds are never equal to each other.  The
members of an object are a list of names and values; `Members.insert` keeps such a list
sorted by name with each name once, and every object that is read from text is built
that way (`Members.lookup_insert` says what is found in it).

Equality (`==`) compares arrays and objects member by member.  It differs from identity
only in the sign of a zero.
-/

set_option autoImplicit false

namespace EnumBridge

/-- A JSON number. -/
inductive Number
  /-- An integer, exact. -/
  | integer (value : Int)
  /-- A number written with a fraction or an exponent, or one too large for an integer. -/
  | double (value : Double)
  deriving DecidableEq

/-- Integers are compared with integers and doubles with doubles. -/
instance : BEq Number where
  beq
    | .integer a, .integer b => decide (a = b)
    | .double a, .double b => a == b
    | _, _ => false

/-- A JSON value. -/
inductive Json
  | null
  | bool (value : Bool)
  | number (value : Number)
  | string (value : String)
  | array (items : List Json)
  | object (members : List (String × Json))

/-- The members of an object. -/
abbrev Members := List (String × Json)

namespace Json

mutual

/-- Whether two values are equal. -/
def eqv : Json → Json → Bool
  | .null, .null => true
  | .bool a, .bool b => a == b
  | .number a, .number b => a == b
  | .string a, .string b => a == b
  | .array a, .array b => itemsEqv a b
  | .object a, .object b => membersEqv a b
  | _, _ => false

/-- Whether two lists of values are equal item by item. -/
def itemsEqv : List Json → List Json → Bool
  | [], [] => true
  | a :: as, b :: bs => a.eqv b && itemsEqv as bs
  | _, _ => false

/-- Whether two lists of members are equal member by member. -/
def membersEqv : List (String × Json) → List (String × Json) → Bool
  | [], [] => true
  | (k, a) :: as, (l, b) :: bs => k == l && a.eqv b && membersEqv as bs
  | _, _ => false

end

instance : BEq Json := ⟨eqv⟩

instance : Inhabited Json := ⟨.null⟩

mutual

/-- How many containers are nested in a value. -/
def nesting : Json → Nat
  | .array items => itemsNesting items + 1
  | .object members => membersNesting members + 1
  | _ => 0

/-- How many containers are nested in one of some values. -/
def itemsNesting : List Json → Nat
  | [] => 0
  | item :: rest => max item.nesting (itemsNesting rest)

/-- How many containers are nested in one of some members. -/
def membersNesting : List (String × Json) → Nat
  | [] => 0
  | (_, value) :: rest => max value.nesting (membersNesting rest)

end

/-- Whether a value is null. -/
def isNull : Json → Bool
  | .null => true
  | _ => false

/-- The text of a string value. -/
def string? : Json → Option String
  | .string s => some s
  | _ => none

/-- The truth value of a boolean. -/
def bool? : Json → Option Bool
  | .bool b => some b
  | _ => none

/-- The items of an array. -/
def array? : Json → Option (List Json)
  | .array items => some items
  | _ => none

/-- The members of an object. -/
def object? : Json → Option Members
  | .object members => some members
  | _ => none

/-- The member of that name, if the value is an object that has one. -/
def member? (value : Json) (name : String) : Option Json :=
  value.object?.bind (List.lookup name)

end Json

namespace Members

/-- Puts a member where its name belongs in a list sorted by name; a member of the same
name is replaced. -/
def insert (name : String) (value : Json) : Members → Members
  | [] => [(name, value)]
  | (other, held) :: rest =>
    if name < other then (name, value) :: (other, held) :: rest
    else if name = other then (name, value) :: rest
    else (other, held) :: insert name value rest

/-- Changes the first member of that name, if there is one. -/
def modifyM {m : Type → Type} [Monad m] (name : String) (f : Json → m Json) :
    Members → m Members
  | [] => pure []
  | (other, held) :: rest =>
    if other = name then do
      let value ← f held
      pure ((other, value) :: rest)
    else do
      let rest ← modifyM name f rest
      pure ((other, held) :: rest)

/-- Sorts members by name; of several with one name the last is kept. -/
def ofList (members : List (String × Json)) : Members :=
  members.foldl (fun sorted member => insert member.1 member.2 sorted) []

/-- Behind an insertion the inserted name has the inserted value, and every other name what it
had. -/
theorem lookup_insert (name other : String) (value : Json) (members : Members) :
    (insert name value members).lookup other =
      if other = name then some value else members.lookup other := by
  induction members with
  | nil =>
    by_cases h : other = name
    · simp [insert, h]
    · have hb : (other == name) = false := by simp [h]
      simp [insert, List.lookup_cons, h, hb]
  | cons member rest ih =>
    obtain ⟨key, held⟩ := member
    unfold insert
    split
    · by_cases h : other = name
      · simp [h]
      · have hb : (other == name) = false := by simp [h]
        simp [List.lookup_cons, h, hb]
    · split
      · rename_i hk
        subst hk
        by_cases h : other = name
        · simp [h]
        · have hb : (other == name) = false := by simp [h]
          simp [List.lookup_cons, h, hb]
      · rename_i hk
        by_cases h : other = key
        · subst h
          have hne : other ≠ name := fun e => hk e.symm
          simp [hne]
        · have hb : (other == key) = false := by simp [h]
          simp only [List.lookup_cons, hb]
          exact ih

end Members

end EnumBridge
