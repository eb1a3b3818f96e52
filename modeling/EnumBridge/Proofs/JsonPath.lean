import EnumBridge.Json.Basic
import EnumBridge.Table

/-!
# Paths into JSON values

A `Path` leads from a value to a value inside it, one `Step` at a time: to the member of
a name or to the item at an index.  Of several members with one name a step leads to the
first, which is the one that a look-up finds.

`Json.below?` takes one step and `Json.replace` replaces the value that one step leads to.
`Json.put` replaces the value that a whole path leads to and keeps all others; a path that
leads nowhere changes nothing.
-/

set_option autoImplicit false

namespace EnumBridge

/-- One step from a value to a value that it contains. -/
inductive Step
  | member (name : String)
  | item (index : Nat)
  deriving DecidableEq

/-- The steps from a value to a value inside it. -/
abbrev Path := List Step

namespace Members

/-- Replaces the value of the first member of that name, if there is one. -/
def replace (name : String) (new : Json) : Members → Members
  | [] => []
  | (other, held) :: rest =>
    if other = name then (other, new) :: rest else (other, held) :: replace name new rest

/-- After a replacement the new value is found under its name, and under every other name
what was there before. -/
theorem lookup_replace (name other : String) (new : Json) (members : Members) :
    (replace name new members).lookup other =
      if other = name then (members.lookup name).map fun _ => new
      else members.lookup other := by
  induction members with
  | nil => simp [replace]
  | cons member rest ih =>
    obtain ⟨key, held⟩ := member
    by_cases hkey : key = name
    · subst hkey
      by_cases hother : other = key
      · simp [replace, hother]
      · simp [replace, hother, Table.lookup_cons_of_ne hother]
    · by_cases hother : other = key
      · subst hother
        simp [replace, hkey]
      · rw [replace, if_neg hkey, Table.lookup_cons_of_ne hother, Table.lookup_cons_of_ne hother,
          Table.lookup_cons_of_ne (Ne.symm hkey), ih]

/-- A replacement leaves the values under other names as they are. -/
theorem lookup_replace_of_ne {name other : String} (h : other ≠ name) (new : Json)
    (members : Members) : (replace name new members).lookup other = members.lookup other := by
  rw [lookup_replace, if_neg h]

/-- Where there was a value under a name, the new one is found there. -/
theorem lookup_replace_self {name : String} {held : Json} {members : Members}
    (h : members.lookup name = some held) (new : Json) :
    (replace name new members).lookup name = some new := by
  rw [lookup_replace, if_pos rfl, h]
  rfl

/-- Of two replacements under one name the second one counts. -/
theorem replace_replace (name : String) (first second : Json) (members : Members) :
    replace name second (replace name first members) = replace name second members := by
  induction members with
  | nil => rfl
  | cons member rest ih =>
    obtain ⟨key, held⟩ := member
    by_cases hkey : key = name
    · simp [replace, hkey]
    · simp [replace, hkey, ih]

/-- A member replaced by what it holds already is no change. -/
theorem replace_of_lookup {name : String} {held : Json} {members : Members}
    (h : members.lookup name = some held) : replace name held members = members := by
  induction members with
  | nil => rfl
  | cons member rest ih =>
    obtain ⟨key, value⟩ := member
    by_cases hkey : key = name
    · subst hkey
      simp only [List.lookup_cons_self, Option.some.injEq] at h
      simp [replace, h]
    · rw [Table.lookup_cons_of_ne (Ne.symm hkey)] at h
      rw [replace, if_neg hkey, ih h]

/-- A replacement passes over members of other names. -/
theorem replace_append_of_notMem {name : String} {front : Members}
    (h : name ∉ front.map Prod.fst) (new : Json) (members : Members) :
    replace name new (front ++ members) = front ++ replace name new members := by
  induction front with
  | nil => rfl
  | cons member rest ih =>
    simp only [List.map_cons, List.mem_cons, not_or] at h
    have hkey : ¬ member.1 = name := fun e => h.1 e.symm
    simp [replace, hkey, ih h.2]

/-- A look-up passes over members of other names. -/
theorem lookup_append_of_notMem {name : String} {front : Members}
    (h : name ∉ front.map Prod.fst) (members : Members) :
    (front ++ members).lookup name = members.lookup name := by
  induction front with
  | nil => rfl
  | cons member rest ih =>
    simp only [List.map_cons, List.mem_cons, not_or] at h
    rw [List.cons_append, Table.lookup_cons_of_ne h.1, ih h.2]

end Members

namespace Json

/-- The value that one step leads to. -/
def below? : Json → Step → Option Json
  | .object members, .member name => members.lookup name
  | .array items, .item index => items[index]?
  | _, _ => none

/-- Replaces the value that one step leads to; a step that leads nowhere changes nothing. -/
def replace : Json → Step → Json → Json
  | .object members, .member name, new => .object (Members.replace name new members)
  | .array items, .item index, new => .array (items.set index new)
  | value, _, _ => value

/-- Replaces the value that a path leads to; a path that leads nowhere changes nothing. -/
def put (new : Json) : Path → Json → Json
  | [], _ => new
  | step :: rest, value =>
    match value.below? step with
    | some inner => value.replace step (put new rest inner)
    | none => value

/-- Where a step leads to a value, it leads to the new one behind a replacement. -/
theorem below?_replace {value inner : Json} {step : Step} (h : value.below? step = some inner)
    (new : Json) : (value.replace step new).below? step = some new := by
  cases value <;> cases step <;> simp only [below?, replace, reduceCtorEq] at h ⊢
  case array.item items index =>
    obtain ⟨hlt, -⟩ := List.getElem?_eq_some_iff.mp h
    rw [List.getElem?_set_self hlt]
  case object.member members name => exact Members.lookup_replace_self h new

/-- Of two replacements at one step the second one counts. -/
theorem replace_replace (value : Json) (step : Step) (first second : Json) :
    (value.replace step first).replace step second = value.replace step second := by
  cases value <;> cases step <;> simp only [replace]
  case array.item items index => rw [List.set_set]
  case object.member members name => rw [Members.replace_replace]

/-- A value inside another replaced by itself is no change. -/
theorem replace_of_below? {value inner : Json} {step : Step}
    (h : value.below? step = some inner) : value.replace step inner = value := by
  cases value <;> cases step <;> simp only [below?, replace, reduceCtorEq] at h ⊢
  case array.item items index =>
    obtain ⟨hlt, rfl⟩ := List.getElem?_eq_some_iff.mp h
    rw [List.set_getElem_self]
  case object.member members name => rw [Members.replace_of_lookup h]

/-- To put a value below a step is to put it into the value that the step leads to. -/
theorem put_cons {value inner : Json} {step : Step} (h : value.below? step = some inner)
    (new : Json) (rest : Path) :
    put new (step :: rest) value = value.replace step (put new rest inner) := by
  simp [put, h]

end Json

end EnumBridge
