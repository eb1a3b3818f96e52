import EnumBridge.TypeRef

/-!
# Types as text

The text of a type is its innermost name, to which each marker adds characters: brackets on both
sides for a list, an exclamation mark behind for a type without null.  If no such character stands
in the name itself, the last character of a text tells which marker is the outermost
(`TypeRef.filter_getLast?_text`).

The main statement is `TypeRef.text_eq_text_iff`: types whose names hold no such character are
equal if their texts are.
-/

set_option autoImplicit false

namespace EnumBridge.TypeRef

/-- The characters that markers add to a text. -/
def marks : List Char := ['[', ']', '!']

/-- No character in the innermost name of a type is taken for a marker. -/
def PlainName (type : TypeRef) : Prop := ∀ c ∈ type.innermost.toList, c ∉ marks

instance (type : TypeRef) : Decidable type.PlainName :=
  List.decidableBAll _ _

/-- A list marker has no part in the name. -/
theorem plainName_list {item : TypeRef} : (list item).PlainName ↔ item.PlainName := Iff.rfl

/-- A non-null marker has no part in the name. -/
theorem plainName_nonNull {type : TypeRef} : (nonNull type).PlainName ↔ type.PlainName := Iff.rfl

/-- The character that the outermost marker of a type puts at the end of its text. -/
def lastMark? : TypeRef → Option Char
  | .named _ => none
  | .list _ => some ']'
  | .nonNull _ => some '!'

/-- The text of a list type is that of its items in brackets. -/
theorem toList_text_list (item : TypeRef) :
    (list item).text.toList = '[' :: (item.text.toList ++ [']']) := by
  simp [text]

/-- The text of a type without null is that of the type with an exclamation mark behind. -/
theorem toList_text_nonNull (type : TypeRef) :
    (nonNull type).text.toList = type.text.toList ++ ['!'] := by
  simp [text]

/-- List types have the same text if their items have. -/
theorem text_list_inj {item other : TypeRef} :
    (list item).text = (list other).text ↔ item.text = other.text := by
  rw [← String.toList_inj, toList_text_list, toList_text_list, List.cons_inj_right,
    List.append_left_inj, String.toList_inj]

/-- Types without null have the same text if the types have. -/
theorem text_nonNull_inj {type other : TypeRef} :
    (nonNull type).text = (nonNull other).text ↔ type.text = other.text := by
  rw [← String.toList_inj, toList_text_nonNull, toList_text_nonNull, List.append_left_inj,
    String.toList_inj]

variable {type other : TypeRef}

/-- A text ends in the character of the outermost marker, and in no such character if there is no
marker. -/
theorem filter_getLast?_text (h : type.PlainName) :
    type.text.toList.getLast?.filter (· ∈ marks) = type.lastMark? := by
  cases type with
  | named name =>
    refine Option.filter_eq_none_iff.mpr fun c hc => ?_
    simpa using h c (List.mem_of_getLast? hc)
  | list item =>
    rw [toList_text_list, ← List.cons_append, List.getLast?_concat]
    rfl
  | nonNull type =>
    rw [toList_text_nonNull, List.getLast?_concat]
    rfl

/-- Types with the same text have the same outermost marker. -/
theorem lastMark?_eq_of_text_eq (htype : type.PlainName) (hother : other.PlainName)
    (h : type.text = other.text) : type.lastMark? = other.lastMark? := by
  rw [← filter_getLast?_text htype, h, filter_getLast?_text hother]

/-- **The text of a type determines it.**  However lists and non-null types are nested in two types,
the types are equal if their texts are, provided that their names hold no mark. -/
theorem text_eq_text_iff (htype : type.PlainName) (hother : other.PlainName) :
    type.text = other.text ↔ type = other := by
  refine ⟨fun h => ?_, congrArg text⟩
  -- Where the outermost markers differ, so do the last characters.
  induction type generalizing other with
  | named name =>
    have hlast := lastMark?_eq_of_text_eq htype hother h
    cases other with
    | named other => exact congrArg named h
    | list _ => cases hlast
    | nonNull _ => cases hlast
  | list item ih =>
    have hlast := lastMark?_eq_of_text_eq htype hother h
    cases other with
    | named _ => cases hlast
    | list other =>
      exact congrArg list (ih htype (plainName_list.mp hother) (text_list_inj.mp h))
    | nonNull _ => cases hlast
  | nonNull type ih =>
    have hlast := lastMark?_eq_of_text_eq htype hother h
    cases other with
    | named _ => cases hlast
    | list _ => cases hlast
    | nonNull other =>
      exact congrArg nonNull (ih htype (plainName_nonNull.mp hother) (text_nonNull_inj.mp h))

/-- The same markers in another order, one of them twice in a row. -/
theorem text_eq_text_iff_fruits :
    let fruits : TypeRef := .list (.nonNull (.nonNull (.named "Fruit")))
    let others : TypeRef := .nonNull (.list (.nonNull (.named "Fruit")))
    fruits.PlainName ∧ others.PlainName ∧ fruits.text = "[Fruit!!]" ∧ others.text = "[Fruit!]!" ∧
      (fruits.text = others.text ↔ fruits = others) := by
  intro fruits others
  have hfruits : fruits.PlainName := by decide
  have hothers : others.PlainName := by decide
  exact ⟨hfruits, hothers, rfl, rfl, text_eq_text_iff hfruits hothers⟩

/-- A name that holds a mark is taken for a type with a marker. -/
example : (named "Fruit!").text = (nonNull (named "Fruit")).text := rfl

end EnumBridge.TypeRef
