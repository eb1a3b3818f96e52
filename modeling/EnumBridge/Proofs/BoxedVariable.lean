import EnumBridge.Proofs.VariableSite

/-!
# A value as a variable and as an input field

A value may be sent as a variable of a type, or in a field of that type of an input object.  The
walk over variables goes by the type as a document writes it and comes to null last, the walk over
input fields goes by the value, along the type that the schema made of the written one
(`TypeRef.ofExpr`), and looks at null first.  `inputValue_eq_descend` says what the difference comes
to: the walk over fields is the walk over variables, except that it neither looks up nor reports a
null at the named type.  Such a null stays null in either walk, so what becomes of a value is the
same (`outcome_inputValue`).

The main statement is `variableValue_boxed`: it makes no difference to a value whether it is sent
by itself or as the only field of an input object.
-/

set_option autoImplicit false

namespace EnumBridge

namespace Bridge

variable (bridge : Bridge)

/-- A value at the named type of an input field. -/
def fieldLeaf (typeName : String) (value : Json) : Attempt BridgeError Json :=
  if value.isNull then pure value else bridge.variableLeaf typeName value

/-- The walk over input fields is the walk over variables, but for null at the named type. -/
theorem inputValue_eq_descend (type : TypeRef) (value : Json) :
    bridge.inputValue type value = type.descend bridge.fieldLeaf value := by
  induction type generalizing value with
  | named name =>
    rw [TypeRef.descend, fieldLeaf]
    cases value with
    | null => rfl
    | object members =>
      rw [inputValue]
      simp only [TypeRef.shape, variableLeaf, Json.isNull]
      cases bridge.inputFields? name <;> rfl
    | _ => simp [inputValue, TypeRef.shape, variableLeaf, Json.isNull]
  | nonNull type ih =>
    rw [TypeRef.descend, ← ih]
    cases value <;> simp only [inputValue, TypeRef.shape]
  | list type ih =>
    have hitem : bridge.inputValue type = type.descend bridge.fieldLeaf := funext ih
    cases value with
    | array items =>
      simp only [inputValue, TypeRef.shape, TypeRef.descend, inputItems_eq_mapM, hitem]
    | _ => simp only [inputValue, TypeRef.shape, TypeRef.descend]

/-- Non-null markers around a named type make no difference to a variable. -/
theorem variableValue_of_shape {type : Syntax.TypeExpr} {name : String}
    (h : (TypeRef.ofExpr type).shape = .named name) (value : Json) :
    bridge.variableValue type value = bridge.variableLeaf name value := by
  induction type with
  | named other =>
    cases h
    rfl
  | list item _ => cases h
  | nonNull type ih => exact ih h

/-- An object with one declared field becomes one with what becomes of the field. -/
theorem outcome_variableLeaf_singleton {name key : String} {fields : FieldTable} {type : TypeRef}
    (hfields : bridge.inputFields? name = some fields) (htype : fields.lookup key = some type)
    (value : Json) :
    (bridge.variableLeaf name (.object [(key, value)])).outcome =
      (bridge.inputValue type value).outcome.map fun new => .object [(key, new)] := by
  simp only [variableLeaf, hfields, inputMembers, htype, Attempt.outcome_map, Attempt.outcome_bind,
    Attempt.outcome_pure]
  cases (bridge.inputValue type value).outcome <;> rfl

/-- **A variable is converted as a field is.**  Of a value of any type, null included, the walk
over variables and the walk over input fields make the same, be it a value or an error; they
differ only in what they report of null at the named type.  So if an input object has the value
as its only field, and the field is declared with that type, the object becomes one with what
becomes of the value by itself, and cannot be converted for the reason for which the value
cannot. -/
theorem variableValue_boxed (type : Syntax.TypeExpr) (value : Json) :
    (bridge.variableValue type value).outcome =
      (bridge.inputValue (.ofExpr type) value).outcome ∧
    bridge.inputValue (.ofExpr type) value =
      (TypeRef.ofExpr type).descend bridge.fieldLeaf value ∧
    ∀ (box : Syntax.TypeExpr) (boxName key : String) (fields : FieldTable),
      (TypeRef.ofExpr box).shape = .named boxName → bridge.inputFields? boxName = some fields →
      fields.lookup key = some (.ofExpr type) →
      (bridge.variableValue box (.object [(key, value)])).outcome =
        (bridge.variableValue type value).outcome.map fun new => .object [(key, new)] := by
  refine ⟨(bridge.outcome_inputValue type value).symm, bridge.inputValue_eq_descend _ value, ?_⟩
  intro box boxName key fields hbox hfields htype
  rw [variableValue_of_shape bridge hbox, outcome_variableLeaf_singleton bridge hfields htype,
    outcome_inputValue]

end Bridge

/-- The type `[Colour!]`. -/
def coatsType : Syntax.TypeExpr := .list (.nonNull (.named "Colour"))

/-- The fields of a filter. -/
def filterFields : FieldTable := [("coats", .ofExpr coatsType), ("not", .named "Filter")]

/-- Coats of a colour that the client writes in words, and of no colour. -/
def someCoats : Json := .array [.string "Black as night", .null]

/-- A list of coats with a null in it is converted alike by itself and as the only field of a
filter. -/
theorem variableValue_boxed_coats :
    (TypeRef.ofExpr (.nonNull (.named "Filter"))).shape = .named "Filter" ∧
      filterBridge.inputFields? "Filter" = some filterFields ∧
      filterFields.lookup "coats" = some (.ofExpr coatsType) ∧
      (filterBridge.variableValue coatsType someCoats).outcome =
        .ok (.array [.string "BLACK", .null]) ∧
      (filterBridge.variableValue (.nonNull (.named "Filter"))
        (.object [("coats", someCoats)])).outcome =
        .ok (.object [("coats", .array [.string "BLACK", .null])]) := by
  have hcoats : (filterBridge.variableValue coatsType someCoats).outcome =
      .ok (.array [.string "BLACK", .null]) := rfl
  have hboxed := (filterBridge.variableValue_boxed coatsType someCoats).2.2
    (.nonNull (.named "Filter")) "Filter" "coats" filterFields rfl rfl rfl
  rw [hcoats] at hboxed
  exact ⟨rfl, rfl, rfl, hcoats, hboxed⟩

end EnumBridge
