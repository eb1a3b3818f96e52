import EnumBridge.Proofs.SharedSlot
import EnumBridge.Proofs.VariableSite

/-!
# To the server and back

A variable is walked along the type of its definition, and the field of a response along the
type that the schema declares for it.  If both are lists of lists of one enum, equally deep,
both walks reach the same values (`outcome_descend`): those `Json.atDepth` below, wherever
non-null markers stand and whatever shape the value has.

The main statement is `round_trip`: if every value that is reached comes back from the server
as it was, so does the whole variable, in the data of a response as well.  Other fields of the
response do not matter, as `parseFields_of_slot` shows: what stands under one response key and
what stands under the others are converted independently of each other.
-/

set_option autoImplicit false

namespace EnumBridge

/-! ## Values below lists -/

/-- How many list markers stand around the name of a type. -/
def TypeRef.listLevels : TypeRef → Nat
  | .named _ => 0
  | .nonNull type => type.listLevels
  | .list item => item.listLevels + 1

namespace Json

/-- The values that stand a number of list levels below a value, in order.  Below a value that
is not an array stand none. -/
def atDepth : Nat → Json → List Json
  | 0, value => [value]
  | depth + 1, .array items => items.flatMap (atDepth depth)
  | _ + 1, _ => []

/-- Changes the values that stand a number of list levels below a value. -/
def changeAt {ε : Type} (change : Json → Except ε Json) : Nat → Json → Except ε Json
  | 0, value => change value
  | depth + 1, .array items => .array <$> items.mapM (changeAt change depth)
  | _ + 1, value => .ok value

/-- Null is the only value that is null. -/
theorem eq_null_of_isNull {value : Json} (h : value.isNull = true) : value = .null := by
  cases value <;> simp [isNull] at h ⊢

end Json

/-- Along a type those values are changed that stand below its list markers.  Non-null markers
make no difference. -/
theorem TypeRef.outcome_descend {ε : Type} (atNamed : String → Json → Attempt ε Json)
    (type : TypeRef) (value : Json) :
    (type.descend atNamed value).outcome =
      value.changeAt (fun held => (atNamed type.innermost held).outcome) type.listLevels := by
  induction type generalizing value with
  | named name => rfl
  | nonNull type ih =>
    rw [TypeRef.descend, ih]
    rfl
  | list item ih =>
    cases value with
    | array items =>
      rw [TypeRef.descend, Attempt.outcome_map, Attempt.outcome_mapM]
      simp only [ih, TypeRef.innermost, TypeRef.listLevels, Json.changeAt]
      rfl
    | _ => rfl

/-- The order in which two names get new values does not matter. -/
theorem Members.replace_comm {name other : String} (h : name ≠ other) (first second : Json)
    (members : Members) :
    replace name first (replace other second members) =
      replace other second (replace name first members) := by
  induction members with
  | nil => rfl
  | cons member rest ih =>
    obtain ⟨key, held⟩ := member
    by_cases hname : key = name
    · have hother : key ≠ other := fun heq => h (hname ▸ heq)
      simp [replace, hname, h]
    · by_cases hother : key = other
      · simp [replace, hother, h.symm]
      · simp [replace, hname, hother, ih]

/-- A list comes back as it was if all of its items do. -/
theorem mapM_round_trip {ε : Type} {there back : Json → Except ε Json} {items : List Json}
    (h : ∀ item ∈ items, ∃ sent, there item = .ok sent ∧ back sent = .ok item) :
    ∃ sent, items.mapM there = .ok sent ∧ sent.mapM back = .ok items := by
  induction items with
  | nil => exact ⟨[], rfl, rfl⟩
  | cons item rest ih =>
    rw [List.forall_mem_cons] at h
    obtain ⟨⟨first, hthere, hback⟩, hrest⟩ := h
    obtain ⟨others, htheres, hbacks⟩ := ih hrest
    refine ⟨first :: others, ?_, ?_⟩
    · rw [List.mapM_cons, hthere, htheres]
      rfl
    · rw [List.mapM_cons, hback, hbacks]
      rfl

/-- A value comes back as it was if everything does that stands at some depth below it. -/
theorem Json.changeAt_round_trip {ε : Type} {there back : Json → Except ε Json} {depth : Nat}
    {value : Json}
    (h : ∀ held ∈ value.atDepth depth, ∃ sent, there held = .ok sent ∧ back sent = .ok held) :
    ∃ sent, value.changeAt there depth = .ok sent ∧ sent.changeAt back depth = .ok value := by
  induction depth generalizing value with
  | zero => exact h value (by simp [Json.atDepth])
  | succ depth ih =>
    cases value with
    | array items =>
      have hitems : ∀ item ∈ items, ∃ sent,
          item.changeAt there depth = .ok sent ∧ sent.changeAt back depth = .ok item := by
        intro item hitem
        refine ih fun held hheld => h held ?_
        rw [Json.atDepth, List.mem_flatMap]
        exact ⟨item, hitem, hheld⟩
      obtain ⟨sent, hthere, hback⟩ := mapM_round_trip hitems
      refine ⟨.array sent, ?_, ?_⟩
      · rw [Json.changeAt, hthere]
        rfl
      · rw [Json.changeAt, hback]
        rfl
    | _ => exact ⟨_, rfl, rfl⟩

namespace Bridge

variable (bridge : Bridge)

/-! ## Enum values at the end of either walk -/

/-- A variable of an enum is converted by the name that the enum itself has. -/
theorem outcome_variableLeaf_of_hasEnum {name enumName : String}
    (henum : bridge.schema.HasEnum name enumName) (value : Json) :
    (bridge.variableLeaf name value).outcome =
      (bridge.convert enumName .toServer value).outcome := by
  have hfields : bridge.inputFields? name = none := by
    cases hsome : bridge.inputFields? name with
    | none => rfl
    | some fields =>
      obtain ⟨type, hfind, hbody⟩ := (inputFields?_eq_some bridge).mp hsome
      have hkind := henum.kind_eq hfind
      rw [TypeDef.kind, hbody] at hkind
      cases hkind
  unfold variableLeaf
  rw [hfields]
  cases value <;> exact outcome_inputLeaf_of_hasEnum bridge _ henum

/-- The value of a field of an enum is converted by the name that the enum itself has. -/
theorem outcome_namedValue_of_hasEnum {name enumName : String}
    (henum : bridge.schema.HasEnum name enumName) (node : FieldNode) (value : Json) :
    (bridge.namedValue node name value).outcome =
      (bridge.convert enumName .toClient value).outcome := by
  rw [namedValue_of_hasEnum bridge henum]
  cases hvalue : value.isNull with
  | false => exact outcome_outputLeaf_of_hasEnum bridge henum hvalue
  | true =>
    rw [Json.eq_null_of_isNull hvalue, outcome_convert_null]
    rfl

/-- The values of an enum come back as they were if the rules take them back, null among
them. -/
theorem convert_round_trip {enumName : String} {values : List Json}
    (h : ∀ value ∈ values, value.isNull = false →
      ∃ sent, bridge.rules.convert enumName .toServer value = .ok sent ∧
        bridge.rules.convert enumName .toClient sent = .ok value) :
    ∀ value ∈ values, ∃ sent, (bridge.convert enumName .toServer value).outcome = .ok sent ∧
      (bridge.convert enumName .toClient sent).outcome = .ok value := by
  intro value hvalue
  cases hnull : value.isNull with
  | true =>
    rw [Json.eq_null_of_isNull hnull]
    exact ⟨.null, outcome_convert_null bridge _ _, outcome_convert_null bridge _ _⟩
  | false =>
    obtain ⟨sent, hthere, hback⟩ := h value hvalue hnull
    refine ⟨sent, ?_, ?_⟩
    · rw [convert, Attempt.outcome_ofExcept, hthere]
      rfl
    · rw [convert, Attempt.outcome_ofExcept, hback]
      rfl

/-! ## One response key among others -/

/-- A field does not care what stands under other response keys than its own. -/
theorem outcome_parseField_replace (types : FieldTable) {node : FieldNode} {key : String}
    (hkey : node.label.responseKey ≠ key) (new : Json) (object : Members) :
    (bridge.parseField types node (Members.replace key new object)).outcome =
      (bridge.parseField types node object).outcome.map (Members.replace key new) := by
  rw [parseField_eq, parseField_eq]
  cases types.lookup node.label.name with
  | none => rfl
  | some type =>
    simp only [Members.outcome_modifyM, Members.lookup_replace_of_ne hkey]
    cases object.lookup node.label.responseKey with
    | none => rfl
    | some held =>
      simp only
      cases (type.descend (bridge.namedValue node) held).outcome with
      | error e => rfl
      | ok result => simp only [Except.map, Members.replace_comm hkey]

/-- Fields do not care what stands under other response keys than theirs. -/
theorem outcome_parseFields_replace (types : FieldTable) {nodes : List FieldNode} {key : String}
    (hkeys : ∀ node ∈ nodes, node.label.responseKey ≠ key) (new : Json) (object : Members) :
    (bridge.parseFields types nodes (Members.replace key new object)).outcome =
      (bridge.parseFields types nodes object).outcome.map (Members.replace key new) := by
  induction nodes generalizing object with
  | nil =>
    rw [parseFields, parseFields]
    rfl
  | cons node rest ih =>
    rw [List.forall_mem_cons] at hkeys
    rw [parseFields, parseFields, Attempt.outcome_bind, Attempt.outcome_bind,
      outcome_parseField_replace bridge types hkeys.1]
    cases (bridge.parseField types node object).outcome with
    | error e => rfl
    | ok next => exact ih hkeys.2 next

/-- The selected fields under other response keys. -/
def otherSlots (key : String) (nodes : List FieldNode) : List FieldNode :=
  nodes.filter fun node => node.label.responseKey ≠ key

/-- What stands under one response key is converted independently of the rest.  If it can be
converted, an object becomes what the fields under the other keys make of it, with the
converted value in its place; and it fails only if they do. -/
theorem parseFields_of_slot {types : FieldTable} {key : String} {nodes : List FieldNode}
    {object : Members} {held new : Json} (hheld : object.lookup key = some held)
    (hslot : (bridge.parseSlot (slotFields types key nodes) held).outcome = .ok new) :
    (bridge.parseFields types nodes object).outcome =
      (bridge.parseFields types (otherSlots key nodes) object).outcome.map
        (Members.replace key new) := by
  induction nodes generalizing object held with
  | nil =>
    have hsame : held = new := by simpa [slotFields, parseSlot] using hslot
    rw [otherSlots, List.filter_nil, parseFields]
    simp [Except.map, ← hsame, Members.replace_of_lookup hheld]
  | cons node rest ih =>
    rw [parseFields, Attempt.outcome_bind]
    by_cases hkey : node.label.responseKey = key
    -- A field of this key changes the value that is converted, a field of another key the rest.
    · have hothers : otherSlots key (node :: rest) = otherSlots key rest := by
        simp [otherSlots, hkey]
      rw [hothers, parseField_eq]
      cases htype : types.lookup node.label.name with
      | none =>
        have hfields : slotFields types key (node :: rest) = slotFields types key rest := by
          simp [slotFields, hkey, htype]
        rw [hfields] at hslot
        exact ih hheld hslot
      | some type =>
        have hfields : slotFields types key (node :: rest) =
            (type, node) :: slotFields types key rest := by
          simp [slotFields, hkey, htype]
        rw [hfields, parseSlot, List.foldlM_cons, Attempt.outcome_bind_eq_ok] at hslot
        obtain ⟨middle, hmiddle, hrest⟩ := hslot
        have hclear : ∀ other ∈ otherSlots key rest, other.label.responseKey ≠ key := by
          intro other hother
          simpa [otherSlots] using (List.mem_filter.mp hother).2
        have hreplaced := Members.lookup_replace_self hheld middle
        simp only [Members.outcome_modifyM, hkey, hheld, hmiddle, Except.map, Except.bind]
        rw [ih hreplaced hrest, outcome_parseFields_replace bridge types hclear]
        cases (bridge.parseFields types (otherSlots key rest) object).outcome with
        | error e => rfl
        | ok others => simp only [Except.map, Members.replace_replace]
    · have hothers : otherSlots key (node :: rest) = node :: otherSlots key rest := by
        simp [otherSlots, hkey]
      have hfields : slotFields types key (node :: rest) = slotFields types key rest := by
        simp [slotFields, hkey]
      have hnone : slotFields types key [node] = [] := by simp [slotFields, hkey]
      rw [hfields] at hslot
      rw [hothers, parseFields, Attempt.outcome_bind]
      cases hnode : (bridge.parseField types node object).outcome with
      | error e => rfl
      | ok next =>
        obtain ⟨kept, hkept, hparsed⟩ := lookup_parseField bridge hnode hheld
        rw [hnone] at hparsed
        cases hparsed
        exact ih hkept hslot

/-- What was sent to the server in place of a value comes back as that value where a response
holds it in a field of the declared type, if that is the only declared field under its response
key.  Whether the response can be converted is up to the other fields. -/
structure ComesBack (declared : TypeRef) (sent value : Json) : Prop where
  inObject : ∀ (types : FieldTable) (nodes : List FieldNode) (node : FieldNode)
    (object : Members), slotFields types node.label.responseKey nodes = [(declared, node)] →
    object.lookup node.label.responseKey = some sent →
    (bridge.parseFields types nodes object).outcome =
      (bridge.parseFields types (otherSlots node.label.responseKey nodes) object).outcome.map
        (Members.replace node.label.responseKey value)
  inData : ∀ (document : Document) (operationName : Option String) (operation : Operation)
    (fields : FieldTable) (nodes : List FieldNode) (node : FieldNode) (object : Members),
    document.operation? operationName = some operation →
    (bridge.schema.root? operation.kind).bind TypeDef.objectFields? = some fields →
    (flatten document.fragmentTable operation.selections).outcome = .ok nodes →
    slotFields fields node.label.responseKey nodes = [(declared, node)] →
    object.lookup node.label.responseKey = some sent →
    (bridge.parseData document operationName (.object object)).outcome =
      (bridge.parseFields fields (otherSlots node.label.responseKey nodes) object).outcome.map
        fun others => .object (Members.replace node.label.responseKey value others)

/-- What the walk along the declared type takes back to a value comes back as that value from a
response. -/
theorem comesBack_of_descend {declared : TypeRef} {sent value : Json}
    (h : ∀ node, (declared.descend (bridge.namedValue node) sent).outcome = .ok value) :
    bridge.ComesBack declared sent value := by
  have hobject (types : FieldTable) (nodes : List FieldNode) (node : FieldNode)
      (object : Members)
      (hslot : slotFields types node.label.responseKey nodes = [(declared, node)])
      (hheld : object.lookup node.label.responseKey = some sent) :
      (bridge.parseFields types nodes object).outcome =
        (bridge.parseFields types (otherSlots node.label.responseKey nodes) object).outcome.map
          (Members.replace node.label.responseKey value) := by
    refine parseFields_of_slot bridge hheld ?_
    rw [hslot, outcome_parseSlot_singleton]
    exact h node
  refine ⟨hobject, ?_⟩
  intro document operationName operation fields nodes node object hoperation hroot hnodes hslot
    hheld
  have hdata : (bridge.parseData document operationName (.object object)).outcome =
      (bridge.parseFields fields nodes object).outcome.map Json.object := by
    simp only [parseData, Json.isNull, hoperation, parseOperationData, hroot]
    simp [hnodes, Except.mapError, Except.bind]
  rw [hdata, hobject fields nodes node object hslot hheld]
  cases (bridge.parseFields fields (otherSlots node.label.responseKey nodes) object).outcome <;>
    rfl

/-- **Round trip.**  Let the type of a variable and the declared type of a field wrap the same
enum in equally many list markers, and let the rules take every value back to what it was that
stands at a place of the enum in the variable.  Then the variable can be converted, and what is
sent to the server comes back to the client as the variable was.  The rules are those for the name
that the enum itself has. -/
theorem round_trip {typeName enumName : String} (henum : bridge.schema.HasEnum typeName enumName)
    {type : Syntax.TypeExpr} {declared : TypeRef}
    (htype : (TypeRef.ofExpr type).innermost = typeName)
    (hdeclared : declared.innermost = typeName)
    (hlevels : declared.listLevels = (TypeRef.ofExpr type).listLevels) {value : Json}
    (hvalues : ∀ held ∈ value.atDepth (TypeRef.ofExpr type).listLevels, held.isNull = false →
      ∃ sent, bridge.rules.convert enumName .toServer held = .ok sent ∧
        bridge.rules.convert enumName .toClient sent = .ok held) :
    ∃ sent, (bridge.variableValue type value).outcome = .ok sent ∧
      bridge.ComesBack declared sent value := by
  have hleaves := convert_round_trip bridge hvalues
  obtain ⟨sent, hthere, hback⟩ := Json.changeAt_round_trip hleaves
  refine ⟨sent, ?_, comesBack_of_descend bridge fun node => ?_⟩
  · rw [variableValue_eq_descend, TypeRef.outcome_descend, htype, ← hthere]
    simp only [outcome_variableLeaf_of_hasEnum bridge henum]
  · rw [TypeRef.outcome_descend, hdeclared, hlevels, ← hback]
    simp only [outcome_namedValue_of_hasEnum bridge henum]

end Bridge

/-- The type `[[Colour]]!`. -/
def paletteFieldType : TypeRef := .nonNull (.list (.list (.named "Colour")))

/-- Palettes of colours, in rows. -/
def paletteSchema : Schema where
  roots := ⟨some "Query", none, none⟩
  types :=
    [("Query", ⟨"Query", .object [] [("palette", paletteFieldType)]⟩),
      ("Colour", ⟨"Colour", .enum ["BLACK", "WHITE"]⟩)]

/-- A bridge for palettes, to a client that writes colours in words. -/
def paletteBridge : Bridge where
  schema := paletteSchema
  rules := .ofSettings [.valueTable "Colour" (.ofList [("Black as night", .string "BLACK")])]

/-- The operation `{ palette }`. -/
def paletteOperation : Operation where
  kind := .query
  name := none
  variableDefinitions := []
  selections := [.field ⟨none, "palette"⟩ []]

/-- The type `[[Colour!]!]`. -/
def paletteType : Syntax.TypeExpr := .list (.nonNull (.list (.nonNull (.named "Colour"))))

/-- A palette with a row of two colours, an empty row, no row, and a colour in place of a
row. -/
def palette : Json :=
  .array [.array [.string "Black as night", .null, .string "WHITE"], .array [], .null,
    .string "Black as night"]

/-- Every colour of the palette is taken back by the rules to what it was. -/
theorem palette_colours : ∀ colour ∈ palette.atDepth (TypeRef.ofExpr paletteType).listLevels,
    colour.isNull = false →
      ∃ sent, paletteBridge.rules.convert "Colour" .toServer colour = .ok sent ∧
        paletteBridge.rules.convert "Colour" .toClient sent = .ok colour := by
  have hcolours : palette.atDepth (TypeRef.ofExpr paletteType).listLevels =
      [.string "Black as night", .null, .string "WHITE"] := rfl
  rw [hcolours]
  intro colour hcolour hnull
  simp only [List.mem_cons, List.not_mem_nil, or_false] at hcolour
  rcases hcolour with rfl | rfl | rfl
  · exact ⟨.string "BLACK", rfl, rfl⟩
  · cases hnull
  · exact ⟨.string "WHITE", rfl, rfl⟩

/-- A palette with rows of different lengths, nulls among them, comes back as it was sent. -/
theorem round_trip_palette :
    paletteSchema.HasEnum "Colour" "Colour" ∧
      (TypeRef.ofExpr paletteType).innermost = "Colour" ∧
      ∃ sent, (paletteBridge.variableValue paletteType palette).outcome = .ok sent ∧
        (paletteBridge.parseData ⟨[.operation paletteOperation]⟩ none
          (.object [("palette", sent)])).outcome = .ok (.object [("palette", palette)]) := by
  have henum : paletteSchema.HasEnum "Colour" "Colour" := ⟨_, rfl, rfl, rfl⟩
  have hlevels : paletteFieldType.listLevels = (TypeRef.ofExpr paletteType).listLevels := rfl
  obtain ⟨sent, hsent, hback⟩ :=
    paletteBridge.round_trip henum rfl rfl hlevels palette_colours
  refine ⟨henum, rfl, sent, hsent, ?_⟩
  exact hback.inData _ none paletteOperation _ _ (.leaf ⟨none, "palette"⟩) [("palette", sent)]
    rfl rfl rfl rfl rfl

end EnumBridge
