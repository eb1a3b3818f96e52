import EnumBridge.Proofs.ResponseSite

/-!
# Fields that share a response key

Two fields of different names may share a response key if they are selected for objects of
different types.  Both stay in the field trees of the selections, and nothing there says for
which type a field was selected, so the bridge parses the value under the key along every one
of them that the object's type declares, one after the other (`lookup_parseFields`).

`namedValue_slot` says when that is only once: exactly if the object's type declares none of
the other names that are selected under the key.  It is not always so: a type may well declare
a field that is selected under the same key for another type (`catData_parsed_twice`).
-/

set_option autoImplicit false

namespace EnumBridge

namespace Bridge

variable (bridge : Bridge)

/-- The field trees along which the value under a response key is parsed, with the types of
their fields: those that the object's type declares. -/
def slotFields (types : FieldTable) (key : String) (nodes : List FieldNode) :
    List (TypeRef × FieldNode) :=
  nodes.filterMap fun node =>
    if node.label.responseKey = key then
      (types.lookup node.label.name).map fun type => (type, node)
    else none

/-- A value parsed along some fields, one after the other. -/
def parseSlot (fields : List (TypeRef × FieldNode)) (value : Json) : Attempt BridgeError Json :=
  fields.foldlM (fun value field => field.1.descend (bridge.namedValue field.2) value) value

/-- The value under a response key is parsed along the fields that have the key and that the type
declares. -/
theorem mem_slotFields {types : FieldTable} {key : String} {nodes : List FieldNode}
    {type : TypeRef} {node : FieldNode} :
    (type, node) ∈ slotFields types key nodes ↔
      node ∈ nodes ∧ node.label.responseKey = key ∧ types.lookup node.label.name = some type := by
  rw [slotFields, List.mem_filterMap]
  constructor
  · rintro ⟨other, hother, heq⟩
    split at heq
    · next hkey =>
      obtain ⟨found, hfound, hpair⟩ := Option.map_eq_some_iff.mp heq
      cases hpair
      exact ⟨hother, hkey, hfound⟩
    · cases heq
  · rintro ⟨hnode, hkey, htype⟩
    exact ⟨node, hnode, by rw [if_pos hkey, htype]; rfl⟩

/-- One field parses the value under its response key if its type is declared, and leaves all
others as they were. -/
theorem lookup_parseField {types : FieldTable} {node : FieldNode} {object result : Members}
    (h : (bridge.parseField types node object).outcome = .ok result) {key : String} {held : Json}
    (hheld : object.lookup key = some held) :
    ∃ new, result.lookup key = some new ∧
      (bridge.parseSlot (slotFields types key [node]) held).outcome = .ok new := by
  rw [parseField_eq] at h
  cases htype : types.lookup node.label.name with
  | none =>
    rw [htype] at h
    cases h
    refine ⟨held, hheld, ?_⟩
    simp [slotFields, htype, parseSlot]
  | some type =>
    simp only [htype] at h
    obtain ⟨new, hnew, hchange⟩ := Members.lookup_of_modifyM h hheld
    refine ⟨new, hnew, ?_⟩
    by_cases hkey : key = node.label.responseKey
    · rw [if_pos hkey] at hchange
      simp [slotFields, hkey, htype, parseSlot, hchange]
    · rw [if_neg hkey] at hchange
      simp [slotFields, Ne.symm hkey, parseSlot, hchange]

/-- **What is left under a response key** is what was there, parsed along the declared fields
of that key, one after the other. -/
theorem lookup_parseFields {types : FieldTable} {nodes : List FieldNode}
    {object result : Members} (h : (bridge.parseFields types nodes object).outcome = .ok result)
    {key : String} {held : Json} (hheld : object.lookup key = some held) :
    ∃ new, result.lookup key = some new ∧
      (bridge.parseSlot (slotFields types key nodes) held).outcome = .ok new := by
  induction nodes generalizing object held with
  | nil =>
    rw [parseFields] at h
    cases h
    exact ⟨held, hheld, rfl⟩
  | cons node rest ih =>
    rw [parseFields] at h
    obtain ⟨next, hnode, hrest⟩ := Attempt.outcome_bind_eq_ok.mp h
    obtain ⟨middle, hmiddle, hfirst⟩ := lookup_parseField bridge hnode hheld
    obtain ⟨new, hnew, hothers⟩ := ih hrest hmiddle
    refine ⟨new, hnew, ?_⟩
    have hsplit : slotFields types key (node :: rest) =
        slotFields types key [node] ++ slotFields types key rest :=
      List.filterMap_append (l := [node])
    rw [hsplit, parseSlot, List.foldlM_append, Attempt.outcome_bind_eq_ok]
    exact ⟨middle, hfirst, hothers⟩

/-- A declared field is the only one along which the value under its response key is parsed
exactly if no other name that is selected under the key is declared. -/
theorem slotFields_eq_singleton_iff {types : FieldTable} {nodes : List FieldNode}
    {node : FieldNode} {type : TypeRef}
    (hdistinct : (nodes.map fun node => node.label.identity).Nodup) (hnode : node ∈ nodes)
    (htype : types.lookup node.label.name = some type) :
    slotFields types node.label.responseKey nodes = [(type, node)] ↔
      ∀ other ∈ nodes, other.label.responseKey = node.label.responseKey →
        other.label.name ≠ node.label.name → types.lookup other.label.name = none := by
  constructor
  · intro hslot other hother hkey hname
    cases hdeclared : types.lookup other.label.name with
    | none => rfl
    | some found =>
      have hmem := mem_slotFields.mpr ⟨hother, hkey, hdeclared⟩
      rw [hslot, List.mem_singleton, Prod.mk.injEq] at hmem
      exact absurd (congrArg (fun node => node.label.name) hmem.2) hname
  · intro hothers
    obtain ⟨front, back, rfl⟩ := List.append_of_mem hnode
    rw [List.map_append, List.map_cons, List.nodup_append, List.nodup_cons] at hdistinct
    obtain ⟨-, ⟨hback, -⟩, hfront⟩ := hdistinct
    -- Before and behind the field all others of its key have another name, so none is declared.
    have hnone (part : List FieldNode) (hpart : ∀ other ∈ part,
        other ∈ front ++ node :: back ∧ other.label.identity ≠ node.label.identity) :
        slotFields types node.label.responseKey part = [] := by
      rw [slotFields, List.filterMap_eq_nil_iff]
      intro other hother
      obtain ⟨hmem, hne⟩ := hpart other hother
      split
      · next hkey =>
        have hname : other.label.name ≠ node.label.name := by
          intro hname
          exact hne (by rw [FieldLabel.identity, FieldLabel.identity, hkey, hname])
        rw [hothers other hmem hkey hname]
        rfl
      · rfl
    have hbefore := hnone front fun other hother => by
      refine ⟨by simp [hother], hfront _ (List.mem_map_of_mem hother) _ List.mem_cons_self⟩
    have hbehind := hnone back fun other hother => by
      refine ⟨by simp [hother], fun heq => hback ?_⟩
      rw [← heq]
      exact List.mem_map_of_mem hother
    rw [slotFields] at hbefore hbehind ⊢
    rw [List.filterMap_append, List.filterMap_cons, hbefore, hbehind, if_pos rfl, htype]
    rfl

/-- The bridge walks an object under an interface or a union along the fields of the type that
the object names. -/
theorem namedValue_eq_ok_iff {type : TypeDef} {typeName : String} {label : FieldLabel}
    {children : List FieldNode} {object result : Members} {fields : FieldTable}
    (hfind : bridge.schema.find? typeName = some type)
    (hfields : NamedFields bridge.schema type object fields) :
    (bridge.namedValue (.branch label children) typeName (.object object)).outcome =
        .ok (.object result) ↔
      (bridge.parseFields fields children object).outcome = .ok result := by
  have hpayload : PayloadFields bridge.schema type object fields := .named hfields
  have hcomposite := (composite?_eq_some bridge).mpr ⟨hfind, hpayload.isComposite⟩
  obtain ⟨found, hfound, hiff⟩ := payloadFields?_spec bridge type object
  rw [(hiff fields).mpr hpayload] at hfound
  simp only [namedValue, hcomposite, Attempt.outcome_bind, hfound, Except.bind,
    Attempt.outcome_map]
  cases (bridge.parseFields fields children object).outcome <;> simp [Except.map]

/-- Of the names that are selected under the response key of a field, an object's type declares
no other. -/
def DeclaresOnly (types : FieldTable) (fragments : Fragments) (selections : List Selection)
    (own : SelectedField) : Prop :=
  ∀ conditions other, Selects fragments selections conditions other →
    other.label.responseKey = own.label.responseKey → other.label.name ≠ own.label.name →
    types.lookup other.label.name = none

/-- The tree of a declared field is the only one along which the value under its response key is
parsed exactly if no other name that is selected under the key is declared. -/
theorem slotFields_iff_declaresOnly {fragments : Fragments} {selections : List Selection}
    {children : List FieldNode} (hchildren : Resolves fragments selections children)
    {node : FieldNode} (hnode : node ∈ children) {own : SelectedField}
    (hidentity : node.label.identity = own.identity) {types : FieldTable} {type : TypeRef}
    (htype : types.lookup own.label.name = some type) :
    slotFields types own.label.responseKey children = [(type, node)] ↔
      DeclaresOnly types fragments selections own := by
  have hkey : node.label.responseKey = own.label.responseKey := congrArg Prod.fst hidentity
  have hname : node.label.name = own.label.name := congrArg Prod.snd hidentity
  rw [← hkey, slotFields_eq_singleton_iff hchildren.identities_nodup hnode (hname ▸ htype),
    hname, hkey]
  constructor
  · intro hnone conditions other hother hshared hdiffers
    obtain ⟨-, -, tree, htree, hsame, -⟩ := hchildren.exists_node hother
    have htreeName : tree.label.name = other.label.name := congrArg Prod.snd hsame
    have htreeKey : tree.label.responseKey = other.label.responseKey := congrArg Prod.fst hsame
    rw [← htreeName]
    exact hnone tree htree (htreeKey.trans hshared) (htreeName ▸ hdiffers)
  · intro hnone tree htree hshared hdiffers
    obtain ⟨group, -, hgroup⟩ := hchildren.exists_group htree
    obtain ⟨hsame, conditions, hselected⟩ := hgroup group.first List.mem_cons_self
    have hfirstName : group.first.label.name = tree.label.name := congrArg Prod.snd hsame
    have hfirstKey : group.first.label.responseKey = tree.label.responseKey :=
      congrArg Prod.fst hsame
    rw [← hfirstName]
    exact hnone conditions group.first hselected (hfirstKey.trans hshared)
      (hfirstName ▸ hdiffers)

/-- A value that is parsed along one field is parsed once. -/
theorem outcome_parseSlot_singleton (type : TypeRef) (node : FieldNode) (value : Json) :
    (bridge.parseSlot [(type, node)] value).outcome =
      (type.descend (bridge.namedValue node) value).outcome := by
  rw [parseSlot, List.foldlM_cons, Attempt.outcome_bind]
  cases (type.descend (bridge.namedValue node) value).outcome <;> rfl

/-- **A value under a shared response key.**  Let an object under an interface or a union name
its type, and let `own` be a field that is selected for it and that its type declares.  What is
left under the response key of `own` is what was there, parsed along the declared fields of that
key.  That is `own` alone exactly if the type declares none of the other names that are selected
under the key; and then the value is parsed once, along the type of `own`. -/
theorem namedValue_slot {fragments : Fragments} {selections : List Selection}
    {children : List FieldNode} (hchildren : Resolves fragments selections children)
    {type : TypeDef} {typeName : String} (hfind : bridge.schema.find? typeName = some type)
    {object result : Members} {fields : FieldTable}
    (hfields : NamedFields bridge.schema type object fields) {label : FieldLabel}
    (hresult : (bridge.namedValue (.branch label children) typeName (.object object)).outcome =
      .ok (.object result))
    {conditions : List String} {own : SelectedField} {ownType : TypeRef} {held : Json}
    (hown : Selects fragments selections conditions own)
    (htype : fields.lookup own.label.name = some ownType)
    (hheld : object.lookup own.label.responseKey = some held) :
    ∃ node ∈ children, node.label.identity = own.identity ∧
      ∃ new, result.lookup own.label.responseKey = some new ∧
        (bridge.parseSlot (slotFields fields own.label.responseKey children) held).outcome =
          .ok new ∧
        (slotFields fields own.label.responseKey children = [(ownType, node)] ↔
          DeclaresOnly fields fragments selections own) ∧
        (DeclaresOnly fields fragments selections own →
          (ownType.descend (bridge.namedValue node) held).outcome = .ok new) := by
  obtain ⟨-, -, node, hnode, hidentity, -⟩ := hchildren.exists_node hown
  have hparsed := (namedValue_eq_ok_iff bridge hfind hfields).mp hresult
  obtain ⟨new, hnew, hslot⟩ := lookup_parseFields bridge hparsed hheld
  have honly := slotFields_iff_declaresOnly hchildren hnode hidentity htype
  refine ⟨node, hnode, hidentity, new, hnew, hslot, honly, fun hdeclares => ?_⟩
  rw [honly.mpr hdeclares, outcome_parseSlot_singleton] at hslot
  exact hslot

end Bridge

/-- Where two selected fields share a response key but not the name, each stands under a type
condition of its own: the two name different object types. -/
def SeparateConditions (schema : Schema) (fragments : Fragments) (selections : List Selection) :
    Prop :=
  ∀ firsts seconds first second, Selects fragments selections firsts first →
    Selects fragments selections seconds second →
    first.label.responseKey = second.label.responseKey → first.label.name ≠ second.label.name →
    ∃ a ∈ firsts, ∃ b ∈ seconds, a ≠ b ∧
      (schema.find? a).map TypeDef.kind = some .object ∧
      (schema.find? b).map TypeDef.kind = some .object

/-- Pets with coloured eyes, of which cats have coloured fur as well. -/
def colourSchema : Schema where
  roots := ⟨some "Query", none, none⟩
  types :=
    [("Query", ⟨"Query", .object [] [("pet", .named "Pet")]⟩),
      ("Pet", ⟨"Pet", .interface [] [("name", .named "String")]⟩),
      ("Cat", ⟨"Cat", .object ["Pet"] [("fur", .named "Colour"), ("eyes", .named "Colour")]⟩),
      ("Dog", ⟨"Dog", .object ["Pet"] [("eyes", .named "Colour")]⟩),
      ("Colour", ⟨"Colour", .enum ["BLACK", "WHITE"]⟩)]

/-- A bridge to a client to which black is white, and white black. -/
def colourBridge : Bridge where
  schema := colourSchema
  rules := .ofSettings
    [.valueTable "Colour" (.ofList [("WHITE", .string "BLACK"), ("BLACK", .string "WHITE")])]

/-- The selections `{ __typename ... on Cat { colour: fur } ... on Dog { colour: eyes } }`. -/
def colourSelections : List Selection :=
  [.field ⟨none, "__typename"⟩ [],
    .inlineFragment (some "Cat") [.field ⟨some "colour", "fur"⟩ []],
    .inlineFragment (some "Dog") [.field ⟨some "colour", "eyes"⟩ []]]

/-- The operation that selects these of a pet. -/
def colourOperation : Operation where
  kind := .query
  name := none
  variableDefinitions := []
  selections := [.field ⟨none, "pet"⟩ colourSelections]

/-- The fields that `colourSelections` selects. -/
def colourNodes : List FieldNode :=
  [.leaf ⟨none, "__typename"⟩, .leaf ⟨some "colour", "fur"⟩, .leaf ⟨some "colour", "eyes"⟩]

/-- A pet of some kind and colour. -/
def colourData (kind colour : String) : Members :=
  [("__typename", .string kind), ("colour", .string colour)]

/-- The fields that `colourSelections` selects, each with the conditions that it stands under. -/
def colourFields : List (List String × FieldLabel) :=
  [([], ⟨none, "__typename"⟩), (["Cat"], ⟨some "colour", "fur"⟩),
    (["Dog"], ⟨some "colour", "eyes"⟩)]

/-- A single field without anything below it selects itself, under no condition. -/
theorem selects_field {fragments : Fragments} {label : FieldLabel} {conditions : List String}
    {field : SelectedField} (h : Selects fragments [.field label []] conditions field) :
    conditions = [] ∧ field = ⟨label, []⟩ := by
  cases h with
  | field hmem =>
    simp only [List.mem_singleton, Selection.field.injEq] at hmem
    exact ⟨rfl, by rw [hmem.1, hmem.2]⟩
  | inlineFragment hmem _ => simp at hmem
  | spread hmem _ _ => simp at hmem

/-- No other fields are selected, and under no other conditions. -/
theorem mem_colourFields {conditions : List String} {field : SelectedField}
    (h : Selects [] colourSelections conditions field) :
    (conditions, field.label) ∈ colourFields := by
  cases h with
  | field hmem =>
    simp only [colourSelections, List.mem_cons, reduceCtorEq, Selection.field.injEq,
      List.not_mem_nil, or_false] at hmem
    simp [colourFields, hmem.1]
  | inlineFragment hmem h =>
    simp only [colourSelections, List.mem_cons, reduceCtorEq, Selection.inlineFragment.injEq,
      List.not_mem_nil, or_false, false_or] at hmem
    rcases hmem with ⟨rfl, rfl⟩ | ⟨rfl, rfl⟩
    · obtain ⟨rfl, rfl⟩ := selects_field h
      simp [colourFields]
    · obtain ⟨rfl, rfl⟩ := selects_field h
      simp [colourFields]
  | spread hmem hfragment _ => simp [Fragments.named?] at hfragment

/-- The fur and the eyes are selected under the same key, each for another object type. -/
theorem colourSelections_separate : SeparateConditions colourSchema [] colourSelections := by
  have hall : ∀ first ∈ colourFields, ∀ second ∈ colourFields,
      first.2.responseKey = second.2.responseKey → first.2.name ≠ second.2.name →
      ∃ a ∈ first.1, ∃ b ∈ second.1, a ≠ b ∧
        (colourSchema.find? a).map TypeDef.kind = some .object ∧
        (colourSchema.find? b).map TypeDef.kind = some .object := by
    decide
  intro firsts seconds first second hfirst hsecond
  exact hall _ (mem_colourFields hfirst) _ (mem_colourFields hsecond)

/-- The field that is selected under one of two conditions. -/
theorem selects_colour {kind name : String}
    (h : Selection.inlineFragment (some kind) [.field ⟨some "colour", name⟩ []] ∈
      colourSelections) :
    Selects [] colourSelections [kind] ⟨⟨some "colour", name⟩, []⟩ :=
  .inlineFragment h (.field List.mem_cons_self)

/-- The colour of a dog is parsed once, as that of its eyes, since dogs have no field `fur`. -/
theorem namedValue_slot_dog :
    Resolves [] colourSelections colourNodes ∧
      colourSchema.find? "Pet" = some ⟨"Pet", .interface [] [("name", .named "String")]⟩ ∧
      NamedFields colourSchema ⟨"Pet", .interface [] [("name", .named "String")]⟩
        (colourData "Dog" "BLACK") [("eyes", .named "Colour")] ∧
      (colourBridge.namedValue (.branch ⟨none, "pet"⟩ colourNodes) "Pet"
        (.object (colourData "Dog" "BLACK"))).outcome =
          .ok (.object (colourData "Dog" "WHITE")) ∧
      Selects [] colourSelections ["Dog"] ⟨⟨some "colour", "eyes"⟩, []⟩ ∧
      ∃ node ∈ colourNodes, node.label.identity = ("colour", "eyes") ∧
        ∃ new, List.lookup "colour" (colourData "Dog" "WHITE") = some new ∧
          (colourBridge.parseSlot (Bridge.slotFields [("eyes", .named "Colour")] "colour"
            colourNodes) (.string "BLACK")).outcome = .ok new ∧
          (Bridge.slotFields [("eyes", .named "Colour")] "colour" colourNodes =
              [(.named "Colour", node)] ↔
            Bridge.DeclaresOnly [("eyes", .named "Colour")] [] colourSelections
              ⟨⟨some "colour", "eyes"⟩, []⟩) ∧
          (Bridge.DeclaresOnly [("eyes", .named "Colour")] [] colourSelections
              ⟨⟨some "colour", "eyes"⟩, []⟩ →
            ((TypeRef.named "Colour").descend (colourBridge.namedValue node)
              (.string "BLACK")).outcome = .ok new) := by
  have hchildren : Resolves [] colourSelections colourNodes := resolves_of_flatten rfl
  have hfields : NamedFields colourSchema ⟨"Pet", .interface [] [("name", .named "String")]⟩
      (colourData "Dog" "BLACK") [("eyes", .named "Colour")] :=
    .mk rfl rfl (.implements rfl rfl (by decide)) rfl
  have hfind : colourSchema.find? "Pet" =
      some ⟨"Pet", .interface [] [("name", .named "String")]⟩ := rfl
  have hresult : (colourBridge.namedValue (.branch ⟨none, "pet"⟩ colourNodes) "Pet"
      (.object (colourData "Dog" "BLACK"))).outcome = .ok (.object (colourData "Dog" "WHITE")) :=
    rfl
  have hown : Selects [] colourSelections ["Dog"] ⟨⟨some "colour", "eyes"⟩, []⟩ :=
    selects_colour (by simp [colourSelections])
  exact ⟨hchildren, hfind, hfields, hresult, hown,
    colourBridge.namedValue_slot hchildren hfind hfields hresult hown rfl rfl⟩

/-- For a cat the bridge parses the colour twice: as that of its fur, and once more as that of
the eyes, which are selected for dogs, but which cats have as well. -/
theorem catData_parsed_twice :
    SeparateConditions colourSchema [] colourSelections ∧
      NamedFields colourSchema ⟨"Pet", .interface [] [("name", .named "String")]⟩
        (colourData "Cat" "BLACK") [("fur", .named "Colour"), ("eyes", .named "Colour")] ∧
      Selects [] colourSelections ["Cat"] ⟨⟨some "colour", "fur"⟩, []⟩ ∧
      ((TypeRef.named "Colour").descend
        (colourBridge.namedValue (.leaf ⟨some "colour", "fur"⟩)) (.string "BLACK")).outcome =
          .ok (.string "WHITE") ∧
      (colourBridge.parseOperationData ⟨[.operation colourOperation]⟩ colourOperation
        (.object [("pet", .object (colourData "Cat" "BLACK"))])).outcome =
          .ok (.object [("pet", .object (colourData "Cat" "BLACK"))]) :=
  ⟨colourSelections_separate, .mk rfl rfl (.implements rfl rfl (by decide)) rfl,
    selects_colour (by simp [colourSelections]), rfl, rfl⟩

end EnumBridge
