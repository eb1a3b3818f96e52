import EnumBridge.Bridge.Response
import EnumBridge.Proofs.EnumSite
import EnumBridge.Proofs.FlattenedTree
import Mathlib.Data.List.Nodup

/-!
# Where enum values stand in a response

`ObjectSite` says at which sites of an object enum values stand, given the fields of the
object's type and the fields that an operation selects: the way leads from a selected field
to the member under its response key, through list and non-null markers, and from an object
on to the fields of its type.  `ObjectOrder` is the order in which an operation selects them.

The main statement is `parseOperationData_converts_sites`: the data of a response comes back
with exactly the enum values at these sites converted, in this order, provided no two fields
of one selection set share a response key.
-/

set_option autoImplicit false

namespace EnumBridge

/-- An object type that may stand where an interface or a union is declared: it implements
the interface, or is a member of the union. -/
inductive PossibleType (type concrete : TypeDef) : Prop
  | implements {inherited interfaces : List String} {own fields : FieldTable}
      (htype : type.body = .interface inherited own)
      (hconcrete : concrete.body = .object interfaces fields)
      (h : type.name ∈ interfaces) : PossibleType type concrete
  | member {members interfaces : List String} {fields : FieldTable}
      (htype : type.body = .union members)
      (hconcrete : concrete.body = .object interfaces fields)
      (h : concrete.name ∈ members) : PossibleType type concrete

/-- The fields of the object type that an object names as its own under `__typename`, where
that type may stand. -/
inductive NamedFields (schema : Schema) (type : TypeDef) (object : Members)
    (fields : FieldTable) : Prop
  | mk {name : String} {concrete : TypeDef}
      (hname : object.lookup "__typename" = some (.string name))
      (hfind : schema.find? name = some concrete) (hpossible : PossibleType type concrete)
      (hfields : concrete.objectFields? = some fields) : NamedFields schema type object fields

/-- The fields that an object has where a type is declared: those of an object type itself;
under an interface or a union those of the type that the object names; and otherwise those of
the interface. -/
inductive PayloadFields (schema : Schema) (type : TypeDef) (object : Members) :
    FieldTable → Prop
  | object {interfaces : List String} {fields : FieldTable}
      (htype : type.body = .object interfaces fields) : PayloadFields schema type object fields
  | named {fields : FieldTable} (h : NamedFields schema type object fields) :
      PayloadFields schema type object fields
  | interface {inherited : List String} {own : FieldTable}
      (htype : type.body = .interface inherited own)
      (hnone : ∀ fields, ¬ NamedFields schema type object fields) :
      PayloadFields schema type object own

mutual

/-- A site of an enum value in an object, given the fields of its type and the selected
fields. -/
inductive ObjectSite (schema : Schema) :
    FieldTable → List FieldNode → Members → EnumSite → Prop
  | mk {types : FieldTable} {nodes : List FieldNode} {object : Members} {node : FieldNode}
      {type : TypeRef} {held : Json} {site : EnumSite} (hnode : node ∈ nodes)
      (htype : types.lookup node.label.name = some type)
      (hheld : object.lookup node.label.responseKey = some held)
      (h : FieldSite schema node type held site) :
      ObjectSite schema types nodes object (site.under (.member node.label.responseKey))

/-- A site of an enum value in the value of a selected field, given the type of the field. -/
inductive FieldSite (schema : Schema) : FieldNode → TypeRef → Json → EnumSite → Prop
  | nonNull {node : FieldNode} {type : TypeRef} {value : Json} {site : EnumSite}
      (h : FieldSite schema node type value site) : FieldSite schema node (.nonNull type) value site
  | item {node : FieldNode} {type : TypeRef} {items : List Json} {index : Nat} {item : Json}
      {site : EnumSite} (hitem : items[index]? = some item)
      (h : FieldSite schema node type item site) :
      FieldSite schema node (.list type) (.array items) (site.under (.item index))
  | enum {node : FieldNode} {typeName enumName : String} {value : Json}
      (henum : schema.HasEnum typeName enumName) (hvalue : value.isNull = false) :
      FieldSite schema node (.named typeName) value ⟨[], enumName, value⟩
  | object {label : FieldLabel} {children : List FieldNode} {name : String} {type : TypeDef}
      {object : Members} {fields : FieldTable} {site : EnumSite}
      (hfind : schema.find? name = some type) (hfields : PayloadFields schema type object fields)
      (h : ObjectSite schema fields children object site) :
      FieldSite schema (.branch label children) (.named name) (.object object) site

end

mutual

/-- The order of paths into an object: that in which its fields are selected. -/
inductive ObjectOrder : List FieldNode → Path → Path → Prop
  | fields {nodes : List FieldNode} {first second : FieldNode} {p q : Path}
      (h : [first, second].Sublist nodes) :
      ObjectOrder nodes (.member first.label.responseKey :: p)
        (.member second.label.responseKey :: q)
  | field {nodes : List FieldNode} {node : FieldNode} {p q : Path} (hnode : node ∈ nodes)
      (h : FieldOrder node p q) :
      ObjectOrder nodes (.member node.label.responseKey :: p)
        (.member node.label.responseKey :: q)

/-- The order of paths into the value of a selected field: items by their index, members in
the order in which their fields are selected. -/
inductive FieldOrder : FieldNode → Path → Path → Prop
  | items {node : FieldNode} {i j : Nat} {p q : Path} (h : i < j) :
      FieldOrder node (.item i :: p) (.item j :: q)
  | item {node : FieldNode} {i : Nat} {p q : Path} (h : FieldOrder node p q) :
      FieldOrder node (.item i :: p) (.item i :: q)
  | object {label : FieldLabel} {children : List FieldNode} {p q : Path}
      (h : ObjectOrder children p q) : FieldOrder (.branch label children) p q

end

/-- Items of an array come in the order of their indices. -/
theorem fieldOrder_itemOrder (node : FieldNode) : Bridge.ItemOrder (FieldOrder node) :=
  ⟨fun _ _ _ _ h => .items h, fun _ _ _ h => .item h⟩

/-- The order of an object's fields is one of their response keys. -/
theorem ObjectOrder.nameOrder {nodes : List FieldNode} {p q : Path} (h : ObjectOrder nodes p q) :
    NameOrder (nodes.map fun node => node.label.responseKey)
      (fun key p q => ∃ node ∈ nodes, node.label.responseKey = key ∧ FieldOrder node p q) p q := by
  cases h with
  | fields h =>
    have hkeys := h.map fun node : FieldNode => node.label.responseKey
    exact .names hkeys
  | field hnode h => exact .below ⟨_, hnode, rfl, h⟩

/-- There is no order of paths into an object that do not begin with a name. -/
theorem ObjectOrder.eq_member {nodes : List FieldNode} {p q : Path} (h : ObjectOrder nodes p q) :
    (∃ key rest, p = .member key :: rest) ∧ ∃ key rest, q = .member key :: rest := by
  cases h with
  | fields _ => exact ⟨⟨_, _, rfl⟩, _, _, rfl⟩
  | field _ _ => exact ⟨⟨_, _, rfl⟩, _, _, rfl⟩

/-- The order of paths into the value of a field does not go both ways, if the order of its
fields below does not. -/
theorem FieldOrder.asymm {node : FieldNode}
    (hbelow : ∀ children, node.children? = some children → ∀ p q, ObjectOrder children p q →
      ¬ ObjectOrder children q p) {p q : Path} (h : FieldOrder node p q) :
    ¬ FieldOrder node q p := by
  induction p generalizing q with
  | nil =>
    cases h with
    | object h => obtain ⟨⟨_, _, hnil⟩, -⟩ := h.eq_member; cases hnil
  | cons step rest ih =>
    intro h'
    cases h with
    | items hlt =>
      cases h' with
      | items hgt => omega
      | item _ => omega
      | object h' => obtain ⟨⟨_, _, hitem⟩, -⟩ := h'.eq_member; cases hitem
    | item h =>
      cases h' with
      | items hlt => omega
      | item h' => exact ih h h'
      | object h' => obtain ⟨⟨_, _, hitem⟩, -⟩ := h'.eq_member; cases hitem
    | object h =>
      cases h' with
      | object h' => exact hbelow _ rfl _ _ h h'
      | _ => obtain ⟨⟨_, _, hitem⟩, -⟩ := h.eq_member; cases hitem

/-- If response keys are distinct, the order of an object's fields does not go both ways. -/
theorem ObjectOrder.asymm {nodes : List FieldNode}
    (hkeys : DistinctBy FieldLabel.responseKey nodes) (p q : Path) (h : ObjectOrder nodes p q) :
    ¬ ObjectOrder nodes q p := by
  induction hkeys generalizing p q with
  | @mk nodes here below ih =>
    intro h'
    refine NameOrder.asymm here (fun key p q => ?_) h.nameOrder h'.nameOrder
    rintro ⟨node, hnode, rfl, hfirst⟩ ⟨other, hother, hkey, hsecond⟩
    rw [List.inj_on_of_nodup_map here hother hnode hkey] at hsecond
    exact hfirst.asymm (fun children hchildren => ih node hnode children hchildren) hsecond

/-- The sites under a type reference are those under its named type. -/
theorem typeSite_iff_fieldSite {schema : Schema} {node : FieldNode} {type : TypeRef}
    {value : Json} {site : EnumSite} :
    Bridge.TypeSite (fun name => FieldSite schema node (.named name)) type value site ↔
      FieldSite schema node type value site := by
  constructor
  · intro h
    induction h with
    | named h => exact h
    | nonNull _ ih => exact .nonNull ih
    | item hitem _ ih => exact .item hitem ih
  · intro h
    induction type generalizing value site with
    | named name => exact .named h
    | nonNull type ih =>
      cases h with
      | nonNull h => exact .nonNull (ih h)
    | list type ih =>
      cases h with
      | item hitem h => exact .item hitem (ih h)

/-! ## The fields of an object -/

/-- A string under `__typename` is what is found there. -/
theorem lookup_typename_iff {object : Members} {name : String} :
    (List.lookup "__typename" object).bind Json.string? = some name ↔
      object.lookup "__typename" = some (.string name) := by
  cases object.lookup "__typename" with
  | none => simp
  | some value => cases value <;> simp [Json.string?]

/-- The fields of an object type, if it belongs where an object stands. -/
def TypeDef.fieldsWhere? (belongs : TypeDef → List String → Bool) (concrete : TypeDef) :
    Option FieldTable :=
  match concrete.body with
  | .object interfaces fields => if belongs concrete interfaces then some fields else none
  | _ => none

/-- The fields of the type that an object names are looked up under that name, if the type belongs
there. -/
theorem outcome_namedFields? (bridge : Bridge) (belongs : TypeDef → List String → Bool)
    (object : Members) :
    (bridge.namedFields? belongs object).outcome =
      .ok (((List.lookup "__typename" object).bind Json.string?).bind fun name =>
        (bridge.schema.find? name).bind (TypeDef.fieldsWhere? belongs)) := by
  unfold Bridge.namedFields?
  cases (List.lookup "__typename" object).bind Json.string? with
  | none => rfl
  | some name =>
    cases hfind : bridge.schema.find? name with
    | none => simp [hfind]
    | some concrete =>
      cases hbody : concrete.body with
      | object interfaces fields =>
        cases hbelongs : belongs concrete interfaces <;>
          simp [hfind, hbody, hbelongs, TypeDef.fieldsWhere?, Except.map]
      | _ => simp [hfind, hbody, TypeDef.fieldsWhere?]

/-- Under an interface those object types belong that implement it. -/
theorem fieldsWhere?_interface {type concrete : TypeDef} {inherited : List String}
    {own fields : FieldTable} (htype : type.body = .interface inherited own) :
    concrete.fieldsWhere? (fun _ interfaces => interfaces.contains type.name) = some fields ↔
      PossibleType type concrete ∧ concrete.objectFields? = some fields := by
  unfold TypeDef.fieldsWhere? TypeDef.objectFields?
  constructor
  · intro h
    cases hbody : concrete.body <;> simp only [hbody, reduceCtorEq] at h ⊢
    case object interfaces others =>
      split at h
      · next hcontains =>
        exact ⟨.implements htype hbody (List.contains_iff_mem.mp hcontains), h⟩
      · cases h
  · rintro ⟨hpossible, hfields⟩
    cases hpossible with
    | @implements _ interfaces _ others _ hbody h =>
      simp only [hbody, List.contains_iff_mem.mpr h, if_true] at hfields ⊢
      exact hfields
    | member hunion => rw [htype] at hunion; cases hunion

/-- Under a union those object types belong that are its members. -/
theorem fieldsWhere?_union {type concrete : TypeDef} {members : List String}
    {fields : FieldTable} (htype : type.body = .union members) :
    concrete.fieldsWhere? (fun named _ => members.contains named.name) = some fields ↔
      PossibleType type concrete ∧ concrete.objectFields? = some fields := by
  unfold TypeDef.fieldsWhere? TypeDef.objectFields?
  constructor
  · intro h
    cases hbody : concrete.body <;> simp only [hbody, reduceCtorEq] at h ⊢
    case object interfaces others =>
      split at h
      · next hcontains =>
        exact ⟨.member htype hbody (List.contains_iff_mem.mp hcontains), h⟩
      · cases h
  · rintro ⟨hpossible, hfields⟩
    cases hpossible with
    | implements hinterface => rw [htype] at hinterface; cases hinterface
    | @member others interfaces _ hunion hbody h =>
      rw [htype] at hunion
      cases hunion
      simp only [hbody, List.contains_iff_mem.mpr h, if_true] at hfields ⊢
      exact hfields

/-- Under an abstract type the bridge finds the fields of the possible type that the object
names, and no others. -/
theorem namedFields?_spec (bridge : Bridge) {type : TypeDef}
    {belongs : TypeDef → List String → Bool} (object : Members)
    (hbelongs : ∀ concrete fields, TypeDef.fieldsWhere? belongs concrete = some fields ↔
      PossibleType type concrete ∧ concrete.objectFields? = some fields) :
    ∃ result, (bridge.namedFields? belongs object).outcome = .ok result ∧
      ∀ fields, result = some fields ↔ NamedFields bridge.schema type object fields := by
  refine ⟨_, outcome_namedFields? bridge belongs object, fun fields => ?_⟩
  rw [Option.bind_eq_some_iff]
  simp only [lookup_typename_iff]
  simp only [Option.bind_eq_some_iff, hbelongs]
  constructor
  · rintro ⟨name, hname, concrete, hfind, hpossible, hfields⟩
    exact .mk hname hfind hpossible hfields
  · rintro ⟨hname, hfind, hpossible, hfields⟩
    exact ⟨_, hname, _, hfind, hpossible, hfields⟩

/-- An object names its type under an interface or a union only. -/
theorem NamedFields.abstract {schema : Schema} {type : TypeDef} {object : Members}
    {fields : FieldTable} (h : NamedFields schema type object fields) :
    type.kind = .interface ∨ type.kind = .union := by
  cases h with
  | mk _ _ hpossible _ =>
    cases hpossible with
    | implements htype => exact Or.inl (by rw [TypeDef.kind, htype]; rfl)
    | member htype => exact Or.inr (by rw [TypeDef.kind, htype]; rfl)

/-- The fields that an object has, kind by kind of the type declared for it. -/
theorem payloadFields_iff {schema : Schema} {type : TypeDef} {object : Members}
    {fields : FieldTable} :
    PayloadFields schema type object fields ↔
      match type.body with
      | .object _ own => fields = own
      | .interface _ own => NamedFields schema type object fields ∨
          (∀ others, ¬ NamedFields schema type object others) ∧ fields = own
      | .union _ => NamedFields schema type object fields
      | _ => False := by
  constructor
  · intro h
    cases h with
    | object htype => simp only [htype]
    | named h =>
      have hkind := h.abstract
      cases htype : type.body <;> simp [TypeDef.kind, htype, TypeBody.kind] at hkind ⊢
      · exact Or.inl h
      · exact h
    | interface htype hnone =>
      simp only [htype]
      exact Or.inr ⟨hnone, trivial⟩
  · intro h
    cases htype : type.body <;> simp only [htype] at h
    case object interfaces own => exact h ▸ .object htype
    case interface inherited own =>
      rcases h with h | ⟨hnone, rfl⟩
      · exact .named h
      · exact .interface htype hnone
    case union members => exact .named h

/-- The bridge walks an object along the fields that it has. -/
theorem payloadFields?_spec (bridge : Bridge) (type : TypeDef) (object : Members) :
    ∃ result, (bridge.payloadFields? type object).outcome = .ok result ∧
      ∀ fields, result = some fields ↔ PayloadFields bridge.schema type object fields := by
  simp only [payloadFields_iff]
  unfold Bridge.payloadFields?
  cases htype : type.body with
  | object interfaces own => exact ⟨some own, rfl, fun fields => by simp [eq_comm]⟩
  | interface inherited own =>
    obtain ⟨result, hresult, hiff⟩ :=
      namedFields?_spec bridge object fun concrete fields => fieldsWhere?_interface htype
    refine ⟨result <|> some own, by rw [Attempt.outcome_bind, hresult]; rfl, fun fields => ?_⟩
    simp only [← hiff]
    cases result with
    | none => simp [eq_comm]
    | some found => simp
  | union members =>
    exact namedFields?_spec bridge object fun concrete fields => fieldsWhere?_union htype
  | _ => exact ⟨none, rfl, fun fields => by simp⟩

/-! ## The walk -/

namespace Bridge

variable (bridge : Bridge)

/-- A value of a named type under a selected field, converted. -/
def namedValue : FieldNode → String → Json → Attempt BridgeError Json
  | .leaf _, typeName, value => bridge.outputLeaf typeName value
  | .branch _ children, typeName, value =>
    match value, bridge.composite? typeName with
    | .object inner, some composite => do
      match ← bridge.payloadFields? composite inner with
      | some fields => .object <$> bridge.parseFields fields children inner
      | none => pure (.object inner)
    | _, _ => bridge.outputLeaf typeName value

/-- A selected field changes the value under its response key, if its type declares it. -/
theorem parseField_eq (types : FieldTable) (node : FieldNode) (object : Members) :
    bridge.parseField types node object =
      match types.lookup node.label.name with
      | none => pure object
      | some type =>
        Members.modifyM node.label.responseKey (type.descend (bridge.namedValue node)) object := by
  cases node with
  | leaf label => rw [parseField]; rfl
  | branch label children => rw [parseField]; rfl

/-- A value under the name of an enum is converted by the name that the enum itself has. -/
theorem outcome_outputLeaf_of_hasEnum {name enumName : String} {value : Json}
    (henum : bridge.schema.HasEnum name enumName) (hvalue : value.isNull = false) :
    (bridge.outputLeaf name value).outcome =
      (bridge.convert enumName .toClient value).outcome := by
  obtain ⟨type, hfind, hkind, rfl⟩ := henum
  simp [outputLeaf, hvalue, hfind, hkind]

/-- Null stays as it is, and so does a value under a name that is not that of an enum. -/
theorem outcome_outputLeaf_of_not {name : String} {value : Json}
    (h : ¬ (bridge.schema.IsEnum name ∧ value.isNull = false)) :
    (bridge.outputLeaf name value).outcome = .ok value := by
  unfold outputLeaf
  cases hvalue : value.isNull with
  | true => rfl
  | false =>
    cases hfind : bridge.schema.find? name with
    | none => simp [reportUnknownType, Except.map]
    | some type =>
      cases hkind : type.kind with
      | enum => exact absurd ⟨⟨type, hfind, hkind⟩, hvalue⟩ h
      | _ => simp [hkind]

/-- A value that is not walked any further is converted if it is an enum value. -/
theorem converts_outputLeaf {isSite : EnumSite → Prop} (before : Path → Path → Prop)
    {name : String} {value : Json}
    (hsite : ∀ site, isSite site ↔ EnumSite.LeafSite bridge.schema name value site) :
    bridge.Converts .toClient isSite before value (bridge.outputLeaf name value).outcome := by
  by_cases h : bridge.schema.IsEnum name ∧ value.isNull = false
  · obtain ⟨enumName, henum⟩ := Schema.exists_hasEnum_iff.mpr h.1
    rw [outcome_outputLeaf_of_hasEnum bridge henum h.2]
    exact converts_single before fun site =>
      (hsite site).trans (EnumSite.leafSite_iff henum h.2 site)
  · rw [outcome_outputLeaf_of_not bridge h]
    exact converts_none before
      (fun site hs => EnumSite.not_leafSite h site ((hsite site).mp hs)) value

end Bridge

/-- A site of an object is one under the first selected field, if its type declares that, or under
the others. -/
theorem objectSite_cons {schema : Schema} {types : FieldTable} {node : FieldNode}
    {rest : List FieldNode} {object : Members} {site : EnumSite} :
    ObjectSite schema types (node :: rest) object site ↔
      (∃ type, types.lookup node.label.name = some type ∧
        Bridge.SlotSite (FieldSite schema node type) object node.label.responseKey site) ∨
      ObjectSite schema types rest object site := by
  constructor
  · rintro ⟨hnode, htype, hheld, h⟩
    rcases List.mem_cons.mp hnode with rfl | hnode
    · exact Or.inl ⟨_, htype, .mk hheld h⟩
    · exact Or.inr (.mk hnode htype hheld h)
  · rintro (⟨type, htype, hheld, h⟩ | ⟨hnode, htype, hheld, h⟩)
    · exact .mk List.mem_cons_self htype hheld h
    · exact .mk (List.mem_cons_of_mem _ hnode) htype hheld h

/-- The order of some fields is part of the order of more. -/
theorem ObjectOrder.cons {node : FieldNode} {rest : List FieldNode} {p q : Path}
    (h : ObjectOrder rest p q) : ObjectOrder (node :: rest) p q := by
  cases h with
  | fields h => exact .fields (h.cons node)
  | field hnode h => exact .field (List.mem_cons_of_mem _ hnode) h

/-- The sites of a value at a named type that holds no object to walk: the value itself. -/
theorem fieldSite_named_iff {schema : Schema} {node : FieldNode} {name : String} {value : Json}
    (hobject : ∀ label children type inner fields, node = .branch label children →
      schema.find? name = some type → value = .object inner →
      ¬ PayloadFields schema type inner fields) (site : EnumSite) :
    FieldSite schema node (.named name) value site ↔
      EnumSite.LeafSite schema name value site := by
  constructor
  · intro h
    cases h with
    | enum henum hvalue => exact .mk henum hvalue
    | object hfind hfields h => exact absurd hfields (hobject _ _ _ _ _ rfl hfind rfl)
  · rintro ⟨henum, hvalue⟩
    exact .enum henum hvalue

/-- A type whose values have fields is composite. -/
theorem PayloadFields.isComposite {schema : Schema} {type : TypeDef} {object : Members}
    {fields : FieldTable} (h : PayloadFields schema type object fields) :
    Bridge.isComposite type = true := by
  rw [payloadFields_iff] at h
  unfold Bridge.isComposite TypeDef.kind
  cases htype : type.body <;> simp [htype, TypeBody.kind] at h ⊢

namespace Bridge

variable (bridge : Bridge)

/-- The composite type under a name is the type of the schema there, if it is composite. -/
theorem composite?_eq_some {name : String} {type : TypeDef} :
    bridge.composite? name = some type ↔
      bridge.schema.find? name = some type ∧ isComposite type = true := by
  simp [composite?, Option.filter_eq_some_iff]

/-- What is walked as a composite type is no enum. -/
theorem not_hasEnum_of_composite? {name enumName : String} {type : TypeDef}
    (h : bridge.composite? name = some type) : ¬ bridge.schema.HasEnum name enumName := by
  obtain ⟨hfind, hcomposite⟩ := (composite?_eq_some bridge).mp h
  intro henum
  simp [isComposite, henum.kind_eq hfind] at hcomposite

/-- The sites of an object at a composite type are those below the fields that it has. -/
theorem fieldSite_object_iff {name : String} {type : TypeDef} {label : FieldLabel}
    {children : List FieldNode} {object : Members} {site : EnumSite}
    (h : bridge.composite? name = some type) :
    FieldSite bridge.schema (.branch label children) (.named name) (.object object) site ↔
      ∃ fields, PayloadFields bridge.schema type object fields ∧
        ObjectSite bridge.schema fields children object site := by
  have hfind := ((composite?_eq_some bridge).mp h).1
  constructor
  · intro hsite
    cases hsite with
    | enum henum _ => exact absurd henum (not_hasEnum_of_composite? bridge h)
    | object hother hfields hbelow =>
      rw [hfind] at hother
      cases hother
      exact ⟨_, hfields, hbelow⟩
  · rintro ⟨fields, hfields, hbelow⟩
    exact .object hfind hfields hbelow

/-- A value at the name of an enum is not walked any further. -/
theorem namedValue_of_hasEnum {name enumName : String} (henum : bridge.schema.HasEnum name enumName)
    (node : FieldNode) (value : Json) :
    bridge.namedValue node name value = bridge.outputLeaf name value := by
  have hnone : bridge.composite? name = none := by
    cases hcomposite : bridge.composite? name with
    | none => rfl
    | some type => exact absurd henum (not_hasEnum_of_composite? bridge hcomposite)
  cases node with
  | leaf label => rfl
  | branch label children => cases value <;> simp only [namedValue, hnone]

mutual

/-- A value of a named type under a selected field comes back with its sites converted. -/
theorem converts_namedValue (node : FieldNode)
    (hkeys : ∀ children, node.children? = some children →
      DistinctBy FieldLabel.responseKey children)
    (name : String) (value : Json) :
    bridge.Converts .toClient (FieldSite bridge.schema node (.named name) value)
      (FieldOrder node) value (bridge.namedValue node name value).outcome := by
  cases node with
  | leaf label =>
    exact converts_outputLeaf bridge _ (fieldSite_named_iff fun _ _ _ _ _ hnode => nomatch hnode)
  | branch label children =>
    cases value with
    | object inner =>
      cases hcomposite : bridge.composite? name with
      | none =>
        simp only [namedValue, hcomposite]
        refine converts_outputLeaf bridge _ (fieldSite_named_iff ?_)
        rintro _ _ type _ fields - hfind ⟨⟩ hfields
        rw [(composite?_eq_some bridge).mpr ⟨hfind, hfields.isComposite⟩] at hcomposite
        cases hcomposite
      | some composite =>
        obtain ⟨result, hresult, hiff⟩ := payloadFields?_spec bridge composite inner
        -- The fields of the object may be those of a type that the object names.
        have hsite (site : EnumSite) :
            FieldSite bridge.schema (.branch label children) (.named name) (.object inner) site ↔
              ∃ fields, result = some fields ∧
                ObjectSite bridge.schema fields children inner site := by
          simp only [fieldSite_object_iff bridge hcomposite, hiff]
        simp only [namedValue, hcomposite, Attempt.outcome_bind, hresult]
        cases result with
        | none => exact converts_none _ (fun site h => by simp [hsite] at h) _
        | some fields =>
          have hslots := convertsSlots_parseFields children (hkeys children rfl) fields inner
          exact hslots.converts.congr (fun site => by simp [hsite]) (fun p q => .object)
    | _ =>
      exact converts_outputLeaf bridge _
        (fieldSite_named_iff fun _ _ _ _ _ _ _ hvalue => nomatch hvalue)

/-- The selected fields of an object come back with their sites converted. -/
theorem convertsSlots_parseFields (nodes : List FieldNode)
    (hkeys : DistinctBy FieldLabel.responseKey nodes) (types : FieldTable) (object : Members) :
    bridge.ConvertsSlots .toClient (ObjectSite bridge.schema types nodes object)
      (ObjectOrder nodes) (nodes.map fun node => node.label.responseKey) object
      (bridge.parseFields types nodes) := by
  cases nodes with
  | nil =>
    have hpure : bridge.parseFields types [] = pure := funext fun object => by rw [parseFields]
    rw [hpure]
    refine ConvertsSlots.nil fun site hsite => ?_
    cases hsite with
    | mk hnode => simp at hnode
  | cons node rest =>
    obtain ⟨hhere, hbelow⟩ := hkeys
    rw [List.map_cons, List.nodup_cons] at hhere
    have hnode : ∀ children, node.children? = some children →
        DistinctBy FieldLabel.responseKey children :=
      hbelow node List.mem_cons_self
    have hrest := convertsSlots_parseFields rest
      ⟨hhere.2, fun other hother => hbelow other (List.mem_cons_of_mem _ hother)⟩ types object
    cases htype : types.lookup node.label.name with
    | none =>
      -- A field that the type does not declare is passed over.
      have hskip : bridge.parseFields types (node :: rest) = bridge.parseFields types rest := by
        funext members
        rw [parseFields, parseField_eq, htype]
        rfl
      rw [hskip]
      refine hrest.congr (fun site => ?_) (fun p q => ObjectOrder.cons)
        (fun name => List.mem_cons_of_mem _)
      rw [objectSite_cons, htype]
      simp
    | some type =>
      have hstep : bridge.parseFields types (node :: rest) = fun members =>
          Members.modifyM node.label.responseKey (type.descend (bridge.namedValue node)) members
            >>= bridge.parseFields types rest := by
        funext members
        rw [parseFields, parseField_eq, htype]
      rw [hstep]
      have hslot : ∀ held, object.lookup node.label.responseKey = some held →
          bridge.Converts .toClient (FieldSite bridge.schema node type held) (FieldOrder node) held
            (type.descend (bridge.namedValue node) held).outcome := by
        intro held _
        have hdescend := converts_descend (fieldOrder_itemOrder node) (bridge.namedValue node)
          (converts_namedValue node hnode) type held
        exact hdescend.congr (fun site => typeSite_iff_fieldSite) (fun p q hpq => hpq)
      have horder (p q : Path) (hpq : ObjectOrder rest p q) : ObjectOrder (node :: rest) p q :=
        hpq.cons
      have hwiden := hrest.congr (fun site => Iff.rfl) horder (fun name hname => hname)
      refine (ConvertsSlots.cons hhere.1 hslot hwiden ?_ ?_).congr (fun site => ?_)
        (fun p q hpq => hpq) (fun name hname => hname)
      · exact fun p q hpq => .field List.mem_cons_self hpq
      · rintro p second ⟨hother, -, -, -⟩
        exact .fields (List.Sublist.cons_cons node (List.singleton_sublist.mpr hother))
      · rw [objectSite_cons, htype]
        simp

end

/-- Data is parsed by flattening the operation and walking the members along what comes out. -/
theorem parseData_eq {document : Document} {operationName : Option String}
    {operation : Operation} {root : TypeDef} {fields : FieldTable}
    (hoperation : document.operation? operationName = some operation)
    (hroot : bridge.schema.root? operation.kind = some root)
    (hfields : root.objectFields? = some fields) (members : Members) :
    bridge.parseData document operationName (.object members) =
      Attempt.mapError .flattening (flatten document.fragmentTable operation.selections) >>=
        fun nodes => Json.object <$> bridge.parseFields fields nodes members := by
  simp only [parseData, Json.isNull, hoperation, parseOperationData, hroot, Option.bind_some,
    hfields]
  rfl

/-- Data is left as it is where there is nothing to parse it by. -/
theorem parseData_eq_ok_or (document : Document) (operationName : Option String) (data : Json) :
    (bridge.parseData document operationName data).outcome = .ok data ∨
      ∃ operation root fields members, document.operation? operationName = some operation ∧
        bridge.schema.root? operation.kind = some root ∧ root.objectFields? = some fields ∧
        data = .object members := by
  unfold parseData
  split
  · exact Or.inl rfl
  · cases hoperation : document.operation? operationName with
    | none => exact Or.inl rfl
    | some operation =>
      simp only [parseOperationData]
      cases hstart : (bridge.schema.root? operation.kind).bind TypeDef.objectFields? with
      | none => exact Or.inl rfl
      | some fields =>
        obtain ⟨root, hroot, hfields⟩ := Option.bind_eq_some_iff.mp hstart
        cases data with
        | object members =>
          exact Or.inr ⟨operation, root, fields, members, rfl, hroot, hfields, rfl⟩
        | _ => exact Or.inl rfl

/-- **The data of a response.**  If no two fields of one selection set share a response key,
the sites of the data stand in one order only, that in which the operation selects them.  The
data comes back with the enum values at exactly these sites converted, or with the error of the
first of them that cannot be converted. -/
theorem parseOperationData_converts_sites (document : Document) (operation : Operation)
    {root : TypeDef} {fields : FieldTable} {nodes : List FieldNode} {members : Members}
    (hroot : bridge.schema.root? operation.kind = some root)
    (hfields : root.objectFields? = some fields)
    (hnodes : (flatten document.fragmentTable operation.selections).outcome = .ok nodes)
    (hkeys : DistinctBy FieldLabel.responseKey nodes) :
    ∃ sites,
      (∀ others, EnumSite.Enumerates (ObjectSite bridge.schema fields nodes members)
        (ObjectOrder nodes) others ↔ others = sites) ∧
      (bridge.parseOperationData document operation (.object members)).outcome =
        bridge.convertSites .toClient sites (.object members) := by
  have hwalk := (convertsSlots_parseFields bridge nodes hkeys fields members).converts
  obtain ⟨sites, henum, hresult⟩ := hwalk
  refine ⟨sites, henum.eq_iff (ObjectOrder.asymm hkeys), ?_⟩
  unfold parseOperationData
  simp only [hroot, Option.bind_some, hfields, Attempt.outcome_bind, Attempt.outcome_mapError,
    hnodes]
  exact hresult

end Bridge

/-- Pets of two kinds, of which cats have a coat of some colour. -/
def petSchema : Schema where
  roots := ⟨some "Query", none, none⟩
  types :=
    [("Query", ⟨"Query", .object [] [("pets", .list (.named "Pet"))]⟩),
      ("Pet", ⟨"Pet", .interface [] [("name", .named "String")]⟩),
      ("Cat", ⟨"Cat", .object ["Pet"]
        [("name", .named "String"), ("coat", .nonNull (.named "Colour"))]⟩),
      ("Dog", ⟨"Dog", .object ["Pet"] [("name", .named "String")]⟩),
      ("Colour", ⟨"Colour", .enum ["BLACK", "WHITE"]⟩)]

/-- A bridge for pets, to a client that writes colours in words. -/
def petBridge : Bridge where
  schema := petSchema
  rules := .ofSettings [.valueTable "Colour" (.ofList [("Black as night", .string "BLACK")])]

/-- The operation `{ all: pets { __typename ... on Cat { fur: coat } } }`. -/
def petOperation : Operation where
  kind := .query
  name := none
  variableDefinitions := []
  selections :=
    [.field ⟨some "all", "pets"⟩
      [.field ⟨none, "__typename"⟩ [],
        .inlineFragment (some "Cat") [.field ⟨some "fur", "coat"⟩ []]]]

/-- The fields that `petOperation` selects. -/
def petNodes : List FieldNode :=
  [.branch ⟨some "all", "pets"⟩ [.leaf ⟨none, "__typename"⟩, .leaf ⟨some "fur", "coat"⟩]]

/-- A cat, and a dog that claims to have a coat. -/
def petData : Members :=
  [("all", .array
    [.object [("__typename", .string "Cat"), ("fur", .string "BLACK")],
      .object [("__typename", .string "Dog"), ("fur", .string "BLACK")]])]

/-- No two fields of pets share a response key. -/
theorem petNodes_keys : DistinctBy FieldLabel.responseKey petNodes := by
  refine ⟨by decide, fun node hnode children hchildren => ?_⟩
  rw [petNodes, List.mem_singleton] at hnode
  subst hnode
  cases hchildren
  exact ⟨by decide, by simp [FieldNode.children?]⟩

/-- The data of pets has its enum values at one list of sites only, and these are converted. -/
theorem parseOperationData_converts_sites_pets :
    petBridge.schema.root? petOperation.kind =
        some ⟨"Query", .object [] [("pets", .list (.named "Pet"))]⟩ ∧
      (flatten (Document.fragmentTable ⟨[.operation petOperation]⟩)
        petOperation.selections).outcome = .ok petNodes ∧
      DistinctBy FieldLabel.responseKey petNodes ∧
      ∃ sites,
        (∀ others, EnumSite.Enumerates
          (ObjectSite petSchema [("pets", .list (.named "Pet"))] petNodes petData)
          (ObjectOrder petNodes) others ↔ others = sites) ∧
        (petBridge.parseOperationData ⟨[.operation petOperation]⟩ petOperation
          (.object petData)).outcome =
            petBridge.convertSites .toClient sites (.object petData) :=
  ⟨rfl, rfl, petNodes_keys,
    petBridge.parseOperationData_converts_sites ⟨[.operation petOperation]⟩ petOperation
      rfl rfl rfl petNodes_keys⟩

example :
    (petBridge.parseOperationData ⟨[.operation petOperation]⟩ petOperation
      (.object petData)).outcome =
        .ok (.object [("all", .array
          [.object [("__typename", .string "Cat"), ("fur", .string "Black as night")],
            .object [("__typename", .string "Dog"), ("fur", .string "BLACK")]])]) := by
  rfl

end EnumBridge
