import EnumBridge.Proofs.ResponseSite

/-!
# What parsing a response leaves alone

The data of a response may be changed where enum values are expected, and nowhere else.  This
holds whatever an operation selects, also if several fields share a response key: then one value
is walked again and again, and finds what the walk before made of it.

A place is named by the keys on the way to it, indices left out.  `EnumKeys` says which places may
change: those that selected fields lead to, one below the other, of which the last has an enum for
its type somewhere in the schema.  `AgreeOff` says that two values agree away from some places.  It
is transitive, so that walks may follow each other, and a value that has no place of change above
or below it is the same in both (`AgreeOff.at?_eq`).

The main statement is `parseData_frame`.
-/

set_option autoImplicit false

namespace EnumBridge

/-! ## Positions -/

/-- The name that a step leads to, if it leads into an object. -/
def Step.key? : Step → Option String
  | .member name => some name
  | .item _ => none

/-- The names on a path, indices left out. -/
def Path.keys (path : Path) : List String := path.filterMap Step.key?

/-- The names on a path are that of the first step, if it has one, and those of the rest. -/
theorem Path.keys_cons (step : Step) (rest : Path) :
    Path.keys (step :: rest) = step.key?.toList ++ rest.keys := by
  unfold Path.keys
  cases step <;> rfl

namespace Json

/-- The value that a path leads to. -/
def at? : Path → Json → Option Json
  | [], value => some value
  | step :: rest, value => (value.below? step).bind (at? rest)

/-- A value without what is inside it: of an object the names, of an array the length. -/
def surface : Json → Json
  | .array items => .array (items.map fun _ => .null)
  | .object members => .object (members.map fun member => (member.1, .null))
  | value => value

end Json

/-! ## Agreement -/

mutual

/-- Two values agree away from some places: elsewhere objects have the same names in the same
order, arrays the same length, and all other values are equal. -/
inductive AgreeOff : (List String → Prop) → Json → Json → Prop
  | place {places : List String → Prop} {value other : Json} (h : places []) :
      AgreeOff places value other
  | same {places : List String → Prop} {value : Json} : AgreeOff places value value
  | array {places : List String → Prop} {items others : List Json}
      (h : ItemsAgreeOff places items others) : AgreeOff places (.array items) (.array others)
  | object {places : List String → Prop} {members others : List (String × Json)}
      (h : MembersAgreeOff places members others) :
      AgreeOff places (.object members) (.object others)

/-- The items of two arrays agree one by one. -/
inductive ItemsAgreeOff : (List String → Prop) → List Json → List Json → Prop
  | nil {places : List String → Prop} : ItemsAgreeOff places [] []
  | cons {places : List String → Prop} {item other : Json} {items others : List Json}
      (h : AgreeOff places item other) (hrest : ItemsAgreeOff places items others) :
      ItemsAgreeOff places (item :: items) (other :: others)

/-- The members of two objects have the same names and agree one by one. -/
inductive MembersAgreeOff :
    (List String → Prop) → List (String × Json) → List (String × Json) → Prop
  | nil {places : List String → Prop} : MembersAgreeOff places [] []
  | cons {places : List String → Prop} {name : String} {held other : Json}
      {members others : List (String × Json)}
      (h : AgreeOff (fun keys => places (name :: keys)) held other)
      (hrest : MembersAgreeOff places members others) :
      MembersAgreeOff places ((name, held) :: members) ((name, other) :: others)

end

/-- Members agree with themselves, away from any places. -/
theorem MembersAgreeOff.same {places : List String → Prop} (members : Members) :
    MembersAgreeOff places members members := by
  induction members with
  | nil => exact .nil
  | cons member rest ih => exact .cons .same ih

mutual

/-- Agreement is kept by one change after the other: a place that a change spoils is a place, and
what it leaves alone the next one finds as it was. -/
theorem AgreeOff.trans {places : List String → Prop} {first second third : Json}
    (h : AgreeOff places first second) (h' : AgreeOff places second third) :
    AgreeOff places first third := by
  cases h with
  | place hplace => exact .place hplace
  | same => exact h'
  | array h =>
    cases h' with
    | place hplace => exact .place hplace
    | same => exact .array h
    | array h' => exact .array (ItemsAgreeOff.trans h h')
  | object h =>
    cases h' with
    | place hplace => exact .place hplace
    | same => exact .object h
    | object h' => exact .object (MembersAgreeOff.trans h h')

/-- Items that agree through two changes agree after both. -/
theorem ItemsAgreeOff.trans {places : List String → Prop} {first second third : List Json}
    (h : ItemsAgreeOff places first second) (h' : ItemsAgreeOff places second third) :
    ItemsAgreeOff places first third := by
  cases h with
  | nil => exact h'
  | cons h hrest =>
    cases h' with
    | cons h' hrest' => exact .cons (AgreeOff.trans h h') (ItemsAgreeOff.trans hrest hrest')

/-- Members that agree through two changes agree after both. -/
theorem MembersAgreeOff.trans {places : List String → Prop}
    {first second third : List (String × Json)} (h : MembersAgreeOff places first second)
    (h' : MembersAgreeOff places second third) : MembersAgreeOff places first third := by
  cases h with
  | nil => exact h'
  | cons h hrest =>
    cases h' with
    | cons h' hrest' => exact .cons (AgreeOff.trans h h') (MembersAgreeOff.trans hrest hrest')

end

mutual

/-- Where there are no places, agreement is equality. -/
theorem AgreeOff.eq {places : List String → Prop} (hnone : ∀ keys, ¬ places keys)
    {value other : Json} (h : AgreeOff places value other) : other = value := by
  cases h with
  | place hplace => exact absurd hplace (hnone [])
  | same => rfl
  | array h => rw [ItemsAgreeOff.eq hnone h]
  | object h => rw [MembersAgreeOff.eq hnone h]

/-- Where there are no places, items that agree are equal. -/
theorem ItemsAgreeOff.eq {places : List String → Prop} (hnone : ∀ keys, ¬ places keys)
    {items others : List Json} (h : ItemsAgreeOff places items others) : others = items := by
  cases h with
  | nil => rfl
  | cons h hrest => rw [AgreeOff.eq hnone h, ItemsAgreeOff.eq hnone hrest]

/-- Where there are no places, members that agree are equal. -/
theorem MembersAgreeOff.eq {places : List String → Prop} (hnone : ∀ keys, ¬ places keys)
    {members others : List (String × Json)} (h : MembersAgreeOff places members others) :
    others = members := by
  cases h with
  | nil => rfl
  | cons h hrest => rw [AgreeOff.eq (fun keys => hnone _) h, MembersAgreeOff.eq hnone hrest]

end

/-- Items that agree are equally many. -/
theorem ItemsAgreeOff.map_null {places : List String → Prop} {items others : List Json}
    (h : ItemsAgreeOff places items others) :
    others.map (fun _ => Json.null) = items.map fun _ => Json.null := by
  induction items generalizing others with
  | nil => cases h; rfl
  | cons item rest ih =>
    cases h with
    | cons _ hrest => rw [List.map_cons, List.map_cons, ih hrest]

/-- Members that agree have the same names in the same order. -/
theorem MembersAgreeOff.map_null {places : List String → Prop} {members others : Members}
    (h : MembersAgreeOff places members others) :
    others.map (fun member => (member.1, Json.null)) =
      members.map fun member => (member.1, Json.null) := by
  induction members generalizing others with
  | nil => cases h; rfl
  | cons member rest ih =>
    cases h with
    | cons _ hrest => rw [List.map_cons, List.map_cons, ih hrest]

/-- Two values that are found, or not found, together, and agree if they are. -/
inductive FoundAlike (places : List String → Prop) : Option Json → Option Json → Prop
  | none : FoundAlike places none none
  | some {value other : Json} (h : AgreeOff places value other) :
      FoundAlike places (some value) (some other)

/-- At an index both arrays have an item or neither has, and the two agree. -/
theorem ItemsAgreeOff.getElem? {places : List String → Prop} {items others : List Json}
    (h : ItemsAgreeOff places items others) (index : Nat) :
    FoundAlike places items[index]? others[index]? := by
  induction items generalizing others index with
  | nil => cases h; exact .none
  | cons item rest ih =>
    cases h with
    | cons hitem hrest =>
      cases index with
      | zero => exact .some hitem
      | succ index => exact ih hrest index

/-- Under a name both objects have a value or neither has, and the two agree. -/
theorem MembersAgreeOff.lookup {places : List String → Prop} {members others : Members}
    (h : MembersAgreeOff places members others) (name : String) :
    FoundAlike (fun keys => places (name :: keys)) (members.lookup name) (others.lookup name) := by
  induction members generalizing others with
  | nil => cases h; exact .none
  | cons member rest ih =>
    cases h with
    | @cons _ key held other _ others hheld hrest =>
      by_cases hkey : name = key
      · subst hkey
        rw [List.lookup_cons_self, List.lookup_cons_self]
        exact .some hheld
      · rw [Table.lookup_cons_of_ne hkey, Table.lookup_cons_of_ne hkey]
        exact ih hrest

/-- One step further in, values agree away from the places that the step leads towards. -/
theorem AgreeOff.below? {places : List String → Prop} {value other : Json}
    (h : AgreeOff places value other) (hplace : ¬ places []) (step : Step) :
    FoundAlike (fun keys => places (step.key?.toList ++ keys)) (value.below? step)
      (other.below? step) := by
  cases h with
  | place h => exact absurd h hplace
  | same =>
    cases value.below? step with
    | none => exact .none
    | some inner => exact .some .same
  | array h =>
    cases step with
    | member name => exact .none
    | item index => exact h.getElem? index
  | object h =>
    cases step with
    | member name => exact h.lookup name
    | item index => exact .none

/-- No place at or above a position: then it shows the same surface in both values. -/
theorem AgreeOff.surface_at? {places : List String → Prop} {value other : Json}
    (h : AgreeOff places value other) {path : Path}
    (hpath : ∀ keys, places keys → ¬ keys <+: path.keys) :
    (other.at? path).map Json.surface = (value.at? path).map Json.surface := by
  induction path generalizing places value other with
  | nil =>
    cases h with
    | place hplace => exact absurd List.prefix_rfl (hpath [] hplace)
    | same => rfl
    | array h => simp only [Json.at?, Option.map_some, Json.surface, h.map_null]
    | object h => simp only [Json.at?, Option.map_some, Json.surface, h.map_null]
  | cons step rest ih =>
    have hplace : ¬ places [] := fun hnil => hpath [] hnil List.nil_prefix
    have hrest : ∀ keys, places (step.key?.toList ++ keys) → ¬ keys <+: Path.keys rest := by
      intro keys hkeys hle
      apply hpath _ hkeys
      rw [Path.keys_cons]
      exact (List.prefix_append_right_inj _).mpr hle
    have hbelow := h.below? hplace step
    rw [Json.at?, Json.at?]
    generalize value.below? step = found at hbelow ⊢
    generalize other.below? step = found' at hbelow ⊢
    cases hbelow with
    | none => rfl
    | some hinner => exact ih hinner hrest

/-- No place at, above or below a position: then it holds the same in both values. -/
theorem AgreeOff.at?_eq {places : List String → Prop} {value other : Json}
    (h : AgreeOff places value other) {path : Path}
    (hpath : ∀ keys, places keys → ¬ keys <+: path.keys ∧ ¬ path.keys <+: keys) :
    other.at? path = value.at? path := by
  induction path generalizing places value other with
  | nil =>
    have hnone : ∀ keys, ¬ places keys := fun keys hkeys => (hpath keys hkeys).2 List.nil_prefix
    rw [h.eq hnone]
  | cons step rest ih =>
    have hplace : ¬ places [] := fun hnil => (hpath [] hnil).1 List.nil_prefix
    have hrest : ∀ keys, places (step.key?.toList ++ keys) →
        ¬ keys <+: Path.keys rest ∧ ¬ Path.keys rest <+: keys := by
      intro keys hkeys
      have houter := hpath _ hkeys
      rw [Path.keys_cons, List.prefix_append_right_inj, List.prefix_append_right_inj] at houter
      exact houter
    have hbelow := h.below? hplace step
    rw [Json.at?, Json.at?]
    generalize value.below? step = found at hbelow ⊢
    generalize other.below? step = found' at hbelow ⊢
    cases hbelow with
    | none => rfl
    | some hinner => exact ih hinner hrest

/-! ## Places where enum values are expected -/

/-- The fields of an object type or an interface. -/
def TypeDef.outputFields? (type : TypeDef) : Option FieldTable :=
  match type.body with
  | .object _ fields => some fields
  | .interface _ fields => some fields
  | _ => none

/-- The fields are those of an object type or an interface of the schema. -/
def Schema.HasOutputFields (schema : Schema) (fields : FieldTable) : Prop :=
  ∃ name type, schema.find? name = some type ∧ type.outputFields? = some fields

/-- Some type of the schema declares a field of that name whose type is an enum, under any list
and non-null markers. -/
def Schema.DeclaresEnum (schema : Schema) (fieldName : String) : Prop :=
  ∃ fields type, schema.HasOutputFields fields ∧ fields.lookup fieldName = some type ∧
    schema.IsEnum type.innermost

/-- Selected fields lead to these keys, one below the other, and the last of them is declared
with an enum somewhere. -/
def EnumKeys (schema : Schema) (nodes : List FieldNode) (keys : List String) : Prop :=
  ∃ above last, HasChain nodes (above ++ [last]) ∧ (above ++ [last]).map Prod.fst = keys ∧
    schema.DeclaresEnum last.2

/-- The field trees of the operation of that name; none if there is no such operation, or if its
fragments cannot be written out. -/
def Document.fieldTrees (document : Document) (operationName : Option String) :
    List FieldNode :=
  match document.operation? operationName with
  | none => []
  | some operation =>
    match (flatten document.fragmentTable operation.selections).outcome with
    | .ok nodes => nodes
    | .error _ => []

/-- The key of a selected field is a place, if the field is declared with an enum somewhere. -/
theorem EnumKeys.here {schema : Schema} {nodes : List FieldNode} {node : FieldNode}
    (hnode : node ∈ nodes) (henum : schema.DeclaresEnum node.label.name) :
    EnumKeys schema nodes [node.label.responseKey] :=
  ⟨[], node.label.identity, .cons hnode .nil, rfl, henum⟩

/-- A place of the fields below a selected field is one behind the key of that field. -/
theorem EnumKeys.below {schema : Schema} {nodes : List FieldNode} {node : FieldNode}
    {keys : List String} (hnode : node ∈ nodes) (h : EnumKeys schema node.children keys) :
    EnumKeys schema nodes (node.label.responseKey :: keys) := by
  obtain ⟨above, last, hchain, rfl, henum⟩ := h
  exact ⟨node.label.identity :: above, last, .cons hnode hchain, rfl, henum⟩

/-- The places of some fields are places of more fields. -/
theorem EnumKeys.tail {schema : Schema} {node : FieldNode} {rest : List FieldNode}
    {keys : List String} (h : EnumKeys schema rest keys) : EnumKeys schema (node :: rest) keys := by
  obtain ⟨above, last, hchain, hkeys, henum⟩ := h
  refine ⟨above, last, ?_, hkeys, henum⟩
  generalize above ++ [last] = chain at hchain
  cases hchain with
  | nil => exact .nil
  | cons hnode hrest => exact .cons (List.mem_cons_of_mem _ hnode) hrest

/-- The beginning of a chain is a chain. -/
theorem HasChain.of_append {nodes : List FieldNode} {front back : List (String × String)}
    (h : HasChain nodes (front ++ back)) : HasChain nodes front := by
  induction front generalizing nodes with
  | nil => exact .nil
  | cons identity rest ih =>
    cases h with
    | cons hnode hrest => exact .cons hnode (ih hrest)

/-- The keys on the way to a place are selected. -/
theorem EnumKeys.exists_hasChain {schema : Schema} {nodes : List FieldNode}
    {keys front : List String} (h : EnumKeys schema nodes keys) (hfront : front <+: keys) :
    ∃ chain, HasChain nodes chain ∧ chain.map Prod.fst = front := by
  obtain ⟨above, last, hchain, hkeys, -⟩ := h
  obtain ⟨back, hback⟩ := hfront
  rw [← hback, List.map_eq_append_iff] at hkeys
  obtain ⟨chain, others, hsplit, hfront, -⟩ := hkeys
  rw [hsplit] at hchain
  exact ⟨chain, hchain.of_append, hfront⟩

/-- The fields of an object type that the schema has are fields of the schema. -/
theorem Schema.hasOutputFields_of_object {schema : Schema} {name : String} {type : TypeDef}
    {fields : FieldTable} (hfind : schema.find? name = some type)
    (hfields : type.objectFields? = some fields) : schema.HasOutputFields fields := by
  refine ⟨name, type, hfind, ?_⟩
  unfold TypeDef.objectFields? at hfields
  unfold TypeDef.outputFields?
  split at hfields
  · next hbody => simpa [hbody] using hfields
  · cases hfields

/-- The fields that an object has are those of an object type or an interface of the schema. -/
theorem PayloadFields.hasOutputFields {schema : Schema} {name : String} {type : TypeDef}
    {object : Members} {fields : FieldTable} (hfind : schema.find? name = some type)
    (h : PayloadFields schema type object fields) : schema.HasOutputFields fields := by
  cases h with
  | object htype => exact ⟨name, type, hfind, by rw [TypeDef.outputFields?, htype]⟩
  | interface htype _ => exact ⟨name, type, hfind, by rw [TypeDef.outputFields?, htype]⟩
  | named h =>
    obtain ⟨-, hother, -, hfields⟩ := h
    exact Schema.hasOutputFields_of_object hother hfields

/-! ## The walk -/

/-- Items agree with what becomes of them, if each of them does. -/
theorem itemsAgreeOff_mapM {ε : Type} {places : List String → Prop}
    {f : Json → Attempt ε Json} {items news : List Json}
    (hitem : ∀ item new, (f item).outcome = .ok new → AgreeOff places item new)
    (h : (items.mapM f).outcome = .ok news) : ItemsAgreeOff places items news := by
  induction items generalizing news with
  | nil =>
    cases h
    exact .nil
  | cons item rest ih =>
    rw [List.mapM_cons] at h
    obtain ⟨new, hnew, hnext⟩ := Attempt.outcome_bind_eq_ok.mp h
    obtain ⟨others, hothers, hpure⟩ := Attempt.outcome_bind_eq_ok.mp hnext
    cases hpure
    exact .cons (hitem item new hnew) (ih hothers)

/-- Indices do not count, so the values under list markers share their places. -/
theorem agreeOff_descend {ε : Type} {places : List String → Prop}
    {f : String → Json → Attempt ε Json} {type : TypeRef}
    (hnamed : ∀ value new, (f type.innermost value).outcome = .ok new → AgreeOff places value new)
    {value new : Json} (h : (type.descend f value).outcome = .ok new) :
    AgreeOff places value new := by
  induction type generalizing value new with
  | named name => exact hnamed value new h
  | nonNull type ih => exact ih hnamed h
  | list type ih =>
    cases value with
    | array items =>
      rw [TypeRef.descend] at h
      obtain ⟨news, hnews, rfl⟩ := Attempt.outcome_map_eq_ok.mp h
      have hitem (item new : Json) (hnew : (type.descend f item).outcome = .ok new) :
          AgreeOff places item new := ih hnamed hnew
      exact .array (itemsAgreeOff_mapM hitem hnews)
    | _ =>
      cases h
      exact .same

/-- Members agree with what they are when the value under one name has been changed, if that value
does. -/
theorem membersAgreeOff_modifyM {ε : Type} {places : List String → Prop} {name : String}
    {f : Json → Attempt ε Json} {members result : Members}
    (hheld : ∀ held new, (f held).outcome = .ok new →
      AgreeOff (fun keys => places (name :: keys)) held new)
    (h : (Members.modifyM name f members).outcome = .ok result) :
    MembersAgreeOff places members result := by
  induction members generalizing result with
  | nil =>
    cases h
    exact .nil
  | cons member rest ih =>
    obtain ⟨key, held⟩ := member
    rw [Members.modifyM] at h
    split at h
    · next hkey =>
      subst hkey
      obtain ⟨new, hnew, hpure⟩ := Attempt.outcome_bind_eq_ok.mp h
      cases hpure
      exact .cons (hheld held new hnew) (.same rest)
    · obtain ⟨others, hothers, hpure⟩ := Attempt.outcome_bind_eq_ok.mp h
      cases hpure
      exact .cons .same (ih hothers)

namespace Bridge

variable (bridge : Bridge)

/-- A value that is not walked any further is changed at the place of an enum only. -/
theorem agreeOff_outputLeaf {places : List String → Prop} {typeName : String}
    (hplace : bridge.schema.IsEnum typeName → places []) {value new : Json}
    (h : (bridge.outputLeaf typeName value).outcome = .ok new) : AgreeOff places value new := by
  by_cases henum : bridge.schema.IsEnum typeName
  · exact .place (hplace henum)
  · rw [outcome_outputLeaf_of_not bridge (fun hboth => henum hboth.1)] at h
    cases h
    exact .same

mutual

/-- What is walked at a selected field is changed where the field is an enum itself, or at the
places of the fields below it. -/
theorem agreeOff_namedValue (node : FieldNode) {places : List String → Prop} {typeName : String}
    (hplace : bridge.schema.IsEnum typeName → places [])
    (hbelow : ∀ keys, EnumKeys bridge.schema node.children keys → places keys)
    {value new : Json} (h : (bridge.namedValue node typeName value).outcome = .ok new) :
    AgreeOff places value new := by
  cases node with
  | leaf label => exact agreeOff_outputLeaf bridge hplace h
  | branch label children =>
    cases value with
    | object inner =>
      cases hcomposite : bridge.composite? typeName with
      | none =>
        simp only [namedValue, hcomposite] at h
        exact agreeOff_outputLeaf bridge hplace h
      | some composite =>
        have hfind := ((composite?_eq_some bridge).mp hcomposite).1
        obtain ⟨result, hresult, hiff⟩ := payloadFields?_spec bridge composite inner
        simp only [namedValue, hcomposite] at h
        rw [Attempt.outcome_bind, hresult] at h
        cases result with
        | none =>
          cases h
          exact .same
        | some fields =>
          have hfields := ((hiff fields).mp rfl).hasOutputFields hfind
          obtain ⟨parsed, hparsed, rfl⟩ := Attempt.outcome_map_eq_ok.mp h
          exact .object (membersAgreeOff_parseFields children hfields hbelow hparsed)
    | _ => exact agreeOff_outputLeaf bridge hplace h

/-- Selected fields change an object at their places only. -/
theorem membersAgreeOff_parseFields (nodes : List FieldNode) {places : List String → Prop}
    {types : FieldTable} (htypes : bridge.schema.HasOutputFields types)
    (hplaces : ∀ keys, EnumKeys bridge.schema nodes keys → places keys)
    {object result : Members} (h : (bridge.parseFields types nodes object).outcome = .ok result) :
    MembersAgreeOff places object result := by
  cases nodes with
  | nil =>
    rw [parseFields] at h
    cases h
    exact .same object
  | cons node rest =>
    rw [parseFields] at h
    obtain ⟨middle, hmiddle, hrest⟩ := Attempt.outcome_bind_eq_ok.mp h
    have hbehind : MembersAgreeOff places middle result :=
      membersAgreeOff_parseFields rest htypes (fun keys hkeys => hplaces keys hkeys.tail) hrest
    -- The fields behind find what the first one left, which may be a value of another shape.
    refine MembersAgreeOff.trans ?_ hbehind
    rw [parseField_eq] at hmiddle
    cases htype : types.lookup node.label.name with
    | none =>
      rw [htype] at hmiddle
      cases hmiddle
      exact .same object
    | some type =>
      simp only [htype] at hmiddle
      have hnode : node ∈ node :: rest := List.mem_cons_self
      have hplace (henum : bridge.schema.IsEnum type.innermost) :
          places [node.label.responseKey] :=
        hplaces _ (.here hnode ⟨types, type, htypes, htype, henum⟩)
      have hinner (keys : List String) (hkeys : EnumKeys bridge.schema node.children keys) :
          places (node.label.responseKey :: keys) :=
        hplaces _ (.below hnode hkeys)
      refine membersAgreeOff_modifyM (fun held new hnew => ?_) hmiddle
      exact agreeOff_descend (fun value new hvalue =>
        agreeOff_namedValue node hplace hinner hvalue) hnew

end

/-- Data is changed at the places of the operation only. -/
theorem agreeOff_parseData {document : Document} {operationName : Option String} {data out : Json}
    (h : (bridge.parseData document operationName data).outcome = .ok out) :
    AgreeOff (EnumKeys bridge.schema (document.fieldTrees operationName)) data out := by
  rcases parseData_eq_ok_or bridge document operationName data with
    hsame | ⟨operation, root, fields, members, hoperation, hroot, hfields, rfl⟩
  · rw [hsame] at h
    cases h
    exact .same
  · rw [parseData_eq bridge hoperation hroot hfields] at h
    obtain ⟨nodes, hnodes, hparsed⟩ := Attempt.outcome_bind_eq_ok.mp h
    have hflatten := Attempt.outcome_mapError_eq_ok.mp hnodes
    have htrees : document.fieldTrees operationName = nodes := by
      simp only [Document.fieldTrees, hoperation, hflatten]
    obtain ⟨result, hresult, rfl⟩ := Attempt.outcome_map_eq_ok.mp hparsed
    obtain ⟨name, -, hfind⟩ := Option.bind_eq_some_iff.mp hroot
    rw [htrees]
    exact .object (membersAgreeOff_parseFields bridge nodes
      (Schema.hasOutputFields_of_object hfind hfields) (fun keys hkeys => hkeys) hresult)

/-- **Parsing changes enum values only.**  Let the data of a response be parsed, and call a place
the keys that selected fields lead to, one below the other, if the last of them is declared with
an enum somewhere in the schema.  At every position without a place at or above it the data keeps
its surface: an object its names, an array its length, any other value itself.  A position whose
keys nobody selects holds what it held, and so does every position without a place at, above or
below it.  If there are no places, the data comes back as it was. -/
theorem parseData_frame {document : Document} {operationName : Option String} {data out : Json}
    (h : (bridge.parseData document operationName data).outcome = .ok out) :
    let nodes := document.fieldTrees operationName
    let isPlace := EnumKeys bridge.schema nodes
    (∀ path : Path, (∀ keys, isPlace keys → ¬ keys <+: path.keys) →
      (out.at? path).map Json.surface = (data.at? path).map Json.surface ∧
      ((¬ ∃ chain, HasChain nodes chain ∧ chain.map Prod.fst = path.keys) →
        out.at? path = data.at? path) ∧
      ((∀ keys, isPlace keys → ¬ path.keys <+: keys) → out.at? path = data.at? path)) ∧
    ((∀ keys, ¬ isPlace keys) → out = data) := by
  intro nodes isPlace
  have hagree : AgreeOff isPlace data out := agreeOff_parseData bridge h
  refine ⟨fun path habove => ⟨hagree.surface_at? habove, fun hunselected => ?_, fun hbelow => ?_⟩,
    fun hnone => hagree.eq hnone⟩
  · refine hagree.at?_eq fun keys hkeys => ⟨habove keys hkeys, fun hle => ?_⟩
    exact hunselected (hkeys.exists_hasChain hle)
  · exact hagree.at?_eq fun keys hkeys => ⟨habove keys hkeys, hbelow keys hkeys⟩

end Bridge

/-- `petData` as it comes out of `petBridge`. -/
def petDataParsed : Members :=
  [("all", .array
    [.object [("__typename", .string "Cat"), ("fur", .string "Black as night")],
      .object [("__typename", .string "Dog"), ("fur", .string "BLACK")]])]

/-- Of the data of two pets the coat of the cat is changed, and the other names and values stay. -/
theorem parseData_frame_pets :
    (petBridge.parseData ⟨[.operation petOperation]⟩ none (.object petData)).outcome =
        .ok (.object petDataParsed) ∧
      let nodes := Document.fieldTrees ⟨[.operation petOperation]⟩ none
      let isPlace := EnumKeys petBridge.schema nodes
      (∀ path : Path, (∀ keys, isPlace keys → ¬ keys <+: path.keys) →
        ((Json.object petDataParsed).at? path).map Json.surface =
            ((Json.object petData).at? path).map Json.surface ∧
          ((¬ ∃ chain, HasChain nodes chain ∧ chain.map Prod.fst = path.keys) →
            (Json.object petDataParsed).at? path = (Json.object petData).at? path) ∧
          ((∀ keys, isPlace keys → ¬ path.keys <+: keys) →
            (Json.object petDataParsed).at? path = (Json.object petData).at? path)) ∧
      ((∀ keys, ¬ isPlace keys) → Json.object petDataParsed = Json.object petData) :=
  ⟨rfl, petBridge.parseData_frame rfl⟩

end EnumBridge
