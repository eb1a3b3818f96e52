import EnumBridge.Proofs.FieldGroup
import EnumBridge.Proofs.Inlining

/-!
# The field trees of selections

`Resolves` says which field trees some selections have: the fields that they stand for are
put into groups, and each group is a tree, whose fields below are the trees of the selections
of the whole group.  A group is a leaf if none of its fields has selections.

Whatever `flatten` returns are the trees of its selections, and there are no others
(`flatten_resolves`).  The trees of one level differ in their identities, and lead to the
fields that are selected, through the same fields.
-/

set_option autoImplicit false

namespace EnumBridge

open SelectedField

mutual

/-- The field trees of some selections. -/
inductive Resolves (fragments : Fragments) : List Selection → List FieldNode → Prop
  | mk {selections : List Selection} {fields : List SelectedField} {nodes : List FieldNode}
      (hfields : Inlines fragments selections fields)
      (h : ResolvesAll fragments (groups fields) nodes) : Resolves fragments selections nodes

/-- The field trees of some groups of fields, in the order of the groups. -/
inductive ResolvesAll (fragments : Fragments) : List FieldGroup → List FieldNode → Prop
  | nil : ResolvesAll fragments [] []
  | cons {group : FieldGroup} {node : FieldNode} {rest : List FieldGroup}
      {nodes : List FieldNode} (hgroup : ResolvesGroup fragments group node)
      (hrest : ResolvesAll fragments rest nodes) :
      ResolvesAll fragments (group :: rest) (node :: nodes)

/-- The field tree of a group of fields. -/
inductive ResolvesGroup (fragments : Fragments) : FieldGroup → FieldNode → Prop
  | leaf {group : FieldGroup} (hempty : ∀ field ∈ group.fields, field.selections = []) :
      ResolvesGroup fragments group (.leaf group.first.label)
  | branch {group : FieldGroup} {children : List FieldNode}
      (hsome : ∃ field ∈ group.fields, field.selections ≠ [])
      (h : Resolves fragments group.selections children) :
      ResolvesGroup fragments group (.branch group.first.label children)

end

/-- Some field trees and the trees below them, as far down as there are any, differ from the
others of their level in what `key` says of their labels. -/
inductive DistinctBy {α : Type} (key : FieldLabel → α) : List FieldNode → Prop
  | mk {nodes : List FieldNode} (here : (nodes.map fun node => key node.label).Nodup)
      (below : ∀ node ∈ nodes, ∀ children, node.children? = some children →
        DistinctBy key children) : DistinctBy key nodes

/-- One field below the other is selected: the identities of the fields, outermost first. -/
inductive SelectsChain (fragments : Fragments) :
    List Selection → List (String × String) → Prop
  | nil {selections : List Selection} : SelectsChain fragments selections []
  | cons {selections : List Selection} {conditions : List String} {field : SelectedField}
      {rest : List (String × String)} (hfield : Selects fragments selections conditions field)
      (hrest : SelectsChain fragments field.selections rest) :
      SelectsChain fragments selections (field.identity :: rest)

/-- The trees below a node, if there are any. -/
def FieldNode.children (node : FieldNode) : List FieldNode := node.children?.getD []

/-- One tree below the other: the identities of their labels, outermost first. -/
inductive HasChain : List FieldNode → List (String × String) → Prop
  | nil {nodes : List FieldNode} : HasChain nodes []
  | cons {nodes : List FieldNode} {node : FieldNode} {rest : List (String × String)}
      (hnode : node ∈ nodes) (hrest : HasChain node.children rest) :
      HasChain nodes (node.label.identity :: rest)

section Distinct

variable {α : Type} {key : FieldLabel → α} {node : FieldNode} {nodes : List FieldNode}

/-- The trees of the outermost level differ. -/
theorem DistinctBy.nodup (h : DistinctBy key nodes) :
    (nodes.map fun node => key node.label).Nodup := by
  obtain ⟨hhere, -⟩ := h
  exact hhere

/-- The trees below any of the trees differ as well. -/
theorem DistinctBy.children (h : DistinctBy key nodes) (hnode : node ∈ nodes) :
    DistinctBy key node.children := by
  obtain ⟨-, hbelow⟩ := h
  cases node with
  | leaf label => exact ⟨List.nodup_nil, fun _ hnone => nomatch hnone⟩
  | branch label children => exact hbelow _ hnode children rfl

/-- The first tree differs from the others, and these differ. -/
theorem DistinctBy.of_cons (h : DistinctBy key (node :: nodes)) :
    (∀ other ∈ nodes, key other.label ≠ key node.label) ∧ DistinctBy key nodes := by
  obtain ⟨hhere, hbelow⟩ := h
  rw [List.map_cons, List.nodup_cons] at hhere
  refine ⟨fun other hother hsame => hhere.1 ?_, hhere.2,
    fun other hother => hbelow other (List.mem_cons_of_mem _ hother)⟩
  rw [← hsame]
  exact List.mem_map_of_mem hother

end Distinct

variable {fragments : Fragments}

/-! ## One result -/

mutual

/-- Selections have one list of trees only. -/
theorem Resolves.unique {selections : List Selection} {nodes others : List FieldNode}
    (h : Resolves fragments selections nodes)
    (h' : Resolves fragments selections others) : nodes = others := by
  cases h with
  | mk hfields h =>
    cases h' with
    | mk hothers h' =>
      rw [hothers.unique hfields] at h'
      exact ResolvesAll.unique h h'

/-- Groups have one list of trees only. -/
theorem ResolvesAll.unique {list : List FieldGroup} {nodes others : List FieldNode}
    (h : ResolvesAll fragments list nodes) (h' : ResolvesAll fragments list others) :
    nodes = others := by
  cases h with
  | nil =>
    cases h'
    rfl
  | cons hgroup hrest =>
    cases h' with
    | cons hgroup' hrest' =>
      rw [ResolvesGroup.unique hgroup hgroup', ResolvesAll.unique hrest hrest']

/-- A group has one tree only. -/
theorem ResolvesGroup.unique {group : FieldGroup} {node other : FieldNode}
    (h : ResolvesGroup fragments group node) (h' : ResolvesGroup fragments group other) :
    node = other := by
  cases h with
  | leaf hempty =>
    cases h' with
    | leaf _ => rfl
    | branch hsome _ =>
      obtain ⟨field, hfield, hselections⟩ := hsome
      exact absurd (hempty field hfield) hselections
  | branch hsome h =>
    cases h' with
    | leaf hempty =>
      obtain ⟨field, hfield, hselections⟩ := hsome
      exact absurd (hempty field hfield) hselections
    | branch _ h' => rw [Resolves.unique h h']

end

/-! ## Identities -/

/-- The tree of a group has the label of its first field. -/
theorem ResolvesGroup.label {group : FieldGroup} {node : FieldNode}
    (h : ResolvesGroup fragments group node) : node.label = group.first.label := by
  cases h <;> rfl

/-- The trees of some groups have the identities of these, in the same order. -/
theorem ResolvesAll.identities {list : List FieldGroup} {nodes : List FieldNode}
    (h : ResolvesAll fragments list nodes) :
    (nodes.map fun node => node.label.identity) = list.map FieldGroup.identity := by
  induction list generalizing nodes with
  | nil =>
    cases h
    rfl
  | cons group rest ih =>
    cases h with
    | cons hgroup hrest =>
      rw [List.map_cons, List.map_cons, ih hrest, hgroup.label]
      rfl

/-! ## Groups and their trees -/

/-- What is selected below a group is what is selected below one of its fields. -/
theorem FieldGroup.selects_iff (group : FieldGroup) {conditions : List String}
    {field : SelectedField} :
    Selects fragments group.selections conditions field ↔
      ∃ above ∈ group.fields, Selects fragments above.selections conditions field := by
  have hmem {selection : Selection} : selection ∈ group.selections ↔
      ∃ above ∈ group.fields, selection ∈ above.selections := List.mem_flatMap
  constructor
  · intro h
    cases h with
    | field hfield =>
      obtain ⟨above, habove, hfield⟩ := hmem.mp hfield
      exact ⟨above, habove, .field hfield⟩
    | inlineFragment hfragment h =>
      obtain ⟨above, habove, hfragment⟩ := hmem.mp hfragment
      exact ⟨above, habove, .inlineFragment hfragment h⟩
    | spread hspread hfragment h =>
      obtain ⟨above, habove, hspread⟩ := hmem.mp hspread
      exact ⟨above, habove, .spread hspread hfragment h⟩
  · rintro ⟨above, habove, h⟩
    cases h with
    | field hfield => exact .field (hmem.mpr ⟨above, habove, hfield⟩)
    | inlineFragment hfragment h => exact .inlineFragment (hmem.mpr ⟨above, habove, hfragment⟩) h
    | spread hspread hfragment h => exact .spread (hmem.mpr ⟨above, habove, hspread⟩) hfragment h

/-- What is selected below one field of a group is selected below the group. -/
theorem SelectsChain.of_field {group : FieldGroup} {field : SelectedField}
    {chain : List (String × String)} (h : SelectsChain fragments field.selections chain)
    (hfield : field ∈ group.fields) : SelectsChain fragments group.selections chain := by
  cases h with
  | nil => exact .nil
  | cons hinner hrest => exact .cons (group.selects_iff.mpr ⟨field, hfield, hinner⟩) hrest

/-- A chain below a group is below one of its fields. -/
theorem FieldGroup.exists_field (group : FieldGroup) {chain : List (String × String)}
    (h : SelectsChain fragments group.selections chain) :
    ∃ field ∈ group.fields, SelectsChain fragments field.selections chain := by
  cases h with
  | nil => exact ⟨group.first, List.mem_cons_self, .nil⟩
  | cons hinner hrest =>
    obtain ⟨field, hfield, hinner⟩ := group.selects_iff.mp hinner
    exact ⟨field, hfield, .cons hinner hrest⟩

/-- The trees below the tree of a group are those of its selections, if it has any. -/
theorem ResolvesGroup.children {group : FieldGroup} {node : FieldNode}
    (h : ResolvesGroup fragments group node) :
    Resolves fragments group.selections node.children := by
  cases h with
  | leaf hempty =>
    have hnone : group.selections = [] := List.flatMap_eq_nil_iff.mpr hempty
    rw [hnone]
    refine .mk .nil ?_
    rw [groups_nil]
    exact .nil
  | branch _ h => exact h

/-- Each group has its tree among the trees of all. -/
theorem ResolvesAll.exists_node {list : List FieldGroup} {nodes : List FieldNode}
    (h : ResolvesAll fragments list nodes) {group : FieldGroup} (hgroup : group ∈ list) :
    ∃ node ∈ nodes, ResolvesGroup fragments group node := by
  induction list generalizing nodes with
  | nil => simp at hgroup
  | cons first rest ih =>
    cases h with
    | cons hfirst hrest =>
      rcases List.mem_cons.mp hgroup with rfl | hgroup
      · exact ⟨_, List.mem_cons_self, hfirst⟩
      · obtain ⟨node, hnode, h⟩ := ih hrest hgroup
        exact ⟨node, List.mem_cons_of_mem _ hnode, h⟩

/-- Each tree is the tree of one of the groups. -/
theorem ResolvesAll.exists_group {list : List FieldGroup} {nodes : List FieldNode}
    (h : ResolvesAll fragments list nodes) {node : FieldNode} (hnode : node ∈ nodes) :
    ∃ group ∈ list, ResolvesGroup fragments group node := by
  induction list generalizing nodes with
  | nil =>
    cases h
    simp at hnode
  | cons first rest ih =>
    cases h with
    | cons hfirst hrest =>
      rcases List.mem_cons.mp hnode with rfl | hnode
      · exact ⟨_, List.mem_cons_self, hfirst⟩
      · obtain ⟨group, hgroup, h⟩ := ih hrest hnode
        exact ⟨group, List.mem_cons_of_mem _ hgroup, h⟩

/-- The trees of selections differ in their identities. -/
theorem Resolves.identities_nodup {selections : List Selection} {nodes : List FieldNode}
    (h : Resolves fragments selections nodes) :
    (nodes.map fun node => node.label.identity).Nodup := by
  cases h with
  | mk hfields h =>
    rw [h.identities]
    exact EnumBridge.identities_nodup _

/-- The tree that a selected field is in: that of the fields of its identity. -/
theorem Resolves.exists_node {selections : List Selection} {nodes : List FieldNode}
    (h : Resolves fragments selections nodes) {conditions : List String} {field : SelectedField}
    (hfield : Selects fragments selections conditions field) :
    ∃ group : FieldGroup, field ∈ group.fields ∧
      ∃ node ∈ nodes, node.label.identity = field.identity ∧ ResolvesGroup fragments group node := by
  cases h with
  | mk hfields h =>
    have hmem := (hfields.mem_iff field).mpr ⟨conditions, hfield⟩
    obtain ⟨group, hgroup, hin⟩ := exists_group hmem
    obtain ⟨node, hnode, hresolves⟩ := h.exists_node hgroup
    refine ⟨group, hin, node, hnode, ?_, hresolves⟩
    rw [fields_of_mem hgroup, mem_ofIdentity] at hin
    rw [hresolves.label, hin.2]
    rfl

/-- Every tree is that of selected fields, and its label is that of the first of them. -/
theorem Resolves.exists_group {selections : List Selection} {nodes : List FieldNode}
    (h : Resolves fragments selections nodes) {node : FieldNode} (hnode : node ∈ nodes) :
    ∃ group : FieldGroup, ResolvesGroup fragments group node ∧
      ∀ field ∈ group.fields, field.identity = node.label.identity ∧
        ∃ conditions, Selects fragments selections conditions field := by
  cases h with
  | mk hfields h =>
    obtain ⟨group, hgroup, hresolves⟩ := h.exists_group hnode
    refine ⟨group, hresolves, fun field hfield => ⟨?_, ?_⟩⟩
    · rw [fields_of_mem hgroup, mem_ofIdentity] at hfield
      rw [hresolves.label, hfield.2]
      rfl
    · exact (hfields.mem_iff field).mp (mem_of_mem_groups hgroup hfield)

/-- The trees below a node are smaller than the trees that the node is one of. -/
theorem FieldNode.sizeOf_lt {nodes children : List FieldNode} {node : FieldNode}
    (hnode : node ∈ nodes) (hchildren : node.children? = some children) :
    sizeOf children < sizeOf nodes := by
  have hlt := List.sizeOf_lt_of_mem hnode
  cases node with
  | leaf label => cases hchildren
  | branch label inner =>
    cases hchildren
    rw [FieldNode.branch.sizeOf_spec] at hlt
    omega

/-- The trees of selections differ in their identities, on every level. -/
theorem Resolves.distinct {selections : List Selection} {nodes : List FieldNode}
    (h : Resolves fragments selections nodes) : DistinctBy FieldLabel.identity nodes := by
  refine .mk h.identities_nodup fun node hnode children hchildren => ?_
  obtain ⟨group, hgroup, -⟩ := h.exists_group hnode
  have hsmaller := FieldNode.sizeOf_lt hnode hchildren
  have hbelow := hgroup.children
  rw [FieldNode.children, hchildren, Option.getD_some] at hbelow
  exact hbelow.distinct
termination_by sizeOf nodes

/-- No selected field is lost, on any level, and none is made up. -/
theorem Resolves.chain_iff {selections : List Selection} {nodes : List FieldNode}
    (h : Resolves fragments selections nodes) (chain : List (String × String)) :
    SelectsChain fragments selections chain ↔ HasChain nodes chain := by
  induction chain generalizing selections nodes with
  | nil => exact ⟨fun _ => .nil, fun _ => .nil⟩
  | cons identity rest ih =>
    constructor
    · intro hchain
      cases hchain with
      | cons hfield hrest =>
        obtain ⟨group, hin, node, hnode, hidentity, hgroup⟩ := h.exists_node hfield
        rw [← hidentity]
        exact .cons hnode ((ih hgroup.children).mp (hrest.of_field hin))
    · intro hchain
      cases hchain with
      | cons hnode hrest =>
        obtain ⟨group, hgroup, hfields⟩ := h.exists_group hnode
        have hbelow := (ih hgroup.children).mpr hrest
        obtain ⟨field, hin, hrest⟩ := group.exists_field hbelow
        obtain ⟨hidentity, conditions, hfield⟩ := hfields field hin
        rw [← hidentity]
        exact .cons hfield hrest

/-! ## Levels -/

namespace Flatten

/-- If what is below every field is flattened to its trees, so are merged groups. -/
theorem resolvesAll_of_nodes
    {below : Nat → List Selection → Attempt FlattenError (List FieldNode × Nat)}
    (hbelow : ∀ budget selections children left,
      (below budget selections).outcome = .ok (children, left) →
        Resolves fragments selections children)
    {list : List FieldGroup} {budget left : Nat} {trees : List FieldNode}
    (h : (nodes below budget (list.map FieldGroup.merged)).outcome = .ok (trees, left)) :
    ResolvesAll fragments list trees := by
  induction list generalizing budget trees with
  | nil =>
    cases h
    exact .nil
  | cons group rest ih =>
    rw [List.map_cons, nodes] at h
    split at h
    · next hempty =>
      obtain ⟨⟨others, spent⟩, hothers, hpure⟩ := Attempt.outcome_bind_eq_ok.mp h
      cases hpure
      exact .cons (.leaf (group.selections_isEmpty_iff.mp hempty)) (ih hothers)
    · next hsome =>
      obtain ⟨⟨children, spent⟩, hchildren, hnext⟩ := Attempt.outcome_bind_eq_ok.mp h
      obtain ⟨⟨others, last⟩, hothers, hpure⟩ := Attempt.outcome_bind_eq_ok.mp hnext
      cases hpure
      refine .cons (.branch ?_ (hbelow _ _ _ _ hchildren)) (ih hothers)
      simpa [FieldGroup.merged, group.selections_isEmpty_iff] using hsome

/-- **A level is flattened to the trees of its selections.** -/
theorem resolves_of_level {depth budget left : Nat} {selections : List Selection}
    {trees : List FieldNode}
    (h : (level fragments depth budget selections).outcome = .ok (trees, left)) :
    Resolves fragments selections trees := by
  induction depth generalizing budget left selections trees with
  | zero => cases h
  | succ depth ih =>
    obtain ⟨⟨fields, spent⟩, hcollect, hnodes⟩ := Attempt.outcome_bind_eq_ok.mp h
    simp only [mergeFields_eq] at hnodes
    exact .mk (inlines_of_collect hcollect)
      (resolvesAll_of_nodes (fun _ _ _ _ hbelow => ih hbelow) hnodes)

end Flatten

/-- What `flatten` returns are the field trees of its selections. -/
theorem resolves_of_flatten {selections : List Selection} {nodes : List FieldNode}
    (h : (flatten fragments selections).outcome = .ok nodes) :
    Resolves fragments selections nodes := by
  obtain ⟨⟨trees, left⟩, hlevel, hpure⟩ := Attempt.outcome_bind_eq_ok.mp h
  cases hpure
  exact Flatten.resolves_of_level hlevel

/-- **Flattening is writing fragments out and merging.**  What `flatten` returns are the field
trees of its selections, and these have no others.  In every selection set the trees differ in
their identities, and a chain of fields leads down the trees exactly if it is selected. -/
theorem flatten_resolves {selections : List Selection} {nodes : List FieldNode}
    (h : (flatten fragments selections).outcome = .ok nodes) :
    (∀ others, Resolves fragments selections others ↔ others = nodes) ∧
      DistinctBy FieldLabel.identity nodes ∧
      ∀ chain, SelectsChain fragments selections chain ↔ HasChain nodes chain := by
  have hresolves := resolves_of_flatten h
  refine ⟨fun others => ⟨fun hothers => hothers.unique hresolves, ?_⟩, hresolves.distinct,
    hresolves.chain_iff⟩
  rintro rfl
  exact hresolves

/-- The fragment `fragment Named on Pet { name }`. -/
def namedFragment : Fragment where
  name := "Named"
  condition := "Pet"
  selections := [.field ⟨none, "name"⟩ []]
  position := ⟨1, 1⟩

/-- The selections `{ pet { name ...Named } ...Missing ... on Query { pet { owner { name } } } }`. -/
def petSelections : List Selection :=
  [.field ⟨none, "pet"⟩ [.field ⟨none, "name"⟩ [], .spread "Named" ⟨1, 1⟩],
    .spread "Missing" ⟨1, 1⟩,
    .inlineFragment (some "Query")
      [.field ⟨none, "pet"⟩ [.field ⟨none, "owner"⟩ [.field ⟨none, "name"⟩ []]]]]

/-- The fields that `petSelections` selects. -/
def petTrees : List FieldNode :=
  [.branch ⟨none, "pet"⟩
    [.leaf ⟨none, "name"⟩, .branch ⟨none, "owner"⟩ [.leaf ⟨none, "name"⟩]]]

/-- The fields of a pet that are selected in two places are merged into one tree; a fragment that is
not defined adds nothing. -/
theorem flatten_resolves_pet :
    (flatten [namedFragment] petSelections).outcome = .ok petTrees ∧
      (∀ others, Resolves [namedFragment] petSelections others ↔ others = petTrees) ∧
      DistinctBy FieldLabel.identity petTrees ∧
      ∀ chain, SelectsChain [namedFragment] petSelections chain ↔ HasChain petTrees chain :=
  ⟨rfl, flatten_resolves rfl⟩

end EnumBridge
