import EnumBridge.Proofs.FlattenedTree
import EnumBridge.Proofs.ResponseSite

/-!
# Fragments in a cycle

A selection holds the selections below a field, those in an inline fragment, and those of the
fragment that a spread names.  `Reaches` follows what selections hold to the spread of a
fragment, through fields, inline fragments and other fragments in any mixture.

If selections have field trees, then what they hold comes to an end on every way down
(`Resolves.acc_held`): a field is in a tree, and the trees below it are smaller; a fragment is
written out, and what is written out of it is part of the whole.  So a fragment that reaches
itself is not among them, and `flatten` refuses selections from which such a fragment is
reached (`cyclic_refused`).
-/

set_option autoImplicit false

namespace EnumBridge

/-- The selections that a selection holds. -/
def Selection.held (fragments : Fragments) : Selection → List Selection
  | .field _ below => below
  | .inlineFragment _ inner => inner
  | .spread name _ =>
    match fragments.named? name with
    | some fragment => fragment.selections
    | none => []

/-- A spread of the fragment `name` is among the selections, or among what they hold, however
far down. -/
inductive Reaches (fragments : Fragments) : List Selection → String → Prop
  | spread {selections : List Selection} {name : String} {position : Syntax.Position}
      (hmem : Selection.spread name position ∈ selections) : Reaches fragments selections name
  | held {selections : List Selection} {selection : Selection} {name : String}
      (hmem : selection ∈ selections) (h : Reaches fragments (selection.held fragments) name) :
      Reaches fragments selections name

/-- One selection is held by the other. -/
def HeldBy (fragments : Fragments) (inner outer : Selection) : Prop :=
  inner ∈ outer.held fragments

variable {fragments : Fragments} {selections : List Selection}

/-- A spread holds the selections of the fragment that it names. -/
theorem Selection.held_spread {name : String} {fragment : Fragment}
    (hfragment : fragments.named? name = some fragment) (position : Syntax.Position) :
    (Selection.spread name position).held fragments = fragment.selections := by
  rw [held, hfragment]

/-- A spread of a fragment that is not defined holds nothing. -/
theorem Selection.held_undefined {name : String} (hfragment : fragments.named? name = none)
    (position : Syntax.Position) : (Selection.spread name position).held fragments = [] := by
  rw [held, hfragment]

/-- What a list reaches is reached by one of its selections. -/
theorem Reaches.exists_mem {name : String} (h : Reaches fragments selections name) :
    ∃ selection ∈ selections, Reaches fragments [selection] name := by
  cases h with
  | spread hmem => exact ⟨_, hmem, .spread (List.mem_singleton_self _)⟩
  | held hmem h => exact ⟨_, hmem, .held (List.mem_singleton_self _) h⟩

/-- Where the way down comes to an end, no fragment is met that reaches itself. -/
theorem not_reaches_of_acc {selection : Selection} (h : Acc (HeldBy fragments) selection)
    {name : String} {fragment : Fragment} (hfragment : fragments.named? name = some fragment)
    (hcycle : Reaches fragments fragment.selections name) :
    ¬ Reaches fragments [selection] name := by
  induction h with
  | intro selection _ ih =>
    have hheld : ¬ Reaches fragments (selection.held fragments) name := by
      intro hreaches
      obtain ⟨inner, hmem, hinner⟩ := hreaches.exists_mem
      exact ih inner hmem hinner
    intro hreaches
    cases hreaches with
    | spread hmem =>
      rw [← List.mem_singleton.mp hmem, Selection.held_spread hfragment] at hheld
      exact hheld hcycle
    | held hmem hinner =>
      rw [← List.mem_singleton.mp hmem] at hheld
      exact hheld hinner

/-- If the way down ends below every field that selections stand for, it ends below the
selections: what is on the way to the fields is written out of finitely many fragments. -/
theorem Inlines.acc_held {fields : List SelectedField} (h : Inlines fragments selections fields)
    (hbelow : ∀ field ∈ fields, ∀ inner ∈ field.selections, Acc (HeldBy fragments) inner) :
    ∀ selection ∈ selections, Acc (HeldBy fragments) selection := by
  induction h with
  | nil => simp
  | field _ ih =>
    obtain ⟨hfirst, hothers⟩ := List.forall_mem_cons.mp hbelow
    exact List.forall_mem_cons.mpr ⟨.intro _ hfirst, ih hothers⟩
  | inlineFragment _ _ ihinner ih =>
    obtain ⟨hinner, hothers⟩ := List.forall_mem_append.mp hbelow
    exact List.forall_mem_cons.mpr ⟨.intro _ (ihinner hinner), ih hothers⟩
  | spread hfragment _ _ ihinner ih =>
    obtain ⟨hinner, hothers⟩ := List.forall_mem_append.mp hbelow
    refine List.forall_mem_cons.mpr ⟨.intro _ fun inner hmem => ?_, ih hothers⟩
    rw [HeldBy, Selection.held_spread hfragment] at hmem
    exact ihinner hinner inner hmem
  | undefined hfragment _ ih =>
    refine List.forall_mem_cons.mpr ⟨.intro _ fun inner hmem => ?_, ih hbelow⟩
    rw [HeldBy, Selection.held_undefined hfragment] at hmem
    cases hmem

/-- If selections have field trees, the way down comes to an end below each of them.  The
induction is on the trees: what is selected below a field has the smaller trees below one of
them. -/
theorem Resolves.acc_held {selections : List Selection} {nodes : List FieldNode}
    (h : Resolves fragments selections nodes) :
    ∀ selection ∈ selections, Acc (HeldBy fragments) selection := by
  cases h with
  | @mk _ fields _ hfields h =>
    refine hfields.acc_held fun field hfield inner hinner => ?_
    obtain ⟨group, hgroup, hin⟩ := EnumBridge.exists_group hfield
    obtain ⟨node, hnode, htree⟩ := h.exists_node hgroup
    cases htree with
    | leaf hempty =>
      rw [hempty field hin] at hinner
      cases hinner
    | branch _ hchildren =>
      have hsmaller := FieldNode.sizeOf_lt hnode rfl
      exact hchildren.acc_held inner (List.mem_flatMap.mpr ⟨field, hin, hinner⟩)
termination_by sizeOf nodes

/-- Selections from which a fragment is reached that reaches itself have no field trees. -/
theorem not_resolves_of_cycle {name : String} {fragment : Fragment}
    (hfragment : fragments.named? name = some fragment)
    (hreached : Reaches fragments selections name)
    (hcycle : Reaches fragments fragment.selections name) (nodes : List FieldNode) :
    ¬ Resolves fragments selections nodes := by
  intro h
  obtain ⟨selection, hmem, hreaches⟩ := hreached.exists_mem
  exact not_reaches_of_acc (h.acc_held selection hmem) hfragment hcycle hreaches

/-- The data of an operation whose selections are refused are refused for the same reason. -/
theorem Bridge.outcome_parseData_of_flatten (bridge : Bridge) {document : Document}
    {operationName : Option String} {operation : Operation} {type : TypeDef}
    {interfaces : List String} {fields : FieldTable} {error : FlattenError}
    (hoperation : document.operation? operationName = some operation)
    (hroot : bridge.schema.root? operation.kind = some type)
    (hobject : type.body = .object interfaces fields)
    (hrefused : (flatten document.fragmentTable operation.selections).outcome = .error error)
    (members : Members) :
    (bridge.parseData document operationName (.object members)).outcome =
      .error (.flattening error) := by
  have hfields : type.objectFields? = some fields := by
    rw [TypeDef.objectFields?, hobject]
  rw [parseData_eq bridge hoperation hroot hfields, Attempt.outcome_bind,
    Attempt.outcome_mapError, hrefused]
  rfl

/-- **A cycle is never accepted.**  If selections reach a fragment that a document defines, and
that fragment reaches itself, they are refused; and so are the data of an operation that has
these selections, if it starts from an object type. -/
theorem cyclic_refused (document : Document) {selections : List Selection} {name : String}
    {fragment : Fragment} (hfragment : document.fragment? name = some fragment)
    (hreached : Reaches document.fragmentTable selections name)
    (hcycle : Reaches document.fragmentTable fragment.selections name) :
    (∃ error, (flatten document.fragmentTable selections).outcome = .error error) ∧
    ∀ (bridge : Bridge) (operationName : Option String) (operation : Operation) (type : TypeDef)
      (interfaces : List String) (fields : FieldTable) (members : Members),
      document.operation? operationName = some operation →
      operation.selections = selections →
      bridge.schema.root? operation.kind = some type →
      type.body = .object interfaces fields →
      ∃ error, (bridge.parseData document operationName (.object members)).outcome =
        .error (.flattening error) := by
  have hrefused : ∃ error,
      (flatten document.fragmentTable selections).outcome = .error error := by
    cases h : (flatten document.fragmentTable selections).outcome with
    | error error => exact ⟨error, rfl⟩
    | ok nodes =>
      exact absurd (resolves_of_flatten h) (not_resolves_of_cycle hfragment hreached hcycle nodes)
  refine ⟨hrefused, ?_⟩
  intro bridge operationName operation type interfaces fields members hoperation hselections
    hroot hobject
  obtain ⟨error, herror⟩ := hrefused
  rw [← hselections] at herror
  exact ⟨error, bridge.outcome_parseData_of_flatten hoperation hroot hobject herror members⟩

/-- The fragment `fragment Friends on Pet { name }`. -/
def shortFriends : Fragment where
  name := "Friends"
  condition := "Pet"
  selections := [.field ⟨none, "name"⟩ []]
  position := ⟨1, 1⟩

/-- The fragment `fragment Friends on Pet { friend { ... on Pet { ...Names } } }`. -/
def longFriends : Fragment where
  name := "Friends"
  condition := "Pet"
  selections :=
    [.field ⟨none, "friend"⟩ [.inlineFragment (some "Pet") [.spread "Names" ⟨2, 1⟩]]]
  position := ⟨2, 1⟩

/-- The fragment `fragment Names on Pet { name ...Friends }`. -/
def friendNames : Fragment where
  name := "Names"
  condition := "Pet"
  selections := [.field ⟨none, "name"⟩ [], .spread "Friends" ⟨3, 1⟩]
  position := ⟨3, 1⟩

/-- The operation `{ pets { ...Names } }`. -/
def friendOperation : Operation where
  kind := .query
  name := none
  variableDefinitions := []
  selections := [.field ⟨none, "pets"⟩ [.spread "Names" ⟨4, 1⟩]]

/-- A document in which `Friends` is defined twice, and the second time in a cycle. -/
def friendDocument : Document where
  definitions :=
    [.operation friendOperation, .fragment shortFriends, .fragment longFriends,
      .fragment friendNames]

/-- Two fragments that spread each other are refused, and so are the data that are to be parsed by
them. -/
theorem cyclic_refused_friends :
    friendDocument.fragment? "Names" = some friendNames ∧
      Reaches friendDocument.fragmentTable friendOperation.selections "Names" ∧
      Reaches friendDocument.fragmentTable friendNames.selections "Names" ∧
      (∃ error,
        (flatten friendDocument.fragmentTable friendOperation.selections).outcome =
          .error error) ∧
      ∃ error, (petBridge.parseData friendDocument none (.object petData)).outcome =
        .error (.flattening error) := by
  have hreached : Reaches friendDocument.fragmentTable friendOperation.selections "Names" :=
    .held (List.mem_singleton_self _) (.spread (List.mem_singleton_self _))
  have hcycle : Reaches friendDocument.fragmentTable friendNames.selections "Names" :=
    .held (List.mem_cons_of_mem _ (List.mem_singleton_self _))
      (.held (List.mem_singleton_self _)
        (.held (List.mem_singleton_self _) (.spread (List.mem_singleton_self _))))
  have hrefused := cyclic_refused friendDocument rfl hreached hcycle
  exact ⟨rfl, hreached, hcycle, hrefused.1,
    hrefused.2 petBridge none friendOperation _ _ _ petData rfl rfl rfl rfl⟩

end EnumBridge
