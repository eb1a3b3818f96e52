import EnumBridge.Proofs.FragmentCycle
import EnumBridge.Proofs.InlinedFragment
import EnumBridge.Proofs.MetValue
import Mathlib.Logic.Relation

/-!
# Definitions that make no difference

Two tables of fragments are alike for some selections if they hold the same fragment under every
name that the selections reach (`AlikeFor`).  Then every round of expansion produces the same in
both, reports the same and spends the same, and whatever a round or a level leaves to be done
reaches no further names.  So selections are flattened to the same result, notes and errors
included, also where a limit stops the work half-way (`flatten_congr`).

The main statement is `answers_of_used`: of a document only the operation that is found and the
fragments that it reaches have any influence.
-/

set_option autoImplicit false

namespace EnumBridge

open Flatten

variable {fragments others : Fragments} {selections : List Selection}

/-! ## What selections reach -/

/-- What some selections reach, more selections reach. -/
theorem Reaches.mono {more : List Selection} {name : String}
    (h : Reaches fragments selections name) (hsub : selections ⊆ more) :
    Reaches fragments more name := by
  cases h with
  | spread hmem => exact .spread (hsub hmem)
  | held hmem h => exact .held (hsub hmem) h

/-- Without selections nothing is reached. -/
theorem not_reaches_nil {name : String} : ¬ Reaches fragments [] name := by
  intro h
  obtain ⟨selection, hmem, -⟩ := h.exists_mem
  cases hmem

/-- What is reached is spread by the first selection, reached by what that holds, or reached by the
others. -/
theorem reaches_cons_iff {selection : Selection} {name : String} :
    Reaches fragments (selection :: selections) name ↔
      (∃ position, selection = .spread name position) ∨
        Reaches fragments (selection.held fragments) name ∨ Reaches fragments selections name := by
  constructor
  · intro h
    cases h with
    | spread hmem =>
      rcases List.mem_cons.mp hmem with rfl | hmem
      · exact .inl ⟨_, rfl⟩
      · exact .inr (.inr (.spread hmem))
    | held hmem h =>
      rcases List.mem_cons.mp hmem with rfl | hmem
      · exact .inr (.inl h)
      · exact .inr (.inr (.held hmem h))
  · rintro (⟨position, rfl⟩ | h | h)
    · exact .spread List.mem_cons_self
    · exact .held List.mem_cons_self h
    · exact h.mono (List.subset_cons_self _ _)

/-- A round of expansion reaches no names that were not reached before. -/
theorem Reaches.of_expand {name : String}
    (h : Reaches fragments (expand fragments selections) name) :
    Reaches fragments selections name := by
  obtain ⟨inner, hinner, hreaches⟩ := h.exists_mem
  obtain ⟨selection, hmem, hinner⟩ := List.mem_flatMap.mp hinner
  have hsub : [inner] ⊆ expansion fragments selection := by simpa using hinner
  have hbelow := hreaches.mono hsub
  cases selection with
  | field label below => exact hbelow.mono (by simpa [expansion] using hmem)
  | inlineFragment condition inner => exact .held hmem hbelow
  | spread other position => exact .held hmem hbelow

/-- What is reached below a selected field is reached. -/
theorem Selects.reaches {conditions : List String} {field : SelectedField} {name : String}
    (h : Selects fragments selections conditions field)
    (hreaches : Reaches fragments field.selections name) : Reaches fragments selections name := by
  induction h with
  | field hmem => exact .held hmem hreaches
  | inlineFragment hmem _ ih => exact .held hmem (ih hreaches)
  | spread hmem hfragment _ ih =>
    refine .held hmem ?_
    rw [Selection.held_spread hfragment]
    exact ih hreaches

/-! ## Tables that are alike -/

/-- Two tables hold the same fragment, or both none, under every name that some selections
reach. -/
def AlikeFor (fragments others : Fragments) (selections : List Selection) : Prop :=
  ∀ name, Reaches fragments selections name → fragments.named? name = others.named? name

namespace AlikeFor

/-- One of the selections stands for the same in both tables. -/
theorem expansion_eq (h : AlikeFor fragments others selections) {selection : Selection}
    (hmem : selection ∈ selections) :
    expansion fragments selection = expansion others selection := by
  cases selection with
  | field label below => rfl
  | inlineFragment condition inner => rfl
  | spread name position => rw [expansion, expansion, h name (.spread hmem)]

/-- Tables that are alike for some selections are alike for fewer. -/
theorem tail {selection : Selection} (h : AlikeFor fragments others (selection :: selections)) :
    AlikeFor fragments others selections :=
  fun name hreaches => h name (reaches_cons_iff.mpr (.inr (.inr hreaches)))

/-- A round produces the same over both tables. -/
theorem expand_eq (h : AlikeFor fragments others selections) :
    expand fragments selections = expand others selections :=
  List.flatMap_congr fun _ hmem => h.expansion_eq hmem

/-- One of the selections costs the same over both tables. -/
theorem cost_eq (h : AlikeFor fragments others selections) {selection : Selection}
    (hmem : selection ∈ selections) : cost fragments selection = cost others selection := by
  rw [cost, cost, h.expansion_eq hmem]

/-- A round costs the same over both tables. -/
theorem totalCost_eq (h : AlikeFor fragments others selections) :
    totalCost fragments selections = totalCost others selections :=
  List.foldl_ext _ _ _ fun _ _ hmem => by rw [h.cost_eq hmem]

/-- The same is reported of one of the selections over both tables. -/
theorem remark?_eq (h : AlikeFor fragments others selections) {selection : Selection}
    (hmem : selection ∈ selections) : remark? fragments selection = remark? others selection := by
  cases selection with
  | spread name position => rw [remark?, remark?, h name (.spread hmem)]
  | _ => rfl

/-- The same is reported of a round over both tables. -/
theorem remarks_eq (h : AlikeFor fragments others selections) (budget : Nat) (notes : List Note) :
    remarks fragments budget selections notes = remarks others budget selections notes := by
  induction selections generalizing budget notes with
  | nil => rfl
  | cons selection rest ih =>
    rw [remarks, remarks, h.cost_eq List.mem_cons_self, h.remark?_eq List.mem_cons_self,
      ih h.tail]

/-- Alike tables stay so for what a round leaves. -/
theorem expand (h : AlikeFor fragments others selections) :
    AlikeFor fragments others (expand fragments selections) :=
  fun name hreaches => h name hreaches.of_expand

/-- Fields are collected alike over both tables, notes and errors included. -/
theorem collect_eq (h : AlikeFor fragments others selections) (rounds budget : Nat) :
    collect fragments rounds budget selections = collect others rounds budget selections := by
  induction rounds generalizing budget selections with
  | zero => rw [collect, collect]
  | succ rounds ih =>
    have hnext := ih h.expand (budget - Flatten.totalCost fragments selections)
    rw [collect, collect, h.remarks_eq, ← h.totalCost_eq, hnext, h.expand_eq]

/-- Alike tables stay so below the fields that are left of a list. -/
theorem mergeFields (h : AlikeFor fragments others selections) {fields : List SelectedField}
    (hfields : Inlines fragments selections fields) {field : SelectedField}
    (hfield : field ∈ Flatten.mergeFields fields) :
    AlikeFor fragments others field.selections := by
  intro name hreaches
  rw [mergeFields_eq] at hfield
  obtain ⟨group, hgroup, rfl⟩ := List.mem_map.mp hfield
  obtain ⟨selection, hmem, hinner⟩ := hreaches.exists_mem
  obtain ⟨own, hown, hselection⟩ := List.mem_flatMap.mp hmem
  obtain ⟨conditions, hselects⟩ := (hfields.mem_iff own).mp (mem_of_mem_groups hgroup hown)
  apply h name
  apply hselects.reaches
  exact hinner.mono (by simpa using hselection)

end AlikeFor

/-- Trees of fields are made alike, if what is below each field is flattened alike. -/
theorem Flatten.nodes_congr
    {below below' : Nat → List Selection → Attempt FlattenError (List FieldNode × Nat)}
    {fields : List SelectedField}
    (h : ∀ field ∈ fields, ∀ budget,
      below budget field.selections = below' budget field.selections) (budget : Nat) :
    nodes below budget fields = nodes below' budget fields := by
  induction fields generalizing budget with
  | nil => rfl
  | cons field rest ih =>
    obtain ⟨hfield, hrest⟩ := List.forall_mem_cons.mp h
    rw [nodes, nodes, hfield]
    simp only [ih hrest]

/-- **Levels over alike tables.**  The budget that is handed on is the same at every point, so the
work stops at the same point, if it does. -/
theorem AlikeFor.level_eq (h : AlikeFor fragments others selections) (depth budget : Nat) :
    level fragments depth budget selections = level others depth budget selections := by
  induction depth generalizing budget selections with
  | zero => rfl
  | succ depth ih =>
    rw [level, level, ← h.collect_eq]
    refine Attempt.bind_congr fun ⟨fields, left⟩ hfields => ?_
    apply nodes_congr
    intro field hfield budget
    exact ih (h.mergeFields (inlines_of_collect hfields) hfield) budget

/-- Selections are flattened alike over tables that are alike for them, notes and errors
included. -/
theorem flatten_congr (h : AlikeFor fragments others selections) :
    flatten fragments selections = flatten others selections := by
  rw [flatten, flatten, h.level_eq]

/-! ## Documents -/

/-- Two documents are treated alike in whatever is asked of an operation of that name. -/
structure Bridge.SameAnswers (bridge : Bridge) (operationName : Option String)
    (document other : Document) : Prop where
  serialized : ∀ values, bridge.serializeVariables document operationName values =
    bridge.serializeVariables other operationName values
  parsed : ∀ data, bridge.parseData document operationName data =
    bridge.parseData other operationName data

namespace Document

/-- In both documents the same operation is found, and the same fragments under the names that it
reaches. -/
structure SameUsed (operationName : Option String) (document other : Document) : Prop where
  operation : document.operation? operationName = other.operation? operationName
  fragments : ∀ operation, document.operation? operationName = some operation →
    ∀ name, Reaches document.fragmentTable operation.selections name →
      document.fragment? name = other.fragment? name

/-- One definition more that an operation has no use for: another operation, a fragment that it
does not reach, or a fragment that a later one of the same name hides. -/
inductive AddsUnused (operationName : Option String) : Document → Document → Prop
  | operation {front back : List Definition} {added : Operation}
      (hfound : operation? ⟨front ++ .operation added :: back⟩ operationName =
        operation? ⟨front ++ back⟩ operationName) :
      AddsUnused operationName ⟨front ++ back⟩ ⟨front ++ .operation added :: back⟩
  | fragment {front back : List Definition} {added : Fragment}
      (hunreached : ∀ operation, operation? ⟨front ++ back⟩ operationName = some operation →
        ¬ Reaches (fragmentTable ⟨front ++ back⟩) operation.selections added.name) :
      AddsUnused operationName ⟨front ++ back⟩ ⟨front ++ .fragment added :: back⟩
  | hidden {front back : List Definition} {added later : Fragment}
      (hlater : later ∈ Document.fragments ⟨back⟩) (hname : later.name = added.name) :
      AddsUnused operationName ⟨front ++ back⟩ ⟨front ++ .fragment added :: back⟩

/-- The fragments of a second part of a document stand in the table in front of those of the
first. -/
theorem fragmentTable_append (front back : List Definition) :
    fragmentTable ⟨front ++ back⟩ = fragmentTable ⟨back⟩ ++ fragmentTable ⟨front⟩ := by
  simp [fragmentTable, Document.fragments]

/-- A fragment changes the look-up of its own name only, and not even that if a later one hides
it. -/
theorem fragment?_added {front back : List Definition} {added : Fragment} {name : String}
    (h : added.name ≠ name ∨ ∃ later ∈ Document.fragments ⟨back⟩, later.name = name) :
    fragment? ⟨front ++ .fragment added :: back⟩ name = fragment? ⟨front ++ back⟩ name := by
  show Fragments.named? (fragmentTable _) name = Fragments.named? (fragmentTable _) name
  rw [fragmentTable_fragment, fragmentTable_append, Fragments.named?, Fragments.named?,
    List.find?_append, List.find?_append, List.find?_cons]
  rcases h with hother | ⟨later, hlater, hname⟩
  · have hskip : (added.name == name) = false := by simpa using hother
    rw [hskip]
  · have hfound : ((fragmentTable ⟨back⟩).find? fun fragment => fragment.name == name).isSome := by
      rw [List.find?_isSome]
      exact ⟨later, List.mem_reverse.mpr hlater, by simpa using hname⟩
    obtain ⟨fragment, hfragment⟩ := Option.isSome_iff_exists.mp hfound
    rw [hfragment]
    rfl

/-- A definition that an operation has no use for changes neither the operation nor the fragments
that it reaches. -/
theorem AddsUnused.sameUsed {operationName : Option String} {document other : Document}
    (h : AddsUnused operationName document other) : SameUsed operationName document other := by
  have hfound (front back : List Definition) (added : Fragment) :
      operation? ⟨front ++ back⟩ operationName =
        operation? ⟨front ++ .fragment added :: back⟩ operationName := by
    unfold operation?
    rw [operations_fragment]
  cases h with
  | @operation front back added hoperation =>
    refine ⟨hoperation.symm, fun operation _ name _ => ?_⟩
    show Fragments.named? (fragmentTable _) name = Fragments.named? (fragmentTable _) name
    rw [fragmentTable_operation]
  | @fragment front back added hunreached =>
    refine ⟨hfound front back added, fun operation hoperation name hreaches => ?_⟩
    have hother : added.name ≠ name := by
      rintro rfl
      exact hunreached operation hoperation hreaches
    exact (fragment?_added (.inl hother)).symm
  | @hidden front back added later hlater hname =>
    refine ⟨hfound front back added, fun operation _ name _ => ?_⟩
    by_cases hother : added.name = name
    · exact (fragment?_added (.inr ⟨later, hlater, hname.trans hother⟩)).symm
    · exact (fragment?_added (.inl hother)).symm

end Document

namespace Bridge

variable {bridge : Bridge} {operationName : Option String} {document other third : Document}

/-- Documents in which the same is used are treated alike. -/
theorem sameAnswers_of_sameUsed (h : document.SameUsed operationName other) :
    bridge.SameAnswers operationName document other := by
  refine ⟨fun values => ?_, fun data => ?_⟩
  · rw [serializeVariables, serializeVariables, h.operation]
  · rw [parseData, parseData, ← h.operation]
    cases hoperation : document.operation? operationName with
    | none => rfl
    | some operation =>
      have halike : AlikeFor document.fragmentTable other.fragmentTable operation.selections :=
        h.fragments operation hoperation
      have hparsed : bridge.parseOperationData document operation data =
          bridge.parseOperationData other operation data := by
        rw [parseOperationData, parseOperationData, flatten_congr halike]
      simp only [hparsed]

/-- To be treated alike is symmetric. -/
theorem SameAnswers.symm (h : bridge.SameAnswers operationName document other) :
    bridge.SameAnswers operationName other document :=
  ⟨fun values => (h.serialized values).symm, fun data => (h.parsed data).symm⟩

/-- To be treated alike is transitive. -/
theorem SameAnswers.trans (h : bridge.SameAnswers operationName document other)
    (h' : bridge.SameAnswers operationName other third) :
    bridge.SameAnswers operationName document third :=
  ⟨fun values => (h.serialized values).trans (h'.serialized values),
    fun data => (h.parsed data).trans (h'.parsed data)⟩

end Bridge

/-- **Only what an operation uses has any influence.**  If in two documents the same operation is
found, and under every name that it reaches the same last fragment or none, then its variables and
the data of its responses come to the same results, errors and notes included.  So it does not
matter what other operations there are, what fragments it does not reach, and what fragments are
hidden by later ones: documents that differ by any number of such definitions, added, taken out or
moved, are treated alike. -/
theorem answers_of_used (bridge : Bridge) (operationName : Option String)
    (document other : Document) :
    (document.SameUsed operationName other →
      bridge.SameAnswers operationName document other) ∧
    (Relation.EqvGen (Document.AddsUnused operationName) document other →
      bridge.SameAnswers operationName document other) := by
  refine ⟨Bridge.sameAnswers_of_sameUsed, fun h => ?_⟩
  induction h with
  | rel _ _ hadds => exact Bridge.sameAnswers_of_sameUsed hadds.sameUsed
  | refl _ => exact ⟨fun _ => rfl, fun _ => rfl⟩
  | symm _ _ _ ih => exact ih.symm
  | trans _ _ _ _ _ ih ih' => exact ih.trans ih'

/-- The operation `{ all: pets { __typename ...Coated } }` with the fragment that it spreads. -/
def coatedDocument : Document := ⟨[.operation spreadOperation, .fragment coatedFragment]⟩

/-- The same in another order, with another operation, a fragment in a cycle and a definition that
is hidden by a later one. -/
def crowdedDocument : Document :=
  ⟨[.fragment { coatedFragment with selections := [.spread "Coated" ⟨3, 1⟩] },
    .fragment coatedFragment, .fragment endlessFragment, .operation spreadOperation,
    .operation petOperation]⟩

/-- The operation reaches no fragment but the one that it spreads. -/
theorem reached_of_spreadOperation {name : String}
    (h : Reaches [coatedFragment] spreadOperation.selections name) : name = "Coated" := by
  simpa [spreadOperation, reaches_cons_iff, not_reaches_nil, Selection.held, Fragments.named?,
    coatedFragment, eq_comm] using h

/-- Another operation, a fragment in a cycle and a hidden definition make no difference, and neither
does their place. -/
theorem answers_of_used_coated :
    coatedDocument.SameUsed none crowdedDocument ∧
      petBridge.SameAnswers none coatedDocument crowdedDocument ∧
      Relation.EqvGen (Document.AddsUnused none)
        ⟨[.operation spreadOperation, .fragment coatedFragment, .operation petOperation]⟩
        ⟨[.fragment endlessFragment, .operation spreadOperation, .fragment coatedFragment]⟩ ∧
      petBridge.SameAnswers none
        ⟨[.operation spreadOperation, .fragment coatedFragment, .operation petOperation]⟩
        ⟨[.fragment endlessFragment, .operation spreadOperation, .fragment coatedFragment]⟩ := by
  have hused : coatedDocument.SameUsed none crowdedDocument := by
    refine ⟨rfl, ?_⟩
    rintro _ ⟨⟩ name hreaches
    rw [reached_of_spreadOperation hreaches]
    rfl
  have htaken : Document.AddsUnused none coatedDocument
      ⟨[.operation spreadOperation, .fragment coatedFragment, .operation petOperation]⟩ :=
    @Document.AddsUnused.operation none
      [.operation spreadOperation, .fragment coatedFragment] [] petOperation rfl
  have hadded : Document.AddsUnused none coatedDocument
      ⟨[.fragment endlessFragment, .operation spreadOperation, .fragment coatedFragment]⟩ := by
    refine @Document.AddsUnused.fragment none [] _ endlessFragment ?_
    rintro _ ⟨⟩ hreaches
    have hname := reached_of_spreadOperation hreaches
    exact absurd hname (by decide)
  have hmoved := (Relation.EqvGen.rel _ _ htaken).symm.trans _ _ _ (.rel _ _ hadded)
  exact ⟨hused, (answers_of_used petBridge none _ _).1 hused, hmoved,
    (answers_of_used petBridge none _ _).2 hmoved⟩

end EnumBridge
