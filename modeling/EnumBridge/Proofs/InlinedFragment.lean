import EnumBridge.Proofs.FlattenLimits
import EnumBridge.Proofs.Inlining
import EnumBridge.Proofs.ResponseSite
import Mathlib.Data.List.Forall2

/-!
# A fragment written out by hand

Instead of an inline fragment, or of the spread of a fragment, a document may list the selections
that it stands for.  `InlinesOnce` replaces one such fragment, wherever it stands.

If it stands in the definition of a fragment, every use of that fragment changes, so the proofs
use a wider relation: `Inlined` replaces any number of fragments, and `TablesInlined` relates the
fragments of the two documents by it.  Replaced lists stand for the same fields up to what is
replaced below these (`Inlined.inlines`), need no more rounds and cost no more.  From there the
levels are compared one by one, where the budget of the document with fewer fragments may always
be the larger one (`outcome_level_inlined`).

The main statement is `inlined_fragment`.
-/

set_option autoImplicit false

namespace EnumBridge

open Flatten

/-! ## One fragment replaced -/

/-- One fragment among some selections, at whatever depth, is replaced by the selections that it
stands for.  There must be some, as the grammar demands of every fragment: a field that holds
nothing but an empty fragment has a selection set, and without the fragment it has none. -/
inductive InlinesOnce (fragments : Fragments) : List Selection → List Selection → Prop
  | here {front back : List Selection} {selection : Selection}
      (hfragment : selection.isField = false) (hsome : expansion fragments selection ≠ []) :
      InlinesOnce fragments (front ++ selection :: back)
        (front ++ (expansion fragments selection ++ back))
  | field {front back below inlined : List Selection} {label : FieldLabel}
      (h : InlinesOnce fragments below inlined) :
      InlinesOnce fragments (front ++ .field label below :: back)
        (front ++ .field label inlined :: back)
  | inlineFragment {front back inner inlined : List Selection} {condition : Option String}
      (h : InlinesOnce fragments inner inlined) :
      InlinesOnce fragments (front ++ .inlineFragment condition inner :: back)
        (front ++ .inlineFragment condition inlined :: back)

/-- One fragment of a document is replaced by the selections that it stands for: in an operation
or in the definition of a fragment. -/
inductive Document.InlinesOnce : Document → Document → Prop
  | operation {front back : List Definition} {operation : Operation} {inlined : List Selection}
      (h : EnumBridge.InlinesOnce
        (Document.fragmentTable ⟨front ++ .operation operation :: back⟩)
        operation.selections inlined) :
      Document.InlinesOnce ⟨front ++ .operation operation :: back⟩
        ⟨front ++ .operation { operation with selections := inlined } :: back⟩
  | fragment {front back : List Definition} {fragment : Fragment} {inlined : List Selection}
      (h : EnumBridge.InlinesOnce
        (Document.fragmentTable ⟨front ++ .fragment fragment :: back⟩)
        fragment.selections inlined) :
      Document.InlinesOnce ⟨front ++ .fragment fragment :: back⟩
        ⟨front ++ .fragment { fragment with selections := inlined } :: back⟩

/-! ## Any number of fragments replaced -/

/-- Some fragments among selections are replaced by what they stand for, which may have had
fragments replaced in it before.  Nothing disappears below a field. -/
inductive Inlined (fragments : Fragments) : List Selection → List Selection → Prop
  | nil : Inlined fragments [] []
  | field {label : FieldLabel} {below inlined rest others : List Selection}
      (hbelow : Inlined fragments below inlined) (hsome : below ≠ [] → inlined ≠ [])
      (hrest : Inlined fragments rest others) :
      Inlined fragments (.field label below :: rest) (.field label inlined :: others)
  | inlineFragment {condition : Option String} {inner inlined rest others : List Selection}
      (hinner : Inlined fragments inner inlined) (hrest : Inlined fragments rest others) :
      Inlined fragments (.inlineFragment condition inner :: rest)
        (.inlineFragment condition inlined :: others)
  | spread {name : String} {position : Syntax.Position} {rest others : List Selection}
      (hrest : Inlined fragments rest others) :
      Inlined fragments (.spread name position :: rest) (.spread name position :: others)
  | replaced {selection : Selection} {inlined rest others : List Selection}
      (hfragment : selection.isField = false)
      (h : Inlined fragments (expansion fragments selection) inlined)
      (hrest : Inlined fragments rest others) :
      Inlined fragments (selection :: rest) (inlined ++ others)

/-- Every spread stands for the same in both tables, but for fragments that are replaced. -/
def TablesInlined (fragments others : Fragments) : Prop :=
  ∀ name position, Inlined fragments (expansion fragments (.spread name position))
    (expansion others (.spread name position))

/-- Two fields are the same, but for fragments that are replaced below them. -/
structure FieldInlined (fragments : Fragments) (field other : SelectedField) : Prop where
  label : other.label = field.label
  below : Inlined fragments field.selections other.selections
  some : field.selections ≠ [] → other.selections ≠ []

variable {fragments table : Fragments}

namespace Inlined

/-- No fragment has to be replaced. -/
theorem refl (fragments : Fragments) : (selections : List Selection) →
    Inlined fragments selections selections
  | [] => .nil
  | .field _ below :: rest => .field (refl fragments below) id (refl fragments rest)
  | .inlineFragment _ inner :: rest => .inlineFragment (refl fragments inner) (refl fragments rest)
  | .spread _ _ :: rest => .spread (refl fragments rest)

/-- Fragments may be replaced in both parts of a list. -/
theorem append {selections inlined more others : List Selection}
    (h : Inlined fragments selections inlined) (hmore : Inlined fragments more others) :
    Inlined fragments (selections ++ more) (inlined ++ others) := by
  induction h with
  | nil => exact hmore
  | field hbelow hsome _ _ ih => exact .field hbelow hsome ih
  | inlineFragment hinner _ _ ih => exact .inlineFragment hinner ih
  | spread _ ih => exact .spread ih
  | replaced hfragment h _ _ ih =>
    rw [List.append_assoc]
    exact .replaced hfragment h ih

/-- Where there is nothing, nothing is put in. -/
theorem eq_nil {inlined : List Selection} (h : Inlined fragments [] inlined) : inlined = [] := by
  cases h
  rfl

end Inlined

/-- A list in which a fragment is replaced is not empty afterwards. -/
theorem InlinesOnce.ne_nil {selections inlined : List Selection}
    (h : InlinesOnce fragments selections inlined) : inlined ≠ [] := by
  cases h with
  | here _ hsome => simp [hsome]
  | field _ => simp
  | inlineFragment _ => simp

/-- To replace one fragment is to replace some. -/
theorem InlinesOnce.inlined {selections inlined : List Selection}
    (h : InlinesOnce fragments selections inlined) : Inlined fragments selections inlined := by
  induction h with
  | here hfragment _ =>
    exact (Inlined.refl fragments _).append
      (.replaced hfragment (Inlined.refl fragments _) (Inlined.refl fragments _))
  | field h ih =>
    exact (Inlined.refl fragments _).append
      (.field ih (fun _ => h.ne_nil) (Inlined.refl fragments _))
  | inlineFragment _ ih =>
    exact (Inlined.refl fragments _).append (.inlineFragment ih (Inlined.refl fragments _))

/-! ## What replaced lists need -/

/-- One list needs no more rounds than another and costs no more, even if its own length is
counted. -/
structure NoCostlier (fragments table : Fragments) (selections inlined : List Selection) :
    Prop where
  rounds : roundsNeeded table inlined ≤ roundsNeeded fragments selections
  cost : listCost table inlined ≤ listCost fragments selections
  total : inlined.length + listCost table inlined ≤
    selections.length + listCost fragments selections

namespace NoCostlier

/-- A list of fields only is no costlier than any list that is at least as long. -/
theorem of_settled {selections inlined : List Selection} (h : Settled inlined)
    (hlength : inlined.length ≤ selections.length) :
    NoCostlier fragments table selections inlined where
  rounds := by
    rw [roundsNeeded_of_settled h]
    exact bot_le
  cost := by
    rw [listCost_of_settled h]
    exact bot_le
  total := by
    rw [listCost_of_settled h, add_zero]
    calc (inlined.length : ℕ∞) ≤ selections.length := by exact_mod_cast hlength
      _ ≤ selections.length + listCost fragments selections := le_self_add

/-- What stands below a field makes no difference to the list that the field stands in. -/
theorem field (label : FieldLabel) (below inlined : List Selection) :
    NoCostlier fragments table [.field label below] [.field label inlined] :=
  .of_settled (List.forall_mem_singleton.mpr rfl) (Nat.le_refl 1)

/-- A list is no costlier if none of its two parts is. -/
theorem append {selections inlined more others : List Selection}
    (h : NoCostlier fragments table selections inlined)
    (hmore : NoCostlier fragments table more others) :
    NoCostlier fragments table (selections ++ more) (inlined ++ others) where
  rounds := by
    rw [roundsNeeded_append, roundsNeeded_append]
    exact max_le_max h.rounds hmore.rounds
  cost := by
    rw [listCost_append, listCost_append]
    exact add_le_add h.cost hmore.cost
  total := by
    rw [listCost_append, listCost_append, List.length_append, List.length_append]
    push_cast
    rw [add_add_add_comm, add_add_add_comm (selections.length : ℕ∞)]
    exact add_le_add h.total hmore.total

/-- A fragment that is kept, if what it stands for is no costlier. -/
theorem kept {selection other : Selection} (hfragment : selection.isField = false)
    (hother : other.isField = false)
    (h : NoCostlier fragments table (expansion fragments selection) (expansion table other)) :
    NoCostlier fragments table [selection] [other] := by
  have hcost : listCost table [other] ≤ listCost fragments [selection] := by
    rw [listCost_fragment hfragment, listCost_fragment hother]
    exact h.total
  refine ⟨?_, hcost, ?_⟩
  · rw [roundsNeeded_fragment hfragment, roundsNeeded_fragment hother]
    gcongr
    exact h.rounds
  · rw [List.length_singleton, List.length_singleton]
    gcongr

/-- A fragment that is replaced, if what is put in its place is no costlier than what it stands
for.  The list gets longer, but the round that would have produced it is saved. -/
theorem replaced {selection : Selection} {inlined : List Selection}
    (hfragment : selection.isField = false)
    (h : NoCostlier fragments table (expansion fragments selection) inlined) :
    NoCostlier fragments table [selection] inlined where
  rounds := by
    rw [roundsNeeded_fragment hfragment]
    exact h.rounds.trans le_self_add
  cost := by
    rw [listCost_fragment hfragment]
    exact h.cost.trans le_add_self
  total := by
    rw [listCost_fragment hfragment]
    exact h.total.trans le_add_self

end NoCostlier

/-- **Replaced lists stand for the same fields**, up to what is replaced below these, and need
no more to be written out. -/
theorem Inlined.inlines {selections inlined : List Selection} {fields : List SelectedField}
    (htable : TablesInlined fragments table) (h : Inlined fragments selections inlined)
    (hfields : Inlines fragments selections fields) :
    ∃ others, Inlines table inlined others ∧
      List.Forall₂ (FieldInlined fragments) fields others ∧
      NoCostlier fragments table selections inlined := by
  induction selections, fields, hfields using expansion_induction generalizing inlined with
  | nil =>
    cases h
    exact ⟨[], .nil, .nil, .of_settled (List.forall_mem_nil _) le_rfl⟩
  | field label below rest fields hrest ih =>
    cases h with
    | field hbelow hsome hrest' =>
      obtain ⟨others, hothers, halike, hcost⟩ := ih hrest'
      refine ⟨_, .field hothers, .cons ⟨rfl, hbelow, hsome⟩ halike, ?_⟩
      exact NoCostlier.append (.field label below _) hcost
    | replaced hfragment _ _ => cases hfragment
  | fragment selection rest inner fields hfragment hinner hrest ihinner ih =>
    -- A fragment that is kept: selections are replaced inside it, or in the definition it names.
    have hkept (other : Selection) (hother : other.isField = false)
        (hexpansion : Inlined fragments (expansion fragments selection) (expansion table other))
        (behind : List Selection) (hbehind : Inlined fragments rest behind) :
        ∃ others, Inlines table (other :: behind) others ∧
          List.Forall₂ (FieldInlined fragments) (inner ++ fields) others ∧
          NoCostlier fragments table (selection :: rest) (other :: behind) := by
      obtain ⟨innerOthers, hinnerOthers, hinnerAlike, hinnerCost⟩ := ihinner hexpansion
      obtain ⟨others, hothers, halike, hcost⟩ := ih hbehind
      refine ⟨_, inlines_of_expansion hother hinnerOthers hothers,
        List.rel_append hinnerAlike halike, ?_⟩
      exact NoCostlier.append (.kept hfragment hother hinnerCost) hcost
    cases h with
    | field _ _ _ => cases hfragment
    | inlineFragment hinner' hrest' => exact hkept (.inlineFragment _ _) rfl hinner' _ hrest'
    | spread hrest' => exact hkept (.spread _ _) rfl (htable _ _) _ hrest'
    | replaced _ hinner' hrest' =>
      -- What is put in the place of a fragment are selections that it stands for, a round earlier.
      obtain ⟨innerOthers, hinnerOthers, hinnerAlike, hinnerCost⟩ := ihinner hinner'
      obtain ⟨others, hothers, halike, hcost⟩ := ih hrest'
      refine ⟨_, hinnerOthers.append hothers, List.rel_append hinnerAlike halike, ?_⟩
      exact NoCostlier.append (.replaced hfragment hinnerCost) hcost

/-! ## One level -/

/-- Where the fields of a list can be collected, those of a replaced list can be collected with
the same budget or a larger one, and no less is left of it. -/
theorem outcome_collect_inlined {selections inlined : List Selection}
    (htable : TablesInlined fragments table) (h : Inlined fragments selections inlined)
    {rounds budget larger left : ℕ} {fields : List SelectedField} (hle : budget ≤ larger)
    (hcollect : (collect fragments rounds budget selections).outcome = .ok (fields, left)) :
    ∃ others more, (collect table rounds larger inlined).outcome = .ok (others, more) ∧
      List.Forall₂ (FieldInlined fragments) fields others ∧ left ≤ more := by
  obtain ⟨others, hothers, halike, hcost⟩ := h.inlines htable (inlines_of_collect hcollect)
  obtain ⟨hrounds, -, hspent⟩ := collect_eq_ok hcollect
  obtain ⟨cost, hcosts, hbudget⟩ := exists_spent hspent
  have hinlined : listCost table inlined ≤ cost := hcost.cost.trans_eq hcosts
  cases hresult : (collect table rounds larger inlined).outcome with
  | error error =>
    exfalso
    rcases collect_eq_error hresult with ⟨-, hmore⟩ | ⟨-, hmore⟩
    · exact not_le_of_gt hmore (hcost.rounds.trans hrounds)
    · have hlt : larger < cost := by exact_mod_cast hmore.trans_le hinlined
      omega
  | ok result =>
    obtain ⟨found, more⟩ := result
    have hfound : found = others := (inlines_of_collect hresult).unique hothers
    obtain ⟨-, -, hspent'⟩ := collect_eq_ok hresult
    obtain ⟨cost', hcosts', hlarger⟩ := exists_spent hspent'
    have hcheaper : cost' ≤ cost := by exact_mod_cast hcosts' ▸ hinlined
    exact ⟨found, more, rfl, hfound ▸ halike, by omega⟩

/-- What is below all of some fields, if fragments are replaced below each. -/
theorem FieldInlined.flatMap {fields others : List SelectedField}
    (h : List.Forall₂ (FieldInlined fragments) fields others) :
    Inlined fragments (fields.flatMap SelectedField.selections)
        (others.flatMap SelectedField.selections) ∧
      (fields.flatMap SelectedField.selections ≠ [] →
        others.flatMap SelectedField.selections ≠ []) := by
  induction h with
  | nil => exact ⟨.nil, id⟩
  | cons hfield _ ih =>
    refine ⟨hfield.below.append ih.1, ?_⟩
    simp only [List.flatMap_cons, ne_eq, List.append_eq_nil_iff, not_and_or]
    exact Or.imp hfield.some ih.2

/-- What is merged of fields differs no more than the fields. -/
theorem fieldInlined_merge? {fields others : List SelectedField}
    (h : List.Forall₂ (FieldInlined fragments) fields others) (identity : String × String) :
    Option.Rel (FieldInlined fragments) (merge? fields identity) (merge? others identity) := by
  have hsame : List.Forall₂ (FieldInlined fragments) (SelectedField.ofIdentity identity fields)
      (SelectedField.ofIdentity identity others) := by
    refine List.rel_filter (fun field other hfield => ?_) h
    simp only [hfield.label]
  unfold merge?
  generalize SelectedField.ofIdentity identity fields = found at hsame ⊢
  generalize SelectedField.ofIdentity identity others = found' at hsame ⊢
  cases hsame with
  | nil => exact .none
  | cons hfirst hrest =>
    obtain ⟨hbelow, hsome⟩ := FieldInlined.flatMap (.cons hfirst hrest)
    exact .some ⟨hfirst.label, hbelow, hsome⟩

/-- What is merged of two lists of fields differs no more than the fields, one by one. -/
theorem fieldInlined_mergeFields {fields others : List SelectedField}
    (h : List.Forall₂ (FieldInlined fragments) fields others) :
    List.Forall₂ (FieldInlined fragments) (mergeFields fields) (mergeFields others) := by
  have hidentities : others.map SelectedField.identity = fields.map SelectedField.identity := by
    induction h with
    | nil => rfl
    | cons hfield _ ih =>
      rw [List.map_cons, List.map_cons, ih, SelectedField.identity, SelectedField.identity,
        hfield.label]
  rw [mergeFields_eq_filterMap, mergeFields_eq_filterMap, hidentities]
  refine List.rel_filterMap (fun identity other heq => ?_)
    (List.forall₂_same.mpr fun identity _ => (Eq.refl identity))
  subst heq
  exact fieldInlined_merge? h identity

/-! ## All levels -/

/-- If flattening what is below one field does not depend on replaced fragments, flattening what
is below some fields does not. -/
theorem outcome_nodes_inlined {depth : ℕ}
    (hlevel : ∀ {selections inlined : List Selection} {budget larger left : ℕ}
      {trees : List FieldNode}, Inlined fragments selections inlined → budget ≤ larger →
      (level fragments depth budget selections).outcome = .ok (trees, left) →
      ∃ more, (level table depth larger inlined).outcome = .ok (trees, more) ∧ left ≤ more)
    {fields others : List SelectedField} {budget larger left : ℕ} {trees : List FieldNode}
    (h : List.Forall₂ (FieldInlined fragments) fields others) (hle : budget ≤ larger)
    (hnodes : (nodes (level fragments depth) budget fields).outcome = .ok (trees, left)) :
    ∃ more, (nodes (level table depth) larger others).outcome = .ok (trees, more) ∧
      left ≤ more := by
  induction h generalizing budget larger trees with
  | nil =>
    cases hnodes
    exact ⟨larger, rfl, hle⟩
  | @cons field other fields others hfield _ ih =>
    have hempty : other.selections.isEmpty = field.selections.isEmpty := by
      rw [Bool.eq_iff_iff, List.isEmpty_iff, List.isEmpty_iff]
      refine ⟨fun hother => ?_, fun hnone => ?_⟩
      · by_contra hsome
        exact hfield.some hsome hother
      · have hbelow := hfield.below
        rw [hnone] at hbelow
        exact hbelow.eq_nil
    rw [nodes] at hnodes
    rw [nodes, hempty, hfield.label]
    split at hnodes
    · next hnone =>
      obtain ⟨⟨behind, last⟩, hbehind, hpure⟩ := Attempt.outcome_bind_eq_ok.mp hnodes
      cases hpure
      obtain ⟨more, hmore, hleft⟩ := ih hle hbehind
      rw [if_pos hnone]
      exact ⟨more, Attempt.outcome_bind_eq_ok.mpr ⟨_, hmore, rfl⟩, hleft⟩
    · next hsome =>
      obtain ⟨⟨children, spent⟩, hchildren, hnext⟩ := Attempt.outcome_bind_eq_ok.mp hnodes
      obtain ⟨⟨behind, last⟩, hbehind, hpure⟩ := Attempt.outcome_bind_eq_ok.mp hnext
      cases hpure
      -- The budget that is left behind the first field is the one that the others start from.
      obtain ⟨middle, hmiddle, hspent⟩ := hlevel hfield.below hle hchildren
      obtain ⟨more, hmore, hleft⟩ := ih hspent hbehind
      rw [if_neg hsome]
      refine ⟨more, Attempt.outcome_bind_eq_ok.mpr ⟨_, hmiddle, ?_⟩, hleft⟩
      exact Attempt.outcome_bind_eq_ok.mpr ⟨_, hmore, rfl⟩

/-- **A level is flattened to the same trees** if fragments are replaced, and no less is left of
the budget. -/
theorem outcome_level_inlined (htable : TablesInlined fragments table) {depth : ℕ}
    {selections inlined : List Selection} {budget larger left : ℕ} {trees : List FieldNode}
    (h : Inlined fragments selections inlined) (hle : budget ≤ larger)
    (hlevel : (level fragments depth budget selections).outcome = .ok (trees, left)) :
    ∃ more, (level table depth larger inlined).outcome = .ok (trees, more) ∧ left ≤ more := by
  induction depth generalizing selections inlined budget larger left trees with
  | zero => cases hlevel
  | succ depth ih =>
    obtain ⟨⟨fields, spent⟩, hcollect, hnodes⟩ := Attempt.outcome_bind_eq_ok.mp hlevel
    obtain ⟨others, middle, hothers, halike, hspent⟩ :=
      outcome_collect_inlined htable h hle hcollect
    obtain ⟨more, hmore, hleft⟩ :=
      outcome_nodes_inlined ih (fieldInlined_mergeFields halike) hspent hnodes
    exact ⟨more, Attempt.outcome_bind_eq_ok.mpr ⟨_, hothers, hmore⟩, hleft⟩

/-- If selections can be flattened, they have the same field trees behind the replacement. -/
theorem outcome_flatten_inlined (htable : TablesInlined fragments table)
    {selections inlined : List Selection} {trees : List FieldNode}
    (h : Inlined fragments selections inlined)
    (hflatten : (flatten fragments selections).outcome = .ok trees) :
    (flatten table inlined).outcome = .ok trees := by
  obtain ⟨⟨found, left⟩, hlevel, hpure⟩ := Attempt.outcome_bind_eq_ok.mp hflatten
  cases hpure
  obtain ⟨more, hmore, -⟩ := outcome_level_inlined htable h le_rfl hlevel
  exact Attempt.outcome_bind_eq_ok.mpr ⟨_, hmore, rfl⟩

/-! ## Documents -/

/-- A search in a list finds the same in front of an element and behind it, whatever the element
is replaced by, as long as the search takes both or neither. -/
theorem find?_replaced {α : Type} {test : α → Bool} {element new : α}
    (htest : test new = test element) (front back : List α) :
    (front ++ new :: back).find? test = (front ++ element :: back).find? test ∨
      (front ++ element :: back).find? test = some element ∧
        (front ++ new :: back).find? test = some new := by
  rw [List.find?_append, List.find?_append, List.find?_cons, List.find?_cons, htest]
  cases front.find? test with
  | some found => exact .inl rfl
  | none =>
    cases test element with
    | true => exact .inr ⟨rfl, rfl⟩
    | false => exact .inl rfl

/-- The fragments of a document may differ in one definition. -/
theorem tablesInlined_of_fragment {front back : Fragments} {fragment : Fragment}
    {inlined : List Selection}
    (h : Inlined (front ++ fragment :: back) fragment.selections inlined) :
    TablesInlined (front ++ fragment :: back)
      (front ++ { fragment with selections := inlined } :: back) := by
  intro name position
  have hfound : Fragments.named? (front ++ { fragment with selections := inlined } :: back) name =
        Fragments.named? (front ++ fragment :: back) name ∨
      Fragments.named? (front ++ fragment :: back) name = some fragment ∧
        Fragments.named? (front ++ { fragment with selections := inlined } :: back) name =
          some { fragment with selections := inlined } := by
    refine find?_replaced ?_ front back
    rfl
  rw [expansion, expansion]
  rcases hfound with hsame | ⟨hfragment, hnew⟩
  · rw [hsame]
    cases Fragments.named? (front ++ fragment :: back) name with
    | none => exact .nil
    | some found => exact Inlined.refl _ _
  · rw [hfragment, hnew]
    exact h

namespace Document

/-- An operation adds nothing to the fragments of a document. -/
theorem fragmentTable_operation (front back : List Definition) (operation : Operation) :
    fragmentTable ⟨front ++ .operation operation :: back⟩ = fragmentTable ⟨front ++ back⟩ := by
  simp [fragmentTable, Document.fragments]

/-- A fragment stands in the table in front of those that are defined before it. -/
theorem fragmentTable_fragment (front back : List Definition) (fragment : Fragment) :
    fragmentTable ⟨front ++ .fragment fragment :: back⟩ =
      fragmentTable ⟨back⟩ ++ fragment :: fragmentTable ⟨front⟩ := by
  simp [fragmentTable, Document.fragments]

/-- An operation stands among the operations in the place of its definition. -/
theorem operations_operation (front back : List Definition) (operation : Operation) :
    operations ⟨front ++ .operation operation :: back⟩ =
      operations ⟨front⟩ ++ operation :: operations ⟨back⟩ := by
  simp [operations]

/-- A fragment adds nothing to the operations of a document. -/
theorem operations_fragment (front back : List Definition) (fragment : Fragment) :
    operations ⟨front ++ .fragment fragment :: back⟩ = operations ⟨front ++ back⟩ := by
  simp [operations]

/-- The operation of a name has the new selections if it is the one that is changed, and is as
before otherwise. -/
theorem operation?_replaced (operation : Operation) (inlined : List Selection)
    (front back : List Definition) (name : Option String) :
    operation? ⟨front ++ .operation { operation with selections := inlined } :: back⟩ name =
        operation? ⟨front ++ .operation operation :: back⟩ name ∨
      operation? ⟨front ++ .operation operation :: back⟩ name = some operation ∧
        operation? ⟨front ++ .operation { operation with selections := inlined } :: back⟩ name =
          some { operation with selections := inlined } := by
  unfold operation?
  rw [operations_operation, operations_operation]
  cases name with
  | some name =>
    refine find?_replaced ?_ _ _
    rfl
  | none =>
    cases operations ⟨front⟩ with
    | nil => exact .inr ⟨rfl, rfl⟩
    | cons first rest => exact .inl rfl

variable {document modified : Document}

/-- Spreads stand for the same in both documents, but for the fragment that is replaced. -/
theorem InlinesOnce.tables (h : document.InlinesOnce modified) :
    TablesInlined document.fragmentTable modified.fragmentTable := by
  cases h with
  | operation _ =>
    intro name position
    rw [fragmentTable_operation, fragmentTable_operation]
    exact Inlined.refl _ _
  | fragment h =>
    have hinlined := h.inlined
    rw [fragmentTable_fragment] at hinlined
    rw [fragmentTable_fragment, fragmentTable_fragment]
    exact tablesInlined_of_fragment hinlined

/-- The operation of some name is the same in both documents, but for the fragment that is
replaced. -/
theorem InlinesOnce.operation? (h : document.InlinesOnce modified) (name : Option String) :
    modified.operation? name = document.operation? name ∨
      ∃ operation inlined, document.operation? name = some operation ∧
        modified.operation? name = some { operation with selections := inlined } ∧
        Inlined document.fragmentTable operation.selections inlined := by
  cases h with
  | @operation front back operation inlined h =>
    rcases operation?_replaced operation inlined front back name with hsame | ⟨hfound, hnew⟩
    · exact .inl hsame
    · exact .inr ⟨operation, inlined, hfound, hnew, h.inlined⟩
  | fragment _ =>
    left
    unfold Document.operation?
    rw [operations_fragment, operations_fragment]

end Document

/-- Operations that differ in their selections only, and have the same field trees, have the same
data. -/
theorem Bridge.outcome_parseOperationData_congr (bridge : Bridge) {document modified : Document}
    {operation : Operation} {inlined : List Selection} {nodes : List FieldNode}
    (hnodes : (flatten document.fragmentTable operation.selections).outcome = .ok nodes)
    (hinlined : (flatten modified.fragmentTable inlined).outcome = .ok nodes) (data : Json) :
    (bridge.parseOperationData modified { operation with selections := inlined } data).outcome =
      (bridge.parseOperationData document operation data).outcome := by
  unfold parseOperationData
  cases (bridge.schema.root? operation.kind).bind TypeDef.objectFields? with
  | none => rfl
  | some fields =>
    cases data with
    | object members =>
      simp only [Attempt.outcome_bind, Attempt.outcome_mapError, hnodes, hinlined]
    | _ => rfl

/-- **Writing a fragment out by hand changes nothing.**  Let one fragment of a document, an inline
fragment or the spread of a fragment that is defined, be replaced by the selections that it stands
for, wherever it stands.  Selections that can be flattened in the document have the same field
trees in the new one, whether the fragment that is replaced is among them or not.  So an operation
that can be flattened yields the same data of every response. -/
theorem inlined_fragment {document modified : Document} (h : document.InlinesOnce modified) :
    (∀ selections inlined nodes,
      inlined = selections ∨ InlinesOnce document.fragmentTable selections inlined →
      (flatten document.fragmentTable selections).outcome = .ok nodes →
      (flatten modified.fragmentTable inlined).outcome = .ok nodes) ∧
    ∀ (bridge : Bridge) (operationName : Option String),
      (∀ operation, document.operation? operationName = some operation →
        ∃ nodes, (flatten document.fragmentTable operation.selections).outcome = .ok nodes) →
      ∀ data, (bridge.parseData modified operationName data).outcome =
        (bridge.parseData document operationName data).outcome := by
  constructor
  · intro selections inlined nodes hinlined hnodes
    rcases hinlined with rfl | honce
    · exact outcome_flatten_inlined h.tables (Inlined.refl _ _) hnodes
    · exact outcome_flatten_inlined h.tables honce.inlined hnodes
  · intro bridge operationName hflatten data
    unfold Bridge.parseData
    split
    · rfl
    · rcases h.operation? operationName with hsame | ⟨operation, inlined, hfound, hnew, hinlined⟩
      · rw [hsame]
        cases hoperation : document.operation? operationName with
        | none => rfl
        | some operation =>
          obtain ⟨nodes, hnodes⟩ := hflatten operation hoperation
          have hkept := outcome_flatten_inlined h.tables (Inlined.refl _ _) hnodes
          exact bridge.outcome_parseOperationData_congr hnodes hkept data
      · obtain ⟨nodes, hnodes⟩ := hflatten operation hfound
        rw [hfound, hnew]
        have hreplaced := outcome_flatten_inlined h.tables hinlined hnodes
        exact bridge.outcome_parseOperationData_congr hnodes hreplaced data

/-- The fragment `fragment Coated on Cat { fur: coat }`. -/
def coatedFragment : Fragment where
  name := "Coated"
  condition := "Cat"
  selections := [.field ⟨some "fur", "coat"⟩ []]
  position := ⟨1, 1⟩

/-- The operation `{ all: pets { __typename ... on Cat { ...Coated } } }`. -/
def nestedOperation : Operation where
  kind := .query
  name := none
  variableDefinitions := []
  selections :=
    [.field ⟨some "all", "pets"⟩
      [.field ⟨none, "__typename"⟩ [], .inlineFragment (some "Cat") [.spread "Coated" ⟨2, 1⟩]]]

/-- The same operation without the inline fragment. -/
def spreadOperation : Operation :=
  { nestedOperation with
    selections :=
      [.field ⟨some "all", "pets"⟩ [.field ⟨none, "__typename"⟩ [], .spread "Coated" ⟨2, 1⟩]] }

/-- An inline fragment around a spread is written out: the field trees and the data stay the
same. -/
theorem inlined_fragment_coated :
    Document.InlinesOnce ⟨[.operation nestedOperation, .fragment coatedFragment]⟩
        ⟨[.operation spreadOperation, .fragment coatedFragment]⟩ ∧
      (flatten [coatedFragment] nestedOperation.selections).outcome = .ok petNodes ∧
      (flatten [coatedFragment] spreadOperation.selections).outcome = .ok petNodes ∧
      (petBridge.parseData ⟨[.operation spreadOperation, .fragment coatedFragment]⟩ none
        (.object petData)).outcome =
          (petBridge.parseData ⟨[.operation nestedOperation, .fragment coatedFragment]⟩ none
            (.object petData)).outcome := by
  have hbelow : InlinesOnce [coatedFragment]
      [.field ⟨none, "__typename"⟩ [], .inlineFragment (some "Cat") [.spread "Coated" ⟨2, 1⟩]]
      [.field ⟨none, "__typename"⟩ [], .spread "Coated" ⟨2, 1⟩] :=
    @InlinesOnce.here _ [.field ⟨none, "__typename"⟩ []] []
      (.inlineFragment (some "Cat") [.spread "Coated" ⟨2, 1⟩]) rfl (List.cons_ne_nil _ _)
  have hselections : InlinesOnce [coatedFragment] nestedOperation.selections
      spreadOperation.selections :=
    @InlinesOnce.field _ [] [] _ _ _ hbelow
  have honce : Document.InlinesOnce ⟨[.operation nestedOperation, .fragment coatedFragment]⟩
      ⟨[.operation spreadOperation, .fragment coatedFragment]⟩ :=
    @Document.InlinesOnce.operation [] [.fragment coatedFragment] nestedOperation _ hselections
  have hnested : (flatten [coatedFragment] nestedOperation.selections).outcome = .ok petNodes := rfl
  obtain ⟨htrees, hdata⟩ := inlined_fragment honce
  refine ⟨honce, hnested, htrees _ _ _ (.inr hselections) hnested, ?_⟩
  refine hdata petBridge none ?_ (.object petData)
  rintro _ ⟨⟩
  exact ⟨petNodes, hnested⟩

/-- An empty fragment cannot be left out in this way. -/
example :
    (flatten [] [.field ⟨none, "pet"⟩ [.inlineFragment none []]]).outcome =
        .ok [.branch ⟨none, "pet"⟩ []] ∧
      (flatten [] [.field ⟨none, "pet"⟩ []]).outcome = .ok [.leaf ⟨none, "pet"⟩] :=
  ⟨rfl, rfl⟩

end EnumBridge
