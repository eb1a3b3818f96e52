import EnumBridge.Proofs.FlattenLimits
import EnumBridge.Proofs.FlattenedTree

/-!
# How large field trees may be

Only the selections that expansions produce are taken from the budget.  What is written below a
field that a fragment brings in comes for free when the next level is flattened, so the budget
alone does not bound the trees.  What bounds them is the number of fields that are written in the
selections still to be flattened, together with the budget that is left, each selection of the
budget counted as the `most` fields that any selection of a fragment holds:

  `writtenFields selections + most * budget`

A round of expansion, merging, and the step from a list to the lists below it do not raise this
number, and every tree takes one field off it (`sizeAll_add_le_of_level`).

The main statement is `flatten_size_le`.
-/

set_option autoImplicit false

namespace EnumBridge

mutual

/-- How many fields are written in a selection, at whatever depth.  Spreads are not followed. -/
def Selection.fieldCount : Selection → Nat
  | .field _ below => writtenFields below + 1
  | .inlineFragment _ inner => writtenFields inner
  | .spread _ _ => 0

/-- How many fields are written in some selections, at whatever depth. -/
def Selection.writtenFields : List Selection → Nat
  | [] => 0
  | selection :: rest => selection.fieldCount + writtenFields rest

end

/-- The largest number of fields that are written in one selection of a fragment. -/
def Document.largestSelection (document : Document) : Nat :=
  ((document.fragments.flatMap Fragment.selections).map Selection.fieldCount).foldr max 0

namespace FieldNode

mutual

/-- How many nodes a tree has. -/
def size : FieldNode → Nat
  | .leaf _ => 1
  | .branch _ children => sizeAll children + 1

/-- How many nodes some trees have. -/
def sizeAll : List FieldNode → Nat
  | [] => 0
  | node :: rest => node.size + sizeAll rest

end

mutual

/-- How many lists of trees are nested in a tree. -/
def levelsBelow : FieldNode → Nat
  | .leaf _ => 0
  | .branch _ children => levels children

/-- How many lists of trees are nested in each other, the outermost among them. -/
def levels : List FieldNode → Nat
  | [] => 1
  | node :: rest => max (node.levelsBelow + 1) (levels rest)

end

end FieldNode

open Selection FieldNode SelectedField

/-! ## Fields that are written -/

/-- The parts of a list have the fields that are written in it. -/
theorem writtenFields_append (selections more : List Selection) :
    writtenFields (selections ++ more) = writtenFields selections + writtenFields more := by
  induction selections with
  | nil => simp [writtenFields]
  | cons selection rest ih => rw [List.cons_append, writtenFields, writtenFields, ih, add_assoc]

/-- If no selection has more than some number of fields, a list has no more than that times its
length. -/
theorem writtenFields_le {selections : List Selection} {most : Nat}
    (h : ∀ selection ∈ selections, selection.fieldCount ≤ most) :
    writtenFields selections ≤ most * selections.length := by
  induction selections with
  | nil => exact Nat.zero_le _
  | cons selection rest ih =>
    obtain ⟨hfirst, hrest⟩ := List.forall_mem_cons.mp h
    have hothers := ih hrest
    rw [writtenFields, List.length_cons, Nat.mul_succ]
    omega

/-- The fields that are still to be made into trees: each itself, and those written below it. -/
def fieldsToCome (fields : List SelectedField) : Nat :=
  (fields.map fun field => writtenFields field.selections + 1).sum

/-- The first field counts one, and what is written below it. -/
theorem fieldsToCome_cons (field : SelectedField) (rest : List SelectedField) :
    fieldsToCome (field :: rest) = writtenFields field.selections + 1 + fieldsToCome rest := by
  rw [fieldsToCome, List.map_cons, List.sum_cons]
  rfl

/-- Fields fall into those of one identity and the others. -/
theorem fieldsToCome_identity (identity : String × String) (fields : List SelectedField) :
    fieldsToCome (ofIdentity identity fields) + fieldsToCome (withoutIdentity identity fields) =
      fieldsToCome fields := by
  induction fields with
  | nil => rfl
  | cons field rest ih =>
    rw [fieldsToCome_cons, ← ih, ofIdentity, withoutIdentity, List.filter_cons, List.filter_cons]
    cases field.label.identity == identity
    · simp only [Bool.false_eq_true, Bool.not_false, if_false, if_true, fieldsToCome_cons]
      exact Nat.add_left_comm _ _ _
    · simp only [Bool.not_true, Bool.false_eq_true, if_false, if_true, fieldsToCome_cons]
      exact Nat.add_assoc _ _ _

/-- What is written below some fields is part of what is to come. -/
theorem writtenFields_flatMap_le (fields : List SelectedField) :
    writtenFields (fields.flatMap SelectedField.selections) ≤ fieldsToCome fields := by
  induction fields with
  | nil => exact Nat.zero_le _
  | cons field rest ih =>
    rw [List.flatMap_cons, writtenFields_append, fieldsToCome_cons]
    omega

namespace Flatten

variable {fragments : Fragments} {selections : List Selection}

/-- Merging keeps what is written below the fields, and leaves no more fields than there were. -/
theorem fieldsToCome_mergeFields_le (fields : List SelectedField) :
    fieldsToCome (mergeFields fields) ≤ fieldsToCome fields := by
  rw [mergeFields_eq]
  induction fields using groups.induct with
  | case1 => rw [groups_nil]; exact Nat.le_refl 0
  | case2 first rest ih =>
    have hbelow := writtenFields_flatMap_le (ofIdentity first.identity rest)
    have hsplit := fieldsToCome_identity first.identity rest
    have hmerged :
        writtenFields (FieldGroup.merged ⟨first, ofIdentity first.identity rest⟩).selections =
          writtenFields first.selections +
            writtenFields ((ofIdentity first.identity rest).flatMap SelectedField.selections) :=
      writtenFields_append _ _
    rw [groups_cons, List.map_cons, fieldsToCome_cons, fieldsToCome_cons, hmerged]
    omega

/-- Where no fragment is left, what is to come is what is written. -/
theorem fieldsToCome_fieldsOf (h : Settled selections) :
    fieldsToCome (fieldsOf selections) = writtenFields selections := by
  induction selections with
  | nil => rfl
  | cons selection rest ih =>
    obtain ⟨hfield, hrest⟩ := List.forall_mem_cons.mp h
    have hothers := ih hrest
    cases selection with
    | field label below =>
      rw [writtenFields, fieldCount, ← hothers]
      exact fieldsToCome_cons ⟨label, below⟩ (fieldsOf rest)
    | inlineFragment condition inner => cases hfield
    | spread name position => cases hfield

/-- A round produces what the first selection costs and what the others produce. -/
theorem produced_cons (selection : Selection) (rest : List Selection) :
    produced fragments (selection :: rest) =
      cost fragments selection + produced fragments rest := by
  rw [produced, produced, List.filter_cons, cost]
  cases selection.isField <;> simp

section Potential

variable {most : Nat}
  (hmost : ∀ fragment ∈ fragments, ∀ selection ∈ fragment.selections, selection.fieldCount ≤ most)

include hmost

/-- A fragment that is spread brings in fields, but no more than are paid for. -/
theorem writtenFields_expansion_le (selection : Selection) :
    writtenFields (expansion fragments selection) ≤
      selection.fieldCount + most * cost fragments selection := by
  cases selection with
  | field label below =>
    show (Selection.field label below).fieldCount + 0 ≤ _
    exact Nat.le_add_right _ _
  | inlineFragment condition inner => exact Nat.le_add_right _ _
  | spread name position =>
    rw [cost, fieldCount, expansion]
    cases hfragment : fragments.named? name with
    | none => exact Nat.zero_le _
    | some fragment =>
      have hmem : fragment ∈ fragments := List.mem_of_find?_eq_some hfragment
      have hle := writtenFields_le (hmost fragment hmem)
      simpa [Selection.isField] using hle

/-- A round of expansion brings in fields, but no more than are paid for. -/
theorem writtenFields_expand_le (selections : List Selection) :
    writtenFields (expand fragments selections) ≤
      writtenFields selections + most * produced fragments selections := by
  induction selections with
  | nil => exact Nat.zero_le _
  | cons selection rest ih =>
    have hfirst := writtenFields_expansion_le hmost selection
    rw [expand_cons, writtenFields_append, writtenFields, produced_cons, Nat.mul_add]
    omega

/-- The rounds of one list do not raise what is to come and what may still be paid for. -/
theorem fieldsToCome_add_le_of_collect {rounds budget left : Nat} {fields : List SelectedField}
    (h : (collect fragments rounds budget selections).outcome = .ok (fields, left)) :
    fieldsToCome fields + most * left ≤ writtenFields selections + most * budget := by
  by_cases hsettled : Settled selections
  · rw [outcome_collect_of_settled hsettled] at h
    cases h
    rw [fieldsToCome_fieldsOf hsettled]
  · induction rounds generalizing budget selections with
    | zero =>
      rw [outcome_collect_zero hsettled] at h
      cases h
    | succ rounds ih =>
      rw [outcome_collect_succ hsettled] at h
      split at h
      · next hle =>
        have hround := writtenFields_expand_le hmost selections
        obtain ⟨rest, rfl⟩ := Nat.exists_eq_add_of_le hle
        rw [Nat.add_sub_cancel_left] at h
        rw [Nat.mul_add]
        by_cases hnext : Settled (expand fragments selections)
        · rw [outcome_collect_of_settled hnext] at h
          cases h
          rw [fieldsToCome_fieldsOf hnext]
          omega
        · have hothers := ih h hnext
          omega
      · cases h

omit hmost in
/-- If flattening what is below one field takes its trees off what is to come, so does flattening
what is below some fields. -/
theorem sizeAll_add_le_of_nodes
    {below : Nat → List Selection → Attempt FlattenError (List FieldNode × Nat)}
    (hbelow : ∀ {budget left : Nat} {selections : List Selection} {trees : List FieldNode},
      (below budget selections).outcome = .ok (trees, left) →
        sizeAll trees + most * left ≤ writtenFields selections + most * budget)
    {fields : List SelectedField} {budget left : Nat} {trees : List FieldNode}
    (h : (nodes below budget fields).outcome = .ok (trees, left)) :
    sizeAll trees + most * left ≤ fieldsToCome fields + most * budget := by
  induction fields generalizing budget trees with
  | nil =>
    cases h
    exact Nat.le_refl _
  | cons field rest ih =>
    rw [nodes] at h
    rw [fieldsToCome_cons]
    split at h
    · obtain ⟨⟨others, last⟩, hothers, hpure⟩ := Attempt.outcome_bind_eq_ok.mp h
      cases hpure
      have hrest := ih hothers
      rw [sizeAll, size]
      omega
    · obtain ⟨⟨children, spent⟩, hchildren, hnext⟩ := Attempt.outcome_bind_eq_ok.mp h
      obtain ⟨⟨others, last⟩, hothers, hpure⟩ := Attempt.outcome_bind_eq_ok.mp hnext
      cases hpure
      have hfirst := hbelow hchildren
      have hrest := ih hothers
      rw [sizeAll, size]
      omega

/-- **The trees of a level** and what is left of the budget are paid for by the fields that are
written in the selections and the budget before. -/
theorem sizeAll_add_le_of_level {depth budget left : Nat} {trees : List FieldNode}
    (h : (level fragments depth budget selections).outcome = .ok (trees, left)) :
    sizeAll trees + most * left ≤ writtenFields selections + most * budget := by
  induction depth generalizing budget left selections trees with
  | zero => cases h
  | succ depth ih =>
    obtain ⟨⟨fields, spent⟩, hcollect, hnodes⟩ := Attempt.outcome_bind_eq_ok.mp h
    calc sizeAll trees + most * left
        ≤ fieldsToCome (mergeFields fields) + most * spent := sizeAll_add_le_of_nodes ih hnodes
      _ ≤ fieldsToCome fields + most * spent :=
          Nat.add_le_add_right (fieldsToCome_mergeFields_le fields) _
      _ ≤ writtenFields selections + most * budget := fieldsToCome_add_le_of_collect hmost hcollect

end Potential

/-- If what is below each field has a bounded number of levels, the trees of the fields have one
more at most. -/
theorem levels_le_of_nodes
    {below : Nat → List Selection → Attempt FlattenError (List FieldNode × Nat)} {depth : Nat}
    (hbelow : ∀ {budget left : Nat} {selections : List Selection} {trees : List FieldNode},
      (below budget selections).outcome = .ok (trees, left) → levels trees ≤ depth)
    {fields : List SelectedField} {budget left : Nat} {trees : List FieldNode}
    (h : (nodes below budget fields).outcome = .ok (trees, left)) : levels trees ≤ depth + 1 := by
  induction fields generalizing budget trees with
  | nil =>
    cases h
    exact Nat.le_add_left 1 depth
  | cons field rest ih =>
    rw [nodes] at h
    split at h
    · obtain ⟨⟨others, last⟩, hothers, hpure⟩ := Attempt.outcome_bind_eq_ok.mp h
      cases hpure
      exact Nat.max_le.mpr ⟨Nat.le_add_left 1 depth, ih hothers⟩
    · obtain ⟨⟨children, spent⟩, hchildren, hnext⟩ := Attempt.outcome_bind_eq_ok.mp h
      obtain ⟨⟨others, last⟩, hothers, hpure⟩ := Attempt.outcome_bind_eq_ok.mp hnext
      cases hpure
      exact Nat.max_le.mpr ⟨Nat.succ_le_succ (hbelow hchildren), ih hothers⟩

/-- The trees of a level that is flattened have no more levels than there may be. -/
theorem levels_le_of_level {depth budget left : Nat} {trees : List FieldNode}
    (h : (level fragments depth budget selections).outcome = .ok (trees, left)) :
    levels trees ≤ depth := by
  induction depth generalizing budget left selections trees with
  | zero => cases h
  | succ depth ih =>
    obtain ⟨⟨fields, spent⟩, -, hnodes⟩ := Attempt.outcome_bind_eq_ok.mp h
    exact levels_le_of_nodes ih hnodes

end Flatten

/-- No selection of a fragment of the document has more fields than the largest one. -/
theorem Document.fieldCount_le_largestSelection (document : Document) {fragment : Fragment}
    (hfragment : fragment ∈ document.fragmentTable) {selection : Selection}
    (hselection : selection ∈ fragment.selections) :
    selection.fieldCount ≤ document.largestSelection := by
  have hmem : selection.fieldCount ∈
      (document.fragments.flatMap Fragment.selections).map Selection.fieldCount :=
    List.mem_map_of_mem (List.mem_flatMap.mpr ⟨fragment, List.mem_reverse.mp hfragment, hselection⟩)
  exact List.le_max_of_le hmem (Nat.le_refl _)

/-- **Expansion cannot blow up the result.**  If selections are flattened, their trees have no more
nodes than there are fields written in the selections and, for each of the 100000 selections that
expansions may produce, as many as there are in the largest selection of a fragment.  They are
nested at most 128 levels deep. -/
theorem flatten_size_le (document : Document) {selections : List Selection}
    {nodes : List FieldNode}
    (h : (flatten document.fragmentTable selections).outcome = .ok nodes) :
    sizeAll nodes ≤ writtenFields selections + 100000 * document.largestSelection ∧
      levels nodes ≤ 128 := by
  obtain ⟨⟨trees, left⟩, hlevel, hpure⟩ := Attempt.outcome_bind_eq_ok.mp h
  cases hpure
  have hmost : ∀ fragment ∈ document.fragmentTable, ∀ selection ∈ fragment.selections,
      selection.fieldCount ≤ document.largestSelection := by
    intro fragment hfragment selection
    exact document.fieldCount_le_largestSelection hfragment
  have hsize := Flatten.sizeAll_add_le_of_level hmost hlevel
  refine ⟨?_, Flatten.levels_le_of_level hlevel⟩
  show sizeAll trees ≤ _
  rw [Nat.mul_comm, Flatten.maxSelections] at hsize
  omega

/-- A fragment with two fields is spread next to a field with one below it: one of the trees has
two nodes, the other two have one. -/
theorem flatten_size_le_pet :
    (flatten (Document.mk [.fragment namedFragment]).fragmentTable petSelections).outcome =
        .ok petTrees ∧
      sizeAll petTrees ≤ writtenFields petSelections +
        100000 * (Document.mk [.fragment namedFragment]).largestSelection ∧
      levels petTrees ≤ 128 :=
  have hflatten : (flatten (Document.mk [.fragment namedFragment]).fragmentTable
      petSelections).outcome = .ok petTrees := rfl
  ⟨hflatten, flatten_size_le _ hflatten⟩

end EnumBridge
