import EnumBridge.Proofs.FieldGroup
import Mathlib.Data.ENat.BigOperators
import Mathlib.Order.CompletePartialOrder

/-!
# How much there is to expand

What it takes to replace the fragments of some selections, measured as if there were no limits
to it.  A list may need rounds without end, and lists may be met on level after level without
end, so the measures are numbers or infinity.

`roundsNeeded` counts the rounds of one list until only fields are left, and `listCost` the
selections that these rounds produce.  `listsAt` holds the lists met at a depth: at depth 0 the
selections themselves, and one level below a list, for every group of its fields that has
selections, those of the whole group.  `overallCost` is the cost of all of them together.

Each measure is determined by what one round does (`roundsNeeded_of_not_settled`,
`listCost_eq`), or one level (`overallCost_eq`).
-/

set_option autoImplicit false

namespace EnumBridge

/-- The sum of infinitely many numbers. -/
noncomputable def series (terms : ℕ → ℕ∞) : ℕ∞ := ⨆ n, ∑ i ∈ Finset.range n, terms i

/-- The sums of the first numbers of a series do not decrease. -/
theorem monotone_partialSums (terms : ℕ → ℕ∞) :
    Monotone fun n => ∑ i ∈ Finset.range n, terms i := by
  intro m n h
  exact Finset.sum_le_sum_of_subset (Finset.range_mono h)

/-- The first number of a sum may be taken out. -/
theorem series_eq (terms : ℕ → ℕ∞) :
    series terms = terms 0 + series fun n => terms (n + 1) := by
  have hshift : series terms = ⨆ n, ∑ i ∈ Finset.range (n + 1), terms i :=
    ((monotone_partialSums terms).iSup_nat_add 1).symm
  rw [hshift, series, ENat.add_iSup]
  refine iSup_congr fun n => ?_
  rw [Finset.sum_range_succ', add_comm]

/-- Nothing, however often it is added, is nothing. -/
theorem series_zero : series (fun _ => 0) = 0 := by
  simp [series]

/-- Two series may be summed together or each by itself. -/
theorem series_add (f g : ℕ → ℕ∞) : series (fun n => f n + g n) = series f + series g := by
  simp only [series, Finset.sum_add_distrib]
  exact (ENat.iSup_add_iSup_of_monotone (monotone_partialSums f) (monotone_partialSums g)).symm

/-- Any finite number of series may be summed together or each by itself. -/
theorem series_sum {α : Type} (items : List α) (f : α → ℕ → ℕ∞) :
    series (fun n => (items.map fun item => f item n).sum) =
      (items.map fun item => series (f item)).sum := by
  induction items with
  | nil => exact series_zero
  | cons item rest ih =>
    simp only [List.map_cons, List.sum_cons]
    rw [series_add, ih]

namespace Flatten

variable (fragments : Fragments)

/-! ## One list -/

/-- No fragment is left in a list. -/
def Settled (selections : List Selection) : Prop :=
  ∀ selection ∈ selections, selection.isField = true

/-- A list after some rounds of expansion. -/
def afterRounds (selections : List Selection) : ℕ → List Selection
  | 0 => selections
  | rounds + 1 => afterRounds (expand fragments selections) rounds

/-- How many rounds of expansion it takes until only fields are left. -/
noncomputable def roundsNeeded (selections : List Selection) : ℕ∞ :=
  ⨅ (rounds : ℕ) (_ : Settled (afterRounds fragments selections rounds)), (rounds : ℕ∞)

/-- The fields that are left when the rounds end; if they never end, there are none. -/
noncomputable def fieldsLeft (selections : List Selection) : List SelectedField :=
  if roundsNeeded fragments selections = ⊤ then []
  else fieldsOf (afterRounds fragments selections (roundsNeeded fragments selections).toNat)

/-- How many selections one round produces: those that its fragments stand for. -/
def produced (selections : List Selection) : ℕ :=
  ((selections.filter fun selection => !selection.isField).flatMap (expansion fragments)).length

/-- How many selections the rounds of a list produce, all of them together. -/
noncomputable def listCost (selections : List Selection) : ℕ∞ :=
  series fun round => produced fragments (afterRounds fragments selections round)

variable {fragments} {selections : List Selection}

/-- The test whether all selections are fields tells whether no fragment is left. -/
theorem all_isField_iff : selections.all Selection.isField = true ↔ Settled selections :=
  List.all_eq_true

/-- Fields stay as they are. -/
theorem expand_of_settled (h : Settled selections) : expand fragments selections = selections := by
  induction selections with
  | nil => rfl
  | cons selection rest ih =>
    obtain ⟨hfield, hrest⟩ := List.forall_mem_cons.mp h
    have htail := ih hrest
    rw [expand] at htail ⊢
    rw [List.flatMap_cons, htail]
    cases selection with
    | field label below => rfl
    | inlineFragment _ _ => cases hfield
    | spread _ _ => cases hfield

/-- Where no fragment is left, rounds change nothing. -/
theorem afterRounds_of_settled (h : Settled selections) (rounds : ℕ) :
    afterRounds fragments selections rounds = selections := by
  induction rounds with
  | zero => rfl
  | succ rounds ih => rw [afterRounds, expand_of_settled h, ih]

/-- Where no fragment is left, no rounds are needed. -/
theorem roundsNeeded_of_settled (h : Settled selections) :
    roundsNeeded fragments selections = 0 := by
  have hzero : Settled (afterRounds fragments selections 0) := h
  have hle : roundsNeeded fragments selections ≤ (0 : ℕ) := iInf₂_le 0 hzero
  simpa using hle

/-- As long as a fragment is left, one more round is needed than behind it. -/
theorem roundsNeeded_of_not_settled (h : ¬ Settled selections) :
    roundsNeeded fragments selections =
      roundsNeeded fragments (expand fragments selections) + 1 := by
  apply le_antisymm
  · simp only [roundsNeeded, ENat.iInf_add]
    refine le_iInf₂ fun rounds hsettled => ?_
    have hnext : Settled (afterRounds fragments selections (rounds + 1)) := hsettled
    exact_mod_cast iInf₂_le (rounds + 1) hnext
  · refine le_iInf₂ fun rounds hsettled => ?_
    cases rounds with
    | zero => exact absurd hsettled h
    | succ rounds =>
      have hle : roundsNeeded fragments (expand fragments selections) ≤ rounds :=
        iInf₂_le rounds hsettled
      push_cast
      exact add_le_add_left hle 1

/-- Where no fragment is left, the fields are those that stand there. -/
theorem fieldsLeft_of_settled (h : Settled selections) :
    fieldsLeft fragments selections = fieldsOf selections := by
  have hzero : roundsNeeded fragments selections = 0 := roundsNeeded_of_settled h
  rw [fieldsLeft, if_neg (by rw [hzero]; exact ENat.zero_ne_top), hzero]
  rfl

/-- A round keeps the fields that are left in the end. -/
theorem fieldsLeft_of_not_settled (h : ¬ Settled selections) :
    fieldsLeft fragments selections = fieldsLeft fragments (expand fragments selections) := by
  have hrounds : roundsNeeded fragments selections =
      roundsNeeded fragments (expand fragments selections) + 1 := roundsNeeded_of_not_settled h
  by_cases htop : roundsNeeded fragments (expand fragments selections) = ⊤
  · have hself : roundsNeeded fragments selections = ⊤ := by rw [hrounds, htop, top_add]
    rw [fieldsLeft, fieldsLeft, if_pos hself, if_pos htop]
  · obtain ⟨rounds, hsome⟩ := ENat.ne_top_iff_exists.mp htop
    have hself : roundsNeeded fragments selections = (rounds + 1 : ℕ) := by
      rw [hrounds, ← hsome]
      rfl
    rw [fieldsLeft, fieldsLeft, if_neg htop, hself, ← hsome, if_neg (ENat.natCast_ne_top _)]
    rfl

/-- Where no fragment is left, a round produces nothing. -/
theorem produced_of_settled (h : Settled selections) : produced fragments selections = 0 := by
  have hnone : selections.filter (fun selection => !selection.isField) = [] := by
    refine List.filter_eq_nil_iff.mpr fun selection hmem => ?_
    simp [h selection hmem]
  rw [produced, hnone]
  rfl

/-- What the expansion of a list is charged is what it produces. -/
theorem totalCost_eq (selections : List Selection) :
    totalCost fragments selections = produced fragments selections := by
  have hsum : totalCost fragments selections = (selections.map (cost fragments)).sum := by
    rw [totalCost, List.sum_eq_foldl, List.foldl_map]
  rw [hsum]
  clear hsum
  induction selections with
  | nil => rfl
  | cons selection rest ih =>
    rw [List.map_cons, List.sum_cons, ih, produced, produced, List.filter_cons, cost]
    cases selection.isField <;> simp

/-- A list without fragments costs nothing. -/
theorem listCost_of_settled (h : Settled selections) : listCost fragments selections = 0 := by
  simp only [listCost, afterRounds_of_settled h, produced_of_settled h, Nat.cast_zero]
  exact series_zero

/-- The cost of a list is that of the first round and of those behind it. -/
theorem listCost_eq (selections : List Selection) :
    listCost fragments selections =
      produced fragments selections + listCost fragments (expand fragments selections) := by
  rw [listCost, series_eq]
  rfl

/-! ## A list in parts -/

/-- A number of rounds is enough if no fragment is left behind that many. -/
theorem roundsNeeded_le_iff {rounds : ℕ} :
    roundsNeeded fragments selections ≤ rounds ↔
      Settled (afterRounds fragments selections rounds) := by
  induction rounds generalizing selections with
  | zero =>
    by_cases hsettled : Settled selections
    · simp [roundsNeeded_of_settled hsettled, afterRounds, hsettled]
    · simp [roundsNeeded_of_not_settled hsettled, afterRounds, hsettled]
  | succ rounds ih =>
    by_cases hsettled : Settled selections
    · simp [roundsNeeded_of_settled hsettled, afterRounds_of_settled hsettled, hsettled]
    · rw [roundsNeeded_of_not_settled hsettled, afterRounds, ← ih]
      push_cast
      exact ENat.add_le_add_iff_right ENat.one_ne_top

/-- The parts of a list are expanded independently of one another. -/
theorem afterRounds_append (selections more : List Selection) (rounds : ℕ) :
    afterRounds fragments (selections ++ more) rounds =
      afterRounds fragments selections rounds ++ afterRounds fragments more rounds := by
  induction rounds generalizing selections more with
  | zero => rfl
  | succ rounds ih =>
    have hexpand : expand fragments (selections ++ more) =
        expand fragments selections ++ expand fragments more := List.flatMap_append
    rw [afterRounds, hexpand, ih]
    rfl

/-- A list needs the rounds of that part which needs most. -/
theorem roundsNeeded_append (selections more : List Selection) :
    roundsNeeded fragments (selections ++ more) =
      max (roundsNeeded fragments selections) (roundsNeeded fragments more) := by
  refine eq_of_forall_ge_iff fun bound => ?_
  induction bound using ENat.recTopCoe with
  | top => simp
  | coe rounds =>
    rw [max_le_iff, roundsNeeded_le_iff, roundsNeeded_le_iff, roundsNeeded_le_iff,
      afterRounds_append]
    exact List.forall_mem_append

/-- A list costs what its parts cost together. -/
theorem listCost_append (selections more : List Selection) :
    listCost fragments (selections ++ more) =
      listCost fragments selections + listCost fragments more := by
  have hproduced (first second : List Selection) : produced fragments (first ++ second) =
      produced fragments first + produced fragments second := by
    simp only [produced, List.filter_append, List.flatMap_append, List.length_append]
  simp only [listCost, afterRounds_append, hproduced, Nat.cast_add, series_add]

/-- A single selection is expanded into what it stands for. -/
theorem expand_singleton (selection : Selection) :
    expand fragments [selection] = expansion fragments selection := List.flatMap_singleton ..

/-- A fragment takes one round more than what it stands for. -/
theorem roundsNeeded_fragment {selection : Selection} (h : selection.isField = false) :
    roundsNeeded fragments [selection] =
      roundsNeeded fragments (expansion fragments selection) + 1 := by
  have hsettled : ¬ Settled [selection] := by simp [Settled, h]
  rw [roundsNeeded_of_not_settled hsettled, expand_singleton]

/-- A fragment costs the selections that it stands for, and what they cost. -/
theorem listCost_fragment {selection : Selection} (h : selection.isField = false) :
    listCost fragments [selection] =
      (expansion fragments selection).length +
        listCost fragments (expansion fragments selection) := by
  have hproduced : produced fragments [selection] = (expansion fragments selection).length := by
    simp [produced, h]
  rw [listCost_eq, expand_singleton, hproduced]

/-! ## All lists -/

variable (fragments)

/-- The lists that are met right below a list: for every group of its fields that has
selections, those of the whole group. -/
noncomputable def listsBelow (selections : List Selection) : List (List Selection) :=
  ((groups (fieldsLeft fragments selections)).map FieldGroup.selections).filter
    fun below => !below.isEmpty

/-- The lists that are met at a depth below a list, each as often as it is met. -/
noncomputable def listsAt : ℕ → List Selection → List (List Selection)
  | 0, selections => [selections]
  | depth + 1, selections => (listsBelow fragments selections).flatMap (listsAt depth)

/-- The cost of all lists, at whatever depth they are met. -/
noncomputable def overallCost (selections : List Selection) : ℕ∞ :=
  series fun depth => ((listsAt fragments depth selections).map (listCost fragments)).sum

variable {fragments}

/-- The cost of all lists is that of the list itself and of all that are met below it. -/
theorem overallCost_eq (selections : List Selection) :
    overallCost fragments selections =
      listCost fragments selections +
        ((listsBelow fragments selections).map (overallCost fragments)).sum := by
  have hbelow (depth : ℕ) :
      ((listsAt fragments (depth + 1) selections).map (listCost fragments)).sum =
        ((listsBelow fragments selections).map fun below =>
          ((listsAt fragments depth below).map (listCost fragments)).sum).sum := by
    rw [listsAt, List.map_flatMap, List.flatMap_def, List.sum_flatten, List.map_map]
    rfl
  rw [overallCost, series_eq]
  simp only [hbelow]
  rw [series_sum, listsAt, List.map_singleton, List.sum_singleton]
  rfl

/-- Where no list is met at a depth, none is met below it. -/
theorem listsAt_eq_nil {depth : ℕ} (h : listsAt fragments depth selections = []) {deeper : ℕ}
    (hle : depth ≤ deeper) : listsAt fragments deeper selections = [] := by
  induction depth generalizing selections deeper with
  | zero => cases h
  | succ depth ih =>
    obtain ⟨deeper, rfl⟩ := Nat.exists_eq_add_of_le' (Nat.one_le_of_lt hle)
    rw [listsAt, List.flatMap_eq_nil_iff] at h ⊢
    exact fun below hmem => ih (h below hmem) (Nat.le_of_succ_le_succ hle)

end Flatten

end EnumBridge
