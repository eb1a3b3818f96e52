import EnumBridge.Proofs.ExpansionMeasure

/-!
# The limits of flattening

Flattening succeeds exactly within its three limits, and an error names a limit that really is
exceeded (`flatten_limits`).

The budget is handed on from list to list, so every statement about a part of the work says how
much of it is left.  A success has spent the cost of the lists met on the way (`level_eq_ok`).
Where the budget does not last, what was left of it is less than the cost of the lists that were
still to come (`level_eq_error`).
-/

set_option autoImplicit false

namespace EnumBridge

namespace Flatten

variable {fragments : Fragments} {selections : List Selection}

/-! ## One list -/

/-- Where no fragment is left, the fields are collected at no cost, whatever the limits. -/
theorem outcome_collect_of_settled (h : Settled selections) (rounds budget : ℕ) :
    (collect fragments rounds budget selections).outcome = .ok (fieldsOf selections, budget) := by
  unfold collect
  rw [if_pos (all_isField_iff.mpr h)]
  rfl

/-- Where a fragment is left and no round, collecting fields fails. -/
theorem outcome_collect_zero (h : ¬ Settled selections) (budget : ℕ) :
    (collect fragments 0 budget selections).outcome = .error .tooManyRounds := by
  unfold collect
  rw [if_neg (mt all_isField_iff.mp h)]
  rfl

/-- Where a fragment is left, a round is made and paid for, if the budget lasts, and the expanded
selections are collected. -/
theorem outcome_collect_succ (h : ¬ Settled selections) (rounds budget : ℕ) :
    (collect fragments (rounds + 1) budget selections).outcome =
      if produced fragments selections ≤ budget then
        (collect fragments rounds (budget - produced fragments selections)
          (expand fragments selections)).outcome
      else .error .tooManySelections := by
  rw [collect, if_neg (mt all_isField_iff.mp h), totalCost_eq]
  simp only [Attempt.outcome_bind, Attempt.outcome_report, Except.bind]
  split <;> rfl

/-- What is spent of a budget is a number. -/
theorem exists_spent {spent : ℕ∞} {left budget : ℕ} (h : spent + left = budget) :
    ∃ cost : ℕ, spent = cost ∧ cost + left = budget := by
  have hfinite : spent ≠ ⊤ := by
    rintro rfl
    rw [top_add] at h
    exact ENat.natCast_ne_top budget h.symm
  obtain ⟨cost, rfl⟩ := ENat.ne_top_iff_exists.mp hfinite
  exact ⟨cost, rfl, by exact_mod_cast h⟩

/-- What has been spent and what is left make up the budget; so where less is left than more
work needs, all of it needs more than the budget. -/
theorem lt_add_of_spent {spent more : ℕ∞} {left budget : ℕ} (hspent : spent + left = budget)
    (hmore : left < more) : budget < spent + more := by
  obtain ⟨cost, rfl, -⟩ := exists_spent hspent
  calc (budget : ℕ∞) = cost + left := hspent.symm
    _ < cost + more := (ENat.add_lt_add_iff_left (ENat.natCast_ne_top cost)).mpr hmore

/-- Where no fragment is left, the fields are collected within any limits: no rounds are needed and
nothing is taken from the budget. -/
theorem collect_eq_ok_of_settled (hsettled : Settled selections) {rounds budget left : ℕ}
    {fields : List SelectedField}
    (h : (collect fragments rounds budget selections).outcome = .ok (fields, left)) :
    roundsNeeded fragments selections ≤ rounds ∧ fields = fieldsLeft fragments selections ∧
      listCost fragments selections + left = budget := by
  rw [outcome_collect_of_settled hsettled] at h
  cases h
  rw [roundsNeeded_of_settled hsettled, fieldsLeft_of_settled hsettled,
    listCost_of_settled hsettled]
  exact ⟨bot_le, rfl, zero_add _⟩

/-- A list whose fields are collected needs no more rounds than there may be, and its cost is
taken from the budget. -/
theorem collect_eq_ok {rounds budget left : ℕ} {fields : List SelectedField}
    (h : (collect fragments rounds budget selections).outcome = .ok (fields, left)) :
    roundsNeeded fragments selections ≤ rounds ∧ fields = fieldsLeft fragments selections ∧
      listCost fragments selections + left = budget := by
  induction rounds generalizing budget selections with
  | zero =>
    by_cases hsettled : Settled selections
    · exact collect_eq_ok_of_settled hsettled h
    · rw [outcome_collect_zero hsettled] at h
      cases h
  | succ rounds ih =>
    by_cases hsettled : Settled selections
    · exact collect_eq_ok_of_settled hsettled h
    rw [outcome_collect_succ hsettled] at h
    split at h
    · next hle =>
      obtain ⟨hrounds, hfields, hcost⟩ := ih h
      rw [roundsNeeded_of_not_settled hsettled, fieldsLeft_of_not_settled hsettled, listCost_eq,
        add_assoc, hcost]
      refine ⟨?_, hfields, ?_⟩
      · push_cast
        exact add_le_add_left hrounds 1
      · exact_mod_cast Nat.add_sub_cancel' hle
    · cases h

/-- If collecting fields fails, the list needs more rounds than there may be, or costs more than
the budget. -/
theorem collect_eq_error {rounds budget : ℕ} {error : FlattenError}
    (h : (collect fragments rounds budget selections).outcome = .error error) :
    error = .tooManyRounds ∧ rounds < roundsNeeded fragments selections ∨
      error = .tooManySelections ∧ budget < listCost fragments selections := by
  by_cases hsettled : Settled selections
  · rw [outcome_collect_of_settled hsettled] at h
    cases h
  induction rounds generalizing budget selections with
  | zero =>
    rw [outcome_collect_zero hsettled] at h
    cases h
    rw [roundsNeeded_of_not_settled hsettled]
    exact .inl ⟨rfl, by simp⟩
  | succ rounds ih =>
    rw [outcome_collect_succ hsettled] at h
    rw [roundsNeeded_of_not_settled hsettled, listCost_eq]
    split at h
    · next hle =>
      by_cases hnext : Settled (expand fragments selections)
      · rw [outcome_collect_of_settled hnext] at h
        cases h
      · rcases ih h hnext with ⟨rfl, hrounds⟩ | ⟨rfl, hcost⟩
        · refine .inl ⟨rfl, ?_⟩
          push_cast
          exact (ENat.add_lt_add_iff_right ENat.one_ne_top).mpr hrounds
        · refine .inr ⟨rfl, lt_add_of_spent ?_ hcost⟩
          exact_mod_cast Nat.add_sub_cancel' hle
    · next hgt =>
      cases h
      have hlt : (budget : ℕ∞) < produced fragments selections := by
        exact_mod_cast Nat.lt_of_not_le hgt
      exact .inr ⟨rfl, hlt.trans_le le_self_add⟩

/-! ## Levels -/

/-- Within `depth` levels no list is left over, and every list is within the limit of rounds. -/
structure Fits (fragments : Fragments) (depth : ℕ) (selections : List Selection) : Prop where
  levels : listsAt fragments depth selections = []
  rounds : ∀ d, ∀ list ∈ listsAt fragments d selections, roundsNeeded fragments list ≤ maxRounds

/-- What an error says of the lists that work began with: that one of all the lists needs too
many rounds, that one is met too deep, or that they cost more than the budget. -/
def Exceeds (fragments : Fragments) (depth budget : ℕ) (starts : List (List Selection)) :
    FlattenError → Prop
  | .tooManyRounds =>
    ∃ start ∈ starts, ∃ d, ∃ list ∈ listsAt fragments d start,
      maxRounds < roundsNeeded fragments list
  | .tooDeep => ∃ start ∈ starts, listsAt fragments depth start ≠ []
  | .tooManySelections => budget < (starts.map (overallCost fragments)).sum

/-- The selections of those fields that have any. -/
def nonEmptyLists (fields : List SelectedField) : List (List Selection) :=
  (fields.map SelectedField.selections).filter fun below => !below.isEmpty

/-- The lists below merged fields are the lists of the next level. -/
theorem nonEmptyLists_mergeFields :
    nonEmptyLists (mergeFields (fieldsLeft fragments selections)) =
      listsBelow fragments selections := by
  rw [nonEmptyLists, mergeFields_eq, List.map_map]
  rfl

/-- A field with nothing below it adds no list. -/
theorem nonEmptyLists_cons_of_empty {field : SelectedField} (rest : List SelectedField)
    (h : field.selections.isEmpty = true) : nonEmptyLists (field :: rest) = nonEmptyLists rest := by
  simp [nonEmptyLists, h]

/-- A field with something below it adds the list of that. -/
theorem nonEmptyLists_cons {field : SelectedField} (rest : List SelectedField)
    (h : ¬ field.selections.isEmpty = true) :
    nonEmptyLists (field :: rest) = field.selections :: nonEmptyLists rest := by
  simp [nonEmptyLists, h]

/-- What an error says of a single list. -/
theorem exceeds_singleton {depth budget : ℕ} {error : FlattenError} :
    Exceeds fragments depth budget [selections] error ↔
      match error with
      | .tooManyRounds =>
        ∃ d, ∃ list ∈ listsAt fragments d selections, maxRounds < roundsNeeded fragments list
      | .tooDeep => listsAt fragments depth selections ≠ []
      | .tooManySelections => budget < overallCost fragments selections := by
  cases error <;> simp [Exceeds]

/-- What one of the lists exceeds, all of them exceed. -/
theorem Exceeds.head {depth budget : ℕ} {start : List Selection} {error : FlattenError}
    (h : Exceeds fragments depth budget [start] error) (rest : List (List Selection)) :
    Exceeds fragments depth budget (start :: rest) error := by
  have hstart := exceeds_singleton.mp h
  cases error with
  | tooManyRounds => exact ⟨start, List.mem_cons_self, hstart⟩
  | tooDeep => exact ⟨start, List.mem_cons_self, hstart⟩
  | tooManySelections =>
    show (budget : ℕ∞) < _
    rw [List.map_cons, List.sum_cons]
    exact lt_of_lt_of_le hstart le_self_add

/-- What the lists behind one exceed with what that one left of the budget, all exceed. -/
theorem Exceeds.tail {depth budget left : ℕ} {start : List Selection}
    {rest : List (List Selection)} {error : FlattenError}
    (hspent : overallCost fragments start + left = budget)
    (h : Exceeds fragments depth left rest error) :
    Exceeds fragments depth budget (start :: rest) error := by
  cases error with
  | tooManyRounds =>
    obtain ⟨other, hmem, hexceeds⟩ := h
    exact ⟨other, List.mem_cons_of_mem _ hmem, hexceeds⟩
  | tooDeep =>
    obtain ⟨other, hmem, hexceeds⟩ := h
    exact ⟨other, List.mem_cons_of_mem _ hmem, hexceeds⟩
  | tooManySelections =>
    show (budget : ℕ∞) < _
    rw [List.map_cons, List.sum_cons]
    exact lt_add_of_spent hspent h

/-- What the lists right below a list exceed with what it left of the budget, it exceeds. -/
theorem Exceeds.above {depth budget left : ℕ} {error : FlattenError}
    (hspent : listCost fragments selections + left = budget)
    (h : Exceeds fragments depth left (listsBelow fragments selections) error) :
    Exceeds fragments (depth + 1) budget [selections] error := by
  refine exceeds_singleton.mpr ?_
  cases error with
  | tooManyRounds =>
    obtain ⟨start, hstart, d, list, hlist, hrounds⟩ := h
    exact ⟨d + 1, list, List.mem_flatMap.mpr ⟨start, hstart, hlist⟩, hrounds⟩
  | tooDeep =>
    obtain ⟨start, hstart, hsome⟩ := h
    exact fun hnone => hsome (List.flatMap_eq_nil_iff.mp hnone start hstart)
  | tooManySelections =>
    show (budget : ℕ∞) < overallCost fragments selections
    rw [overallCost_eq]
    exact lt_add_of_spent hspent h

section Nodes

variable {depth : ℕ}

/-- If flattening what is below one field spends its cost, flattening what is below some fields
spends the cost of all. -/
theorem nodes_eq_ok
    (hlevel : ∀ {budget left : ℕ} {selections : List Selection} {trees : List FieldNode},
      (level fragments depth budget selections).outcome = .ok (trees, left) →
        Fits fragments depth selections ∧ overallCost fragments selections + left = budget)
    {fields : List SelectedField} {budget left : ℕ} {trees : List FieldNode}
    (h : (nodes (level fragments depth) budget fields).outcome = .ok (trees, left)) :
    (∀ list ∈ nonEmptyLists fields, Fits fragments depth list) ∧
      ((nonEmptyLists fields).map (overallCost fragments)).sum + left = budget := by
  induction fields generalizing budget trees with
  | nil =>
    cases h
    exact ⟨by simp [nonEmptyLists], zero_add _⟩
  | cons field rest ih =>
    rw [nodes] at h
    split at h
    · next hempty =>
      obtain ⟨⟨others, last⟩, hothers, hpure⟩ := Attempt.outcome_bind_eq_ok.mp h
      cases hpure
      rw [nonEmptyLists_cons_of_empty rest hempty]
      exact ih hothers
    · next hsome =>
      obtain ⟨⟨children, spent⟩, hchildren, hnext⟩ := Attempt.outcome_bind_eq_ok.mp h
      obtain ⟨⟨others, last⟩, hothers, hpure⟩ := Attempt.outcome_bind_eq_ok.mp hnext
      cases hpure
      obtain ⟨hfits, hcost⟩ := hlevel hchildren
      obtain ⟨hrest, hsum⟩ := ih hothers
      rw [nonEmptyLists_cons rest hsome]
      refine ⟨List.forall_mem_cons.mpr ⟨hfits, hrest⟩, ?_⟩
      rw [List.map_cons, List.sum_cons, add_assoc, hsum, hcost]

/-- If flattening what is below one field fails only where a limit is exceeded, so does
flattening what is below some fields. -/
theorem nodes_eq_error
    (hlevel : ∀ {budget left : ℕ} {selections : List Selection} {trees : List FieldNode},
      (level fragments depth budget selections).outcome = .ok (trees, left) →
        overallCost fragments selections + left = budget)
    (hfailed : ∀ {budget : ℕ} {selections : List Selection} {error : FlattenError},
      (level fragments depth budget selections).outcome = .error error →
        Exceeds fragments depth budget [selections] error)
    {fields : List SelectedField} {budget : ℕ} {error : FlattenError}
    (h : (nodes (level fragments depth) budget fields).outcome = .error error) :
    Exceeds fragments depth budget (nonEmptyLists fields) error := by
  induction fields generalizing budget with
  | nil => cases h
  | cons field rest ih =>
    rw [nodes] at h
    split at h
    · next hempty =>
      rw [nonEmptyLists_cons_of_empty rest hempty]
      rcases Attempt.outcome_bind_eq_error.mp h with hothers | ⟨_, _, hpure⟩
      · exact ih hothers
      · cases hpure
    · next hsome =>
      rw [nonEmptyLists_cons rest hsome]
      rcases Attempt.outcome_bind_eq_error.mp h with hchildren | ⟨⟨_, left⟩, hchildren, hnext⟩
      · exact (hfailed hchildren).head _
      · rcases Attempt.outcome_bind_eq_error.mp hnext with hothers | ⟨_, _, hpure⟩
        · -- The first list is paid for; what failed is among the others, with what it left.
          exact (ih hothers).tail (hlevel hchildren)
        · cases hpure

end Nodes

/-- **A level that is flattened is within the limits**, and what is left of the budget is what
its lists do not cost. -/
theorem level_eq_ok {depth budget left : ℕ} {trees : List FieldNode}
    (h : (level fragments depth budget selections).outcome = .ok (trees, left)) :
    Fits fragments depth selections ∧ overallCost fragments selections + left = budget := by
  induction depth generalizing budget left selections trees with
  | zero => cases h
  | succ depth ih =>
    obtain ⟨⟨fields, spent⟩, hcollect, hnodes⟩ := Attempt.outcome_bind_eq_ok.mp h
    obtain ⟨hrounds, rfl, hcost⟩ := collect_eq_ok hcollect
    obtain ⟨hfits, hsum⟩ := nodes_eq_ok ih hnodes
    rw [nonEmptyLists_mergeFields] at hfits hsum
    refine ⟨⟨?_, ?_⟩, ?_⟩
    · exact List.flatMap_eq_nil_iff.mpr fun below hmem => (hfits below hmem).levels
    · intro d list hlist
      cases d with
      | zero =>
        rw [listsAt, List.mem_singleton] at hlist
        rw [hlist]
        exact hrounds
      | succ d =>
        obtain ⟨below, hmem, hlist⟩ := List.mem_flatMap.mp hlist
        exact (hfits below hmem).rounds d list hlist
    · rw [overallCost_eq, add_assoc, hsum, hcost]

/-- **A level that is not flattened exceeds the limit that the error names.** -/
theorem level_eq_error {depth budget : ℕ} {error : FlattenError}
    (h : (level fragments depth budget selections).outcome = .error error) :
    Exceeds fragments depth budget [selections] error := by
  induction depth generalizing budget selections error with
  | zero =>
    cases h
    exact exceeds_singleton.mpr (List.cons_ne_nil _ _)
  | succ depth ih =>
    rcases Attempt.outcome_bind_eq_error.mp h with hcollect | ⟨⟨fields, left⟩, hcollect, hnodes⟩
    · refine exceeds_singleton.mpr ?_
      rcases collect_eq_error hcollect with ⟨rfl, hrounds⟩ | ⟨rfl, hcost⟩
      · exact ⟨0, selections, List.mem_singleton_self _, hrounds⟩
      · show (budget : ℕ∞) < overallCost fragments selections
        rw [overallCost_eq]
        exact hcost.trans_le le_self_add
    · obtain ⟨-, rfl, hcost⟩ := collect_eq_ok hcollect
      have hbelow := nodes_eq_error (fun hok => (level_eq_ok hok).2) ih hnodes
      rw [nonEmptyLists_mergeFields] at hbelow
      exact hbelow.above hcost

/-! ## All levels -/

/-- A list fits into some levels if every list that is met is met within these levels and is within
the limit of rounds. -/
theorem fits_iff {depth : ℕ} :
    Fits fragments depth selections ↔
      ∀ d, ∀ list ∈ listsAt fragments d selections,
        d < depth ∧ roundsNeeded fragments list ≤ maxRounds := by
  constructor
  · intro h d list hlist
    refine ⟨?_, h.rounds d list hlist⟩
    by_contra hge
    rw [listsAt_eq_nil h.levels (Nat.le_of_not_lt hge)] at hlist
    cases hlist
  · intro h
    refine ⟨List.eq_nil_iff_forall_not_mem.mpr fun list hlist => ?_, fun d list hlist => ?_⟩
    · exact Nat.lt_irrefl depth (h depth list hlist).1
    · exact (h d list hlist).2

/-- The error with which flattening fails names a limit that is exceeded. -/
theorem flatten_eq_error {error : FlattenError}
    (h : (flatten fragments selections).outcome = .error error) :
    Exceeds fragments maxDepth maxSelections [selections] error := by
  rw [flatten, Attempt.outcome_map] at h
  cases hlevel : (level fragments maxDepth maxSelections selections).outcome with
  | ok result =>
    rw [hlevel] at h
    cases h
  | error other =>
    rw [hlevel] at h
    cases h
    exact level_eq_error hlevel

/-- Flattening succeeds within the limits and nowhere else. -/
theorem flatten_eq_ok_iff :
    (∃ nodes, (flatten fragments selections).outcome = .ok nodes) ↔
      Fits fragments maxDepth selections ∧ overallCost fragments selections ≤ maxSelections := by
  constructor
  · rintro ⟨nodes, h⟩
    rw [flatten, Attempt.outcome_map] at h
    cases hlevel : (level fragments maxDepth maxSelections selections).outcome with
    | error error =>
      rw [hlevel] at h
      cases h
    | ok result =>
      obtain ⟨hfits, hcost⟩ := level_eq_ok hlevel
      exact ⟨hfits, le_self_add.trans_eq hcost⟩
  · rintro ⟨hfits, hcost⟩
    cases h : (flatten fragments selections).outcome with
    | ok nodes => exact ⟨nodes, rfl⟩
    | error error =>
      have hexceeds := exceeds_singleton.mp (flatten_eq_error h)
      exfalso
      cases error with
      | tooManyRounds =>
        obtain ⟨d, list, hlist, hrounds⟩ := hexceeds
        exact not_le_of_gt hrounds (hfits.rounds d list hlist)
      | tooDeep => exact hexceeds hfits.levels
      | tooManySelections => exact not_le_of_gt hexceeds hcost

end Flatten

open Flatten

/-- **Flattening succeeds exactly within its limits.**  It does if every list that is met lies at
depth 127 at most and needs 64 rounds at most, and all lists together cost 100000 at most.  An
error names a limit that is exceeded. -/
theorem flatten_limits (fragments : Fragments) (selections : List Selection) :
    ((∃ nodes, (flatten fragments selections).outcome = .ok nodes) ↔
      (∀ depth, ∀ list ∈ listsAt fragments depth selections,
        depth ≤ 127 ∧ roundsNeeded fragments list ≤ 64) ∧
      overallCost fragments selections ≤ 100000) ∧
    ((flatten fragments selections).outcome = .error .tooManyRounds →
      ∃ depth, ∃ list ∈ listsAt fragments depth selections,
        64 < roundsNeeded fragments list) ∧
    ((flatten fragments selections).outcome = .error .tooDeep →
      ∃ list, list ∈ listsAt fragments 128 selections) ∧
    ((flatten fragments selections).outcome = .error .tooManySelections →
      100000 < overallCost fragments selections) := by
  refine ⟨?_, fun h => ?_, fun h => ?_, fun h => ?_⟩
  · rw [flatten_eq_ok_iff, fits_iff]
    simp only [maxDepth, maxRounds, maxSelections, Nat.lt_succ_iff]
    rfl
  · exact exceeds_singleton.mp (flatten_eq_error h)
  · exact List.exists_mem_of_ne_nil _ (exceeds_singleton.mp (flatten_eq_error h))
  · exact exceeds_singleton.mp (flatten_eq_error h)

/-- The fragment `fragment Endless on Pet { name ...Endless }`. -/
def endlessFragment : Fragment where
  name := "Endless"
  condition := "Pet"
  selections := [.field ⟨none, "name"⟩ [], .spread "Endless" ⟨1, 1⟩]
  position := ⟨1, 1⟩

/-- A fragment that spreads itself is refused for its rounds, and there is a list that needs more
than 64 of them. -/
theorem flatten_limits_endless :
    (flatten [endlessFragment] [.spread "Endless" ⟨1, 1⟩]).outcome = .error .tooManyRounds ∧
      ∃ depth, ∃ list ∈ listsAt [endlessFragment] depth [.spread "Endless" ⟨1, 1⟩],
        64 < roundsNeeded [endlessFragment] list :=
  ⟨rfl, (flatten_limits _ _).2.1 rfl⟩

end EnumBridge
