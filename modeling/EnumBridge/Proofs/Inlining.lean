import EnumBridge.FieldTree.Flatten

/-!
# Fragments written out in place

`Inlines` says which fields some selections stand for, fragment by fragment, depth first and
in the order of the document: a field stands for itself, an inline fragment for what it
contains, a spread for what its fragment contains, and a spread of a fragment that is not
defined for nothing.  The relation decides the fields (`Inlines.unique`); selections whose
fragments spread each other in a cycle are in no relation to any.

The expansion works on whole lists and in rounds.  It keeps the fields that a list stands for
(`inlines_of_expand`), so what is left when it ends is these fields (`inlines_of_collect`).

`Selects` says that a field is among some selections, and under which type conditions.
-/

set_option autoImplicit false

namespace EnumBridge

/-- The fields that selections stand for. -/
inductive Inlines (fragments : Fragments) : List Selection → List SelectedField → Prop
  | nil : Inlines fragments [] []
  | field {label : FieldLabel} {below rest : List Selection} {fields : List SelectedField}
      (hrest : Inlines fragments rest fields) :
      Inlines fragments (.field label below :: rest) (⟨label, below⟩ :: fields)
  | inlineFragment {condition : Option String} {selections rest : List Selection}
      {inner fields : List SelectedField} (hinner : Inlines fragments selections inner)
      (hrest : Inlines fragments rest fields) :
      Inlines fragments (.inlineFragment condition selections :: rest) (inner ++ fields)
  | spread {name : String} {position : Syntax.Position} {fragment : Fragment}
      {rest : List Selection} {inner fields : List SelectedField}
      (hfragment : fragments.named? name = some fragment)
      (hinner : Inlines fragments fragment.selections inner)
      (hrest : Inlines fragments rest fields) :
      Inlines fragments (.spread name position :: rest) (inner ++ fields)
  | undefined {name : String} {position : Syntax.Position} {rest : List Selection}
      {fields : List SelectedField} (hfragment : fragments.named? name = none)
      (hrest : Inlines fragments rest fields) :
      Inlines fragments (.spread name position :: rest) fields

/-- A field is selected under some type conditions, the outermost first: those of the inline
fragments and of the spread fragments that it stands in. -/
inductive Selects (fragments : Fragments) :
    List Selection → List String → SelectedField → Prop
  | field {selections below : List Selection} {label : FieldLabel}
      (hmem : Selection.field label below ∈ selections) :
      Selects fragments selections [] ⟨label, below⟩
  | inlineFragment {selections inner : List Selection} {condition : Option String}
      {conditions : List String} {field : SelectedField}
      (hmem : Selection.inlineFragment condition inner ∈ selections)
      (h : Selects fragments inner conditions field) :
      Selects fragments selections (condition.toList ++ conditions) field
  | spread {selections : List Selection} {name : String} {position : Syntax.Position}
      {fragment : Fragment} {conditions : List String} {field : SelectedField}
      (hmem : Selection.spread name position ∈ selections)
      (hfragment : fragments.named? name = some fragment)
      (h : Selects fragments fragment.selections conditions field) :
      Selects fragments selections (fragment.condition :: conditions) field

variable {fragments : Fragments} {selections more : List Selection}
  {fields others : List SelectedField}

/-- A field that is selected is so in every longer list. -/
theorem Selects.cons {selection : Selection} {conditions : List String} {field : SelectedField}
    (h : Selects fragments selections conditions field) :
    Selects fragments (selection :: selections) conditions field := by
  cases h with
  | field hmem => exact .field (List.mem_cons_of_mem _ hmem)
  | inlineFragment hmem h => exact .inlineFragment (List.mem_cons_of_mem _ hmem) h
  | spread hmem hfragment h => exact .spread (List.mem_cons_of_mem _ hmem) hfragment h

namespace Inlines

/-- Selections stand for one list of fields only. -/
theorem unique (h : Inlines fragments selections fields)
    (h' : Inlines fragments selections others) : fields = others := by
  induction h generalizing others with
  | nil =>
    cases h'
    rfl
  | field _ ih =>
    cases h' with
    | field hrest => rw [ih hrest]
  | inlineFragment _ _ ihinner ih =>
    cases h' with
    | inlineFragment hinner hrest => rw [ihinner hinner, ih hrest]
  | spread hfragment _ _ ihinner ih =>
    cases h' with
    | spread hother hinner hrest =>
      rw [hfragment, Option.some.injEq] at hother
      subst hother
      rw [ihinner hinner, ih hrest]
    | undefined hother _ => simp [hfragment] at hother
  | undefined hfragment _ ih =>
    cases h' with
    | spread hother _ _ => simp [hfragment] at hother
    | undefined _ hrest => exact ih hrest

/-- What two lists stand for, one behind the other, both together stand for. -/
theorem append (h : Inlines fragments selections fields)
    (hmore : Inlines fragments more others) :
    Inlines fragments (selections ++ more) (fields ++ others) := by
  induction h with
  | nil => exact hmore
  | field _ ih => exact .field ih
  | inlineFragment hinner _ _ ih =>
    rw [List.append_assoc]
    exact .inlineFragment hinner ih
  | spread hfragment hinner _ _ ih =>
    rw [List.append_assoc]
    exact .spread hfragment hinner ih
  | undefined hfragment _ ih => exact .undefined hfragment ih

/-- What a list stands for falls into what its parts stand for. -/
theorem of_append (h : Inlines fragments (selections ++ more) fields) :
    ∃ front back, Inlines fragments selections front ∧ Inlines fragments more back ∧
      fields = front ++ back := by
  induction selections generalizing fields with
  | nil => exact ⟨[], fields, .nil, h, rfl⟩
  | cons selection rest ih =>
    rw [List.cons_append] at h
    cases h with
    | field hrest =>
      obtain ⟨front, back, hfront, hback, rfl⟩ := ih hrest
      exact ⟨_, back, .field hfront, hback, rfl⟩
    | inlineFragment hinner hrest =>
      obtain ⟨front, back, hfront, hback, rfl⟩ := ih hrest
      exact ⟨_, back, .inlineFragment hinner hfront, hback, by rw [List.append_assoc]⟩
    | spread hfragment hinner hrest =>
      obtain ⟨front, back, hfront, hback, rfl⟩ := ih hrest
      exact ⟨_, back, .spread hfragment hinner hfront, hback, by rw [List.append_assoc]⟩
    | undefined hfragment hrest =>
      obtain ⟨front, back, hfront, hback, rfl⟩ := ih hrest
      exact ⟨front, back, .undefined hfragment hfront, hback, rfl⟩

/-- What a part of a list stands for is part of what the list stands for. -/
theorem of_mem {selection : Selection} (h : Inlines fragments selections fields)
    (hmem : selection ∈ selections) :
    ∃ inner, Inlines fragments [selection] inner ∧ inner ⊆ fields := by
  obtain ⟨front, back, rfl⟩ := List.append_of_mem hmem
  obtain ⟨before, after, -, hafter, rfl⟩ := h.of_append
  have hcons : Inlines fragments ([selection] ++ back) after := hafter
  obtain ⟨inner, last, hinner, -, rfl⟩ := hcons.of_append
  refine ⟨inner, hinner, fun field hfield => ?_⟩
  simp [hfield]

/-- A field that selections stand for is selected. -/
theorem exists_selects (h : Inlines fragments selections fields) {field : SelectedField}
    (hfield : field ∈ fields) : ∃ conditions, Selects fragments selections conditions field := by
  induction h with
  | nil => simp at hfield
  | field _ ih =>
    rcases List.mem_cons.mp hfield with rfl | hfield
    · exact ⟨[], .field List.mem_cons_self⟩
    · obtain ⟨conditions, h⟩ := ih hfield
      exact ⟨conditions, h.cons⟩
  | inlineFragment _ _ ihinner ih =>
    rcases List.mem_append.mp hfield with hfield | hfield
    · obtain ⟨conditions, h⟩ := ihinner hfield
      exact ⟨_, .inlineFragment List.mem_cons_self h⟩
    · obtain ⟨conditions, h⟩ := ih hfield
      exact ⟨conditions, h.cons⟩
  | spread hfragment _ _ ihinner ih =>
    rcases List.mem_append.mp hfield with hfield | hfield
    · obtain ⟨conditions, h⟩ := ihinner hfield
      exact ⟨_, .spread List.mem_cons_self hfragment h⟩
    · obtain ⟨conditions, h⟩ := ih hfield
      exact ⟨conditions, h.cons⟩
  | undefined _ _ ih =>
    obtain ⟨conditions, h⟩ := ih hfield
    exact ⟨conditions, h.cons⟩

/-- Selections stand for every field that is selected. -/
theorem mem_of_selects (h : Inlines fragments selections fields) {conditions : List String}
    {field : SelectedField} (hselects : Selects fragments selections conditions field) :
    field ∈ fields := by
  induction hselects generalizing fields with
  | field hmem =>
    obtain ⟨inner, hinner, hsub⟩ := h.of_mem hmem
    cases hinner with
    | field _ => exact hsub List.mem_cons_self
  | inlineFragment hmem _ ih =>
    obtain ⟨inner, hinner, hsub⟩ := h.of_mem hmem
    cases hinner with
    | inlineFragment hinner _ => exact hsub (List.mem_append_left _ (ih hinner))
  | spread hmem hfragment _ ih =>
    obtain ⟨inner, hinner, hsub⟩ := h.of_mem hmem
    cases hinner with
    | spread hother hinner _ =>
      rw [hfragment, Option.some.injEq] at hother
      subst hother
      exact hsub (List.mem_append_left _ (ih hinner))
    | undefined hother _ => simp [hfragment] at hother

/-- The fields that selections stand for are those that are selected. -/
theorem mem_iff (h : Inlines fragments selections fields) (field : SelectedField) :
    field ∈ fields ↔ ∃ conditions, Selects fragments selections conditions field :=
  ⟨h.exists_selects, fun ⟨_, hselects⟩ => h.mem_of_selects hselects⟩

end Inlines

namespace Flatten

/-- A round expands the first selection and the others. -/
theorem expand_cons (selection : Selection) (rest : List Selection) :
    expand fragments (selection :: rest) =
      expansion fragments selection ++ expand fragments rest := by
  rw [expand, List.flatMap_cons]
  rfl

/-- A fragment and what is behind it stand for what it stands for and what is behind it. -/
theorem inlines_of_expansion {selection : Selection} (h : selection.isField = false)
    (hinner : Inlines fragments (expansion fragments selection) fields)
    (hrest : Inlines fragments selections others) :
    Inlines fragments (selection :: selections) (fields ++ others) := by
  cases selection with
  | field label below => cases h
  | inlineFragment condition inner => exact .inlineFragment hinner hrest
  | spread name position =>
    rw [expansion] at hinner
    cases hfragment : fragments.named? name with
    | some fragment =>
      rw [hfragment] at hinner
      exact .spread hfragment hinner hrest
    | none =>
      rw [hfragment] at hinner
      cases hinner
      exact .undefined hfragment hrest

/-- Induction on what selections stand for, with one case for fragments of all kinds. -/
theorem expansion_induction
    {motive : (selections : List Selection) → (fields : List SelectedField) →
      Inlines fragments selections fields → Prop}
    (nil : motive [] [] .nil)
    (field : ∀ label below rest fields (hrest : Inlines fragments rest fields),
      motive rest fields hrest → motive (.field label below :: rest) (⟨label, below⟩ :: fields)
        (.field hrest))
    (fragment : ∀ selection rest inner fields (hfragment : selection.isField = false)
      (hinner : Inlines fragments (expansion fragments selection) inner)
      (hrest : Inlines fragments rest fields),
      motive (expansion fragments selection) inner hinner → motive rest fields hrest →
        motive (selection :: rest) (inner ++ fields)
          (inlines_of_expansion hfragment hinner hrest))
    (selections : List Selection) (fields : List SelectedField)
    (h : Inlines fragments selections fields) : motive selections fields h := by
  induction h with
  | nil => exact nil
  | field hrest ih => exact field _ _ _ _ hrest ih
  | @inlineFragment condition selections _ _ _ hinner hrest ihinner ih =>
    exact fragment (.inlineFragment condition selections) _ _ _ rfl hinner hrest ihinner ih
  | @spread name position definition rest inner fields hdefined hinner hrest ihinner ih =>
    have hexpansion : expansion fragments (.spread name position) = definition.selections := by
      rw [expansion, hdefined]
    refine fragment (.spread name position) _ _ _ rfl (by rwa [hexpansion]) hrest ?_ ih
    simp only [hexpansion]
    exact ihinner
  | @undefined name position rest fields hundefined hrest ih =>
    have hexpansion : expansion fragments (.spread name position) = [] := by
      rw [expansion, hundefined]
    refine fragment (.spread name position) _ [] _ rfl (by rw [hexpansion]; exact .nil) hrest ?_ ih
    simp only [hexpansion]
    exact nil

/-- A round of expansion keeps the fields that a list stands for. -/
theorem inlines_of_expand (h : Inlines fragments (expand fragments selections) fields) :
    Inlines fragments selections fields := by
  induction selections generalizing fields with
  | nil => exact h
  | cons selection rest ih =>
    rw [expand_cons] at h
    obtain ⟨front, back, hfront, hback, rfl⟩ := h.of_append
    cases selection with
    | field label below =>
      cases hfront with
      | field hnil =>
        cases hnil
        exact .field (ih hback)
    | inlineFragment condition inner => exact inlines_of_expansion rfl hfront (ih hback)
    | spread name position => exact inlines_of_expansion rfl hfront (ih hback)

/-- A list of fields only stands for its fields. -/
theorem inlines_fieldsOf (h : selections.all Selection.isField = true) :
    Inlines fragments selections (fieldsOf selections) := by
  induction selections with
  | nil => exact .nil
  | cons selection rest ih =>
    rw [List.all_cons, Bool.and_eq_true] at h
    cases selection with
    | field label below => exact .field (ih h.2)
    | _ => simp [Selection.isField] at h

/-- **Rounds of expansion write the fragments out.**  When they end, the fields that are left
are those that the selections stand for. -/
theorem inlines_of_collect {rounds budget left : Nat}
    (h : (collect fragments rounds budget selections).outcome = .ok (fields, left)) :
    Inlines fragments selections fields := by
  induction rounds generalizing budget selections with
  | zero =>
    unfold collect at h
    split at h
    · next hall =>
      cases h
      exact inlines_fieldsOf hall
    · cases h
  | succ rounds ih =>
    unfold collect at h
    split at h
    · next hall =>
      cases h
      exact inlines_fieldsOf hall
    · simp only [Attempt.outcome_bind, Attempt.outcome_report, Except.bind] at h
      split at h
      · exact inlines_of_expand (ih h)
      · cases h

end Flatten

end EnumBridge
