import EnumBridge.Proofs.FlattenLimits
import EnumBridge.Proofs.FlattenedTree
import Mathlib.Data.List.Forall2
import Mathlib.Data.Multiset.Bind

/-!
# Selections in another order

Two documents may differ in the order of selections, in every selection set: of operations, of
fields, of inline fragments and of the definitions of fragments.  `Selection.Reordered` relates what
is left of a selection when the selections in it change their order, and `SelectionsReordered` two
lists of selections, of which one is in another order besides.  Both use `Multiset.Rel`, which holds
of two lists whose elements can be matched one to one.

Another order changes when a fragment is written out and when the budget is spent, but no measure of
the work: the lists met at a depth are reordered themselves (`rel_listsAt`), need the same rounds
and cost the same.  So flattening succeeds for both or for neither
(`exists_flatten_iff_of_reordered`).  And the same chains of fields are selected
(`selectsChain_iff_of_reordered`).
-/

set_option autoImplicit false

namespace EnumBridge

open Flatten

/-! ## Another order -/

/-- Two selections are the same, up to the order of the selections in them.  The positions of
spreads, which go with the order, may be any. -/
inductive Selection.Reordered : Selection → Selection → Prop
  | field {label : FieldLabel} {below others : List Selection}
      (h : Multiset.Rel Selection.Reordered ↑below ↑others) :
      Reordered (.field label below) (.field label others)
  | inlineFragment {condition : Option String} {inner others : List Selection}
      (h : Multiset.Rel Selection.Reordered ↑inner ↑others) :
      Reordered (.inlineFragment condition inner) (.inlineFragment condition others)
  | spread {name : String} {position other : Syntax.Position} :
      Reordered (.spread name position) (.spread name other)

/-- Two lists hold the same selections, in any order and up to the order of the selections in
them. -/
def SelectionsReordered (selections others : List Selection) : Prop :=
  Multiset.Rel Selection.Reordered ↑selections ↑others

/-- Two fields are the same, up to the order of the selections below them. -/
structure SelectedField.Reordered (field other : SelectedField) : Prop where
  label : other.label = field.label
  below : SelectionsReordered field.selections other.selections

/-- Two fragments are the same, up to the order of their selections and to their positions. -/
structure Fragment.Reordered (fragment other : Fragment) : Prop where
  name : other.name = fragment.name
  condition : other.condition = fragment.condition
  selections : SelectionsReordered fragment.selections other.selections

/-- Every name stands for the same fragment in both tables, up to the order of selections, or for
none in both. -/
def TablesReordered (fragments table : Fragments) : Prop :=
  ∀ name, Option.Rel Fragment.Reordered (fragments.named? name) (table.named? name)

/-- Two operations are the same, up to the order of their selections. -/
structure Operation.Reordered (operation other : Operation) : Prop where
  kind : other.kind = operation.kind
  name : other.name = operation.name
  variableDefinitions : other.variableDefinitions = operation.variableDefinitions
  selections : SelectionsReordered operation.selections other.selections

/-- Two definitions are the same, up to the order of selections. -/
inductive Definition.Reordered : Definition → Definition → Prop
  | operation {operation other : Operation} (h : operation.Reordered other) :
      Definition.Reordered (.operation operation) (.operation other)
  | fragment {fragment other : Fragment} (h : fragment.Reordered other) :
      Definition.Reordered (.fragment fragment) (.fragment other)

/-- Two documents hold the same definitions, up to the order of selections. -/
def Document.Reordered (document modified : Document) : Prop :=
  List.Forall₂ Definition.Reordered document.definitions modified.definitions

section Matching

variable {α β γ δ : Type} {r : α → β → Prop} {items : List α} {others : List β}

/-- Lists that are made of matching elements can be matched, if what is made of two such elements
can be. -/
theorem rel_flatMap {p : γ → δ → Prop} {f : α → List γ} {g : β → List δ}
    (h : Multiset.Rel r ↑items ↑others) (hfg : ∀ a b, r a b → Multiset.Rel p ↑(f a) ↑(g b)) :
    Multiset.Rel p ↑(items.flatMap f) ↑(others.flatMap g) := by
  rw [← Multiset.coe_bind, ← Multiset.coe_bind]
  exact Multiset.rel_bind hfg h

/-- Elements can still be matched when those that fail a test are taken out of both lists. -/
theorem rel_filter {p : α → Bool} {q : β → Bool} (h : Multiset.Rel r ↑items ↑others)
    (hpq : ∀ a b, r a b → q b = p a) :
    Multiset.Rel r ↑(items.filter p) ↑(others.filter q) := by
  have hflat {ε : Type} (test : ε → Bool) (list : List ε) :
      list.filter test = list.flatMap fun item => if test item then [item] else [] := by
    induction list with
    | nil => rfl
    | cons item rest ih =>
      rw [List.filter_cons, List.flatMap_cons, ← ih]
      split <;> rfl
  rw [hflat p, hflat q]
  refine rel_flatMap h fun a b hab => ?_
  rw [hpq a b hab]
  split
  · exact .cons hab .zero
  · exact .zero

/-- Every element of the second list is matched by one of the first. -/
theorem exists_mem_of_rel_right (h : Multiset.Rel r ↑items ↑others) {b : β} (hb : b ∈ others) :
    ∃ a ∈ items, r a b :=
  Multiset.exists_mem_of_rel_of_mem (Multiset.rel_flip.mpr h) hb

/-- Matching elements sum up to the same. -/
theorem map_sum_eq_of_rel {M : Type} [AddCommMonoid M] {f : α → M} {g : β → M}
    (h : Multiset.Rel r ↑items ↑others) (hfg : ∀ a b, r a b → f a = g b) :
    (items.map f).sum = (others.map g).sum := by
  have hmap : (items : Multiset α).map f = (others : Multiset β).map g :=
    Multiset.rel_eq.mp (Multiset.rel_map.mpr (h.mono fun a _ b _ hab => hfg a b hab))
  rw [← Multiset.sum_coe, ← Multiset.sum_coe, ← Multiset.map_coe, ← Multiset.map_coe, hmap]

end Matching

/-- Reordering goes both ways. -/
theorem Selection.Reordered.symm {selection other : Selection} (h : selection.Reordered other) :
    other.Reordered selection := by
  cases h with
  | @field label below others h =>
    refine .field (Multiset.rel_flip.mp (h.mono fun a ha b _ hab => ?_))
    have hlt := List.sizeOf_lt_of_mem (Multiset.mem_coe.mp ha)
    exact hab.symm
  | @inlineFragment condition inner others h =>
    refine .inlineFragment (Multiset.rel_flip.mp (h.mono fun a ha b _ hab => ?_))
    have hlt := List.sizeOf_lt_of_mem (Multiset.mem_coe.mp ha)
    exact hab.symm
  | spread => exact .spread
termination_by sizeOf selection

/-- A selection may keep its order. -/
theorem Selection.Reordered.refl (selection : Selection) : selection.Reordered selection := by
  cases selection with
  | field label below =>
    refine .field (Multiset.rel_refl_of_refl_on fun inner hinner => ?_)
    have hlt := List.sizeOf_lt_of_mem (Multiset.mem_coe.mp hinner)
    exact Selection.Reordered.refl inner
  | inlineFragment condition below =>
    refine .inlineFragment (Multiset.rel_refl_of_refl_on fun inner hinner => ?_)
    have hlt := List.sizeOf_lt_of_mem (Multiset.mem_coe.mp hinner)
    exact Selection.Reordered.refl inner
  | spread name position => exact .spread
termination_by sizeOf selection

namespace SelectionsReordered

variable {selections others : List Selection}

/-- Selections may keep their order. -/
theorem refl (selections : List Selection) : SelectionsReordered selections selections :=
  Multiset.rel_refl_of_refl_on fun selection _ => Selection.Reordered.refl selection

/-- Selections may stand in any other order. -/
theorem of_perm {permuted : List Selection} (hperm : selections.Perm permuted)
    (h : SelectionsReordered permuted others) : SelectionsReordered selections others := by
  rw [SelectionsReordered, Multiset.coe_eq_coe.mpr hperm]
  exact h

/-- Reordering goes both ways. -/
theorem symm (h : SelectionsReordered selections others) :
    SelectionsReordered others selections :=
  Multiset.rel_flip.mp (Multiset.Rel.mono h fun _ _ _ _ hab => hab.symm)

end SelectionsReordered

/-- If one table is reordered into another, that one is reordered into it. -/
theorem TablesReordered.symm {fragments table : Fragments} (h : TablesReordered fragments table) :
    TablesReordered table fragments := by
  intro name
  have hname := h name
  generalize fragments.named? name = found at hname ⊢
  generalize table.named? name = other at hname ⊢
  cases hname with
  | none => exact .none
  | some hfragment =>
    exact .some ⟨hfragment.name.symm, hfragment.condition.symm, hfragment.selections.symm⟩

variable {fragments table : Fragments}

/-! ## What reordered lists need -/

namespace Selection.Reordered

variable {selection other : Selection}

/-- Reordered selections are both fields, or both fragments. -/
theorem isField (h : selection.Reordered other) : other.isField = selection.isField := by
  cases h <;> rfl

/-- What reordered selections stand for is reordered. -/
theorem expansion (htable : TablesReordered fragments table) (h : selection.Reordered other) :
    SelectionsReordered (Flatten.expansion fragments selection)
      (Flatten.expansion table other) := by
  cases h with
  | field h => exact .cons (.field h) .zero
  | inlineFragment h => exact h
  | @spread name position other =>
    have hname := htable name
    rw [Flatten.expansion, Flatten.expansion]
    generalize fragments.named? name = found at hname ⊢
    generalize table.named? name = found' at hname ⊢
    cases hname with
    | none => exact .zero
    | some hfragment => exact hfragment.selections

end Selection.Reordered

namespace SelectionsReordered

variable {selections others : List Selection} (htable : TablesReordered fragments table)

/-- If no fragment is left in a list, none is in the reordered one. -/
theorem settled (h : SelectionsReordered selections others) (hsettled : Settled selections) :
    Settled others := by
  intro other hother
  obtain ⟨selection, hselection, hsame⟩ := exists_mem_of_rel_right h hother
  rw [hsame.isField, hsettled selection hselection]

include htable

/-- Reordered lists are reordered behind a round. -/
theorem expand (h : SelectionsReordered selections others) :
    SelectionsReordered (Flatten.expand fragments selections) (Flatten.expand table others) :=
  rel_flatMap h fun _ _ hsame => hsame.expansion htable

/-- Reordered lists are reordered behind any number of rounds. -/
theorem afterRounds (h : SelectionsReordered selections others) (rounds : ℕ) :
    SelectionsReordered (Flatten.afterRounds fragments selections rounds)
      (Flatten.afterRounds table others rounds) := by
  induction rounds generalizing selections others with
  | zero => exact h
  | succ rounds ih => exact ih (h.expand htable)

/-- One round produces as many selections in either order. -/
theorem produced_eq (h : SelectionsReordered selections others) :
    produced fragments selections = produced table others := by
  have hfragments := rel_filter (p := fun selection => !selection.isField)
    (q := fun selection => !selection.isField) h fun a b hab => by rw [hab.isField]
  have hexpanded := rel_flatMap hfragments fun _ _ hsame => hsame.expansion htable
  have hcard := Multiset.card_eq_card_of_rel hexpanded
  rw [Multiset.coe_card, Multiset.coe_card] at hcard
  exact hcard

/-- Reordered lists need the same rounds. -/
theorem roundsNeeded_eq (h : SelectionsReordered selections others) :
    roundsNeeded fragments selections = roundsNeeded table others := by
  refine eq_of_forall_ge_iff fun bound => ?_
  induction bound using ENat.recTopCoe with
  | top => simp
  | coe rounds =>
    rw [roundsNeeded_le_iff, roundsNeeded_le_iff]
    have hrounds := h.afterRounds htable rounds
    exact ⟨hrounds.settled, hrounds.symm.settled⟩

/-- Reordered lists cost the same. -/
theorem listCost_eq (h : SelectionsReordered selections others) :
    listCost fragments selections = listCost table others := by
  have hrounds (round : ℕ) : produced fragments (Flatten.afterRounds fragments selections round) =
      produced table (Flatten.afterRounds table others round) :=
    (h.afterRounds htable round).produced_eq htable
  simp only [listCost, hrounds]

/-- The fields that are left are the same in either order, up to what is below them. -/
theorem fieldsLeft (h : SelectionsReordered selections others) :
    Multiset.Rel SelectedField.Reordered ↑(Flatten.fieldsLeft fragments selections)
      ↑(Flatten.fieldsLeft table others) := by
  rw [Flatten.fieldsLeft, Flatten.fieldsLeft, ← h.roundsNeeded_eq htable]
  split
  · exact .zero
  · have hrounds := h.afterRounds htable (roundsNeeded fragments selections).toNat
    rw [fieldsOf, fieldsOf, List.filterMap_eq_flatMap_toList, List.filterMap_eq_flatMap_toList]
    refine rel_flatMap hrounds fun a b hab => ?_
    cases hab with
    | field hbelow => exact .cons ⟨rfl, hbelow⟩ .zero
    | inlineFragment _ => exact .zero
    | spread => exact .zero

end SelectionsReordered

/-! ## Groups of fields -/

/-- The selections of groups, given by their identities. -/
theorem map_selections_groups (fields : List SelectedField) :
    (groups fields).map FieldGroup.selections =
      ((groups fields).map FieldGroup.identity).map fun identity =>
        (SelectedField.ofIdentity identity fields).flatMap SelectedField.selections := by
  rw [List.map_map]
  refine List.map_congr_left fun group hgroup => ?_
  rw [FieldGroup.selections, fields_of_mem hgroup]
  rfl

/-- The identities of groups are those of the fields. -/
theorem mem_identities_iff {fields : List SelectedField} {identity : String × String} :
    identity ∈ (groups fields).map FieldGroup.identity ↔
      ∃ field ∈ fields, field.identity = identity := by
  constructor
  · intro hidentity
    obtain ⟨group, hgroup, rfl⟩ := List.mem_map.mp hidentity
    exact ⟨group.first, mem_of_mem_groups hgroup List.mem_cons_self, rfl⟩
  · rintro ⟨field, hfield, rfl⟩
    obtain ⟨group, hgroup, hmem⟩ := exists_group hfield
    rw [fields_of_mem hgroup, SelectedField.mem_ofIdentity] at hmem
    exact List.mem_map.mpr ⟨group, hgroup, hmem.2.symm⟩

section Fields

variable {fields others : List SelectedField}

/-- Reordered fields have the same identity. -/
theorem SelectedField.Reordered.identity {field other : SelectedField}
    (h : field.Reordered other) : other.identity = field.identity := by
  rw [SelectedField.identity, SelectedField.identity, h.label]

/-- Reordered fields form groups of the same identities, in any order. -/
theorem identities_perm_of_rel (h : Multiset.Rel SelectedField.Reordered ↑fields ↑others) :
    ((groups fields).map FieldGroup.identity).Perm ((groups others).map FieldGroup.identity) := by
  refine (List.perm_ext_iff_of_nodup (identities_nodup fields) (identities_nodup others)).mpr ?_
  intro identity
  rw [mem_identities_iff, mem_identities_iff]
  constructor
  · rintro ⟨field, hfield, rfl⟩
    obtain ⟨other, hother, hsame⟩ := Multiset.exists_mem_of_rel_of_mem h hfield
    exact ⟨other, hother, hsame.identity⟩
  · rintro ⟨other, hother, rfl⟩
    obtain ⟨field, hfield, hsame⟩ := exists_mem_of_rel_right h hother
    exact ⟨field, hfield, hsame.identity.symm⟩

/-- The selections of groups of reordered fields can be matched, each with a reordered one. -/
theorem rel_map_selections (h : Multiset.Rel SelectedField.Reordered ↑fields ↑others) :
    Multiset.Rel SelectionsReordered ↑((groups fields).map FieldGroup.selections)
      ↑((groups others).map FieldGroup.selections) := by
  have hperm := identities_perm_of_rel h
  rw [map_selections_groups, map_selections_groups]
  generalize (groups fields).map FieldGroup.identity = identities at hperm ⊢
  generalize (groups others).map FieldGroup.identity = permuted at hperm ⊢
  rw [← Multiset.map_coe, ← Multiset.map_coe, ← Multiset.coe_eq_coe.mpr hperm, Multiset.rel_map]
  refine Multiset.rel_refl_of_refl_on fun identity _ => ?_
  have hfound : Multiset.Rel SelectedField.Reordered ↑(SelectedField.ofIdentity identity fields)
      ↑(SelectedField.ofIdentity identity others) :=
    rel_filter h fun field other hsame => by rw [hsame.label]
  exact rel_flatMap hfound fun _ _ hsame => hsame.below

end Fields

/-! ## All lists -/

section Lists

variable {selections others : List Selection}

/-- Reordered lists are both empty, or neither is. -/
theorem SelectionsReordered.isEmpty (h : SelectionsReordered selections others) :
    others.isEmpty = selections.isEmpty := by
  have hcard := Multiset.card_eq_card_of_rel h
  rw [Multiset.coe_card, Multiset.coe_card] at hcard
  rw [Bool.eq_iff_iff, List.isEmpty_iff_length_eq_zero, List.isEmpty_iff_length_eq_zero, hcard]

/-- The lists one level below are the same in either order, up to their own order. -/
theorem rel_listsBelow (htable : TablesReordered fragments table)
    (h : SelectionsReordered selections others) :
    Multiset.Rel SelectionsReordered ↑(listsBelow fragments selections)
      ↑(listsBelow table others) :=
  rel_filter (rel_map_selections (h.fieldsLeft htable)) fun _ _ hsame => by rw [hsame.isEmpty]

/-- **The lists that are met at a depth** are the same in either order, up to their own order. -/
theorem rel_listsAt (htable : TablesReordered fragments table)
    (h : SelectionsReordered selections others) (depth : ℕ) :
    Multiset.Rel SelectionsReordered ↑(listsAt fragments depth selections)
      ↑(listsAt table depth others) := by
  induction depth generalizing selections others with
  | zero => exact .cons h .zero
  | succ depth ih => exact rel_flatMap (rel_listsBelow htable h) fun _ _ hsame => ih hsame

/-- A reordered list fits into as many levels. -/
theorem Flatten.Fits.of_reordered (htable : TablesReordered fragments table)
    (h : SelectionsReordered selections others) {depth : ℕ}
    (hfits : Fits fragments depth selections) : Fits table depth others where
  levels := by
    have hlists := rel_listsAt htable h depth
    rw [hfits.levels] at hlists
    exact Multiset.coe_eq_zero _ |>.mp (Multiset.rel_zero_left.mp hlists)
  rounds d list hlist := by
    obtain ⟨other, hother, hsame⟩ := exists_mem_of_rel_right (rel_listsAt htable h d) hlist
    rw [← hsame.roundsNeeded_eq htable]
    exact hfits.rounds d other hother

/-- All lists together cost the same in either order. -/
theorem overallCost_eq_of_reordered (htable : TablesReordered fragments table)
    (h : SelectionsReordered selections others) :
    overallCost fragments selections = overallCost table others := by
  have hdepth (depth : ℕ) :
      ((listsAt fragments depth selections).map (listCost fragments)).sum =
        ((listsAt table depth others).map (listCost table)).sum :=
    map_sum_eq_of_rel (rel_listsAt htable h depth) fun _ _ hsame => hsame.listCost_eq htable
  simp only [overallCost, hdepth]

/-- If selections can be flattened, so can reordered ones. -/
theorem exists_flatten_of_reordered (htable : TablesReordered fragments table)
    (h : SelectionsReordered selections others)
    (hflatten : ∃ nodes, (flatten fragments selections).outcome = .ok nodes) :
    ∃ nodes, (flatten table others).outcome = .ok nodes := by
  obtain ⟨hfits, hcost⟩ := flatten_eq_ok_iff.mp hflatten
  refine flatten_eq_ok_iff.mpr ⟨hfits.of_reordered htable h, ?_⟩
  rw [← overallCost_eq_of_reordered htable h]
  exact hcost

/-- **Flattening succeeds in either order or in none.** -/
theorem exists_flatten_iff_of_reordered (htable : TablesReordered fragments table)
    (h : SelectionsReordered selections others) :
    (∃ nodes, (flatten fragments selections).outcome = .ok nodes) ↔
      ∃ nodes, (flatten table others).outcome = .ok nodes :=
  ⟨exists_flatten_of_reordered htable h, exists_flatten_of_reordered htable.symm h.symm⟩

end Lists

/-! ## Selected fields -/

section Chains

variable {selections others : List Selection}

/-- A field that is selected is so in the other order, up to the order below it. -/
theorem Selects.of_reordered (htable : TablesReordered fragments table)
    (h : SelectionsReordered selections others) {conditions : List String} {field : SelectedField}
    (hselects : Selects fragments selections conditions field) :
    ∃ other, Selects table others conditions other ∧ field.Reordered other := by
  induction hselects generalizing others with
  | field hmem =>
    obtain ⟨selection, hselection, hsame⟩ := Multiset.exists_mem_of_rel_of_mem h hmem
    cases hsame with
    | field hbelow => exact ⟨_, .field hselection, rfl, hbelow⟩
  | inlineFragment hmem _ ih =>
    obtain ⟨selection, hselection, hsame⟩ := Multiset.exists_mem_of_rel_of_mem h hmem
    cases hsame with
    | inlineFragment hinner =>
      obtain ⟨other, hother, hfield⟩ := ih hinner
      exact ⟨other, .inlineFragment hselection hother, hfield⟩
  | @spread selections name position fragment conditions field hmem hfragment _ ih =>
    obtain ⟨selection, hselection, hsame⟩ := Multiset.exists_mem_of_rel_of_mem h hmem
    cases hsame with
    | spread =>
      have hname := htable name
      rw [hfragment] at hname
      cases hfound : table.named? name with
      | none =>
        rw [hfound] at hname
        cases hname
      | some found =>
        rw [hfound] at hname
        cases hname with
        | some hfragments =>
          obtain ⟨other, hother, hfield⟩ := ih hfragments.selections
          rw [← hfragments.condition]
          exact ⟨other, .spread hselection hfound hother, hfield⟩

/-- A chain of fields that is selected is so in the other order. -/
theorem SelectsChain.of_reordered (htable : TablesReordered fragments table)
    (h : SelectionsReordered selections others) {chain : List (String × String)}
    (hchain : SelectsChain fragments selections chain) : SelectsChain table others chain := by
  induction chain generalizing selections others with
  | nil => exact .nil
  | cons identity rest ih =>
    cases hchain with
    | cons hfield hrest =>
      obtain ⟨other, hother, hsame⟩ := hfield.of_reordered htable h
      rw [← hsame.identity]
      exact .cons hother (ih hsame.below hrest)

/-- **The same chains of fields are selected** in either order. -/
theorem selectsChain_iff_of_reordered (htable : TablesReordered fragments table)
    (h : SelectionsReordered selections others) (chain : List (String × String)) :
    SelectsChain fragments selections chain ↔ SelectsChain table others chain :=
  ⟨.of_reordered htable h, .of_reordered htable.symm h.symm⟩

end Chains

/-! ## Documents -/

/-- Searches in two lists that match place by place find matching elements, or nothing in both. -/
theorem rel_find? {α β : Type} {r : α → β → Prop} {items : List α} {others : List β} {p : α → Bool}
    {q : β → Bool} (h : List.Forall₂ r items others) (hpq : ∀ a b, r a b → q b = p a) :
    Option.Rel r (items.find? p) (others.find? q) := by
  induction h with
  | nil => exact .none
  | @cons a b _ _ hab _ ih =>
    rw [List.find?_cons, List.find?_cons, hpq a b hab]
    cases p a with
    | true => exact .some hab
    | false => exact ih

namespace Document.Reordered

variable {document modified : Document}

/-- Reordered documents have reordered tables of fragments. -/
theorem tables (h : document.Reordered modified) :
    TablesReordered document.fragmentTable modified.fragmentTable := by
  have hfragments : List.Forall₂ Fragment.Reordered document.fragments modified.fragments := by
    refine List.rel_filterMap (fun definition other hsame => ?_) h
    cases hsame with
    | operation _ => exact .none
    | fragment hsame => exact .some hsame
  intro name
  refine rel_find? (List.rel_reverse hfragments) fun fragment other hsame => ?_
  rw [hsame.name]

/-- Reordered documents have reordered operations under a name, or none in both. -/
theorem operation? (h : document.Reordered modified) (name : Option String) :
    Option.Rel Operation.Reordered (document.operation? name) (modified.operation? name) := by
  have hoperations : List.Forall₂ Operation.Reordered document.operations modified.operations := by
    refine List.rel_filterMap (fun definition other hsame => ?_) h
    cases hsame with
    | operation hsame => exact .some hsame
    | fragment _ => exact .none
  unfold Document.operation?
  generalize document.operations = operations at hoperations ⊢
  generalize modified.operations = others at hoperations ⊢
  cases name with
  | some name => exact rel_find? hoperations fun operation other hsame => by rw [hsame.name]
  | none =>
    cases hoperations with
    | nil => exact .none
    | cons hfirst _ => exact .some hfirst

end Document.Reordered

end EnumBridge
