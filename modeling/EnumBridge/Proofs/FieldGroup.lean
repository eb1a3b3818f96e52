import EnumBridge.FieldTree.Flatten

/-!
# Fields that are merged

A `FieldGroup` holds the fields of one level that share both the response key and the name.
`groups` puts the fields of a level into groups, by the first field of each: the groups have
different identities (`identities_nodup`), a group holds the fields of its identity in their
order (`fields_of_mem`), and every field is in one (`exists_group`).

Merging makes one field of each group, in the same order (`mergeFields_eq`).
-/

set_option autoImplicit false

namespace EnumBridge

namespace SelectedField

/-- What decides whether two fields are merged. -/
def identity (field : SelectedField) : String × String := field.label.identity

/-- The fields of one identity. -/
def ofIdentity (identity : String × String) (fields : List SelectedField) :
    List SelectedField :=
  fields.filter fun field => field.label.identity == identity

/-- The fields of all identities but one. -/
def withoutIdentity (identity : String × String) (fields : List SelectedField) :
    List SelectedField :=
  fields.filter fun field => !field.label.identity == identity

/-- The fields of an identity are those fields of the level that have it. -/
theorem mem_ofIdentity {identity : String × String} {field : SelectedField}
    {fields : List SelectedField} :
    field ∈ ofIdentity identity fields ↔ field ∈ fields ∧ field.identity = identity := by
  simp [ofIdentity, SelectedField.identity]

/-- The other fields are those of the level that have another identity. -/
theorem mem_withoutIdentity {identity : String × String} {field : SelectedField}
    {fields : List SelectedField} :
    field ∈ withoutIdentity identity fields ↔ field ∈ fields ∧ field.identity ≠ identity := by
  simp [withoutIdentity, SelectedField.identity]

/-- The first field is the first one of its identity. -/
theorem ofIdentity_cons_self (first : SelectedField) (rest : List SelectedField) :
    ofIdentity first.identity (first :: rest) = first :: ofIdentity first.identity rest := by
  rw [ofIdentity, List.filter_cons, if_pos (by simp [SelectedField.identity])]
  rfl

/-- The fields of an identity stay when those of another are taken out. -/
theorem ofIdentity_withoutIdentity {identity : String × String} {first : SelectedField}
    (hne : identity ≠ first.identity) (rest : List SelectedField) :
    ofIdentity identity (withoutIdentity first.identity rest) =
      ofIdentity identity (first :: rest) := by
  have hfirst : ¬ (first.label.identity == identity) = true := by
    simpa [SelectedField.identity] using hne.symm
  rw [ofIdentity, ofIdentity, withoutIdentity, List.filter_filter, List.filter_cons,
    if_neg hfirst]
  refine List.filter_congr fun field _ => ?_
  by_cases heq : field.label.identity = identity
  · simp [heq, hne]
  · simp [heq]

end SelectedField

open SelectedField

/-- Fields of one identity, in their order. -/
structure FieldGroup where
  first : SelectedField
  others : List SelectedField

namespace FieldGroup

/-- The fields of a group. -/
def fields (group : FieldGroup) : List SelectedField := group.first :: group.others

/-- The response key and the name that the fields of a group share. -/
def identity (group : FieldGroup) : String × String := group.first.identity

/-- The selections below all fields of a group, one field after the other. -/
def selections (group : FieldGroup) : List Selection :=
  group.fields.flatMap SelectedField.selections

/-- The field that a group is merged into. -/
def merged (group : FieldGroup) : SelectedField := ⟨group.first.label, group.selections⟩

/-- There is nothing below a group if there is nothing below any of its fields. -/
theorem selections_isEmpty_iff (group : FieldGroup) :
    group.selections.isEmpty = true ↔ ∀ field ∈ group.fields, field.selections = [] := by
  rw [List.isEmpty_iff, selections, List.flatMap_eq_nil_iff]

end FieldGroup

/-- The fields of a level in groups, each in the place of its first field. -/
def groups : List SelectedField → List FieldGroup
  | [] => []
  | first :: rest =>
    ⟨first, ofIdentity first.identity rest⟩ :: groups (withoutIdentity first.identity rest)
termination_by fields => fields.length
decreasing_by exact Nat.lt_succ_of_le (List.length_filter_le _ _)

/-- Without fields there are no groups. -/
theorem groups_nil : groups [] = [] := by
  rw [groups]

/-- The first group is that of the first field, and the others are those of the fields of other
identities. -/
theorem groups_cons (first : SelectedField) (rest : List SelectedField) :
    groups (first :: rest) =
      ⟨first, ofIdentity first.identity rest⟩ ::
        groups (withoutIdentity first.identity rest) := by
  rw [groups]

/-- Every field of a group is a field of the level. -/
theorem mem_of_mem_groups {fields : List SelectedField} {group : FieldGroup}
    (hgroup : group ∈ groups fields) {field : SelectedField} (hfield : field ∈ group.fields) :
    field ∈ fields := by
  induction fields using groups.induct with
  | case1 => simp [groups_nil] at hgroup
  | case2 first rest ih =>
    rw [groups_cons, List.mem_cons] at hgroup
    rcases hgroup with rfl | hgroup
    · rcases List.mem_cons.mp hfield with rfl | hfield
      · exact List.mem_cons_self
      · exact List.mem_cons_of_mem _ (mem_ofIdentity.mp hfield).1
    · exact List.mem_cons_of_mem _ (mem_withoutIdentity.mp (ih hgroup)).1

/-- Behind the first group all groups have another identity. -/
theorem identity_ne_of_mem {identity : String × String} {fields : List SelectedField}
    {group : FieldGroup} (hgroup : group ∈ groups (withoutIdentity identity fields)) :
    group.identity ≠ identity :=
  (mem_withoutIdentity.mp (mem_of_mem_groups hgroup List.mem_cons_self)).2

/-- No two groups have the same identity. -/
theorem identities_nodup (fields : List SelectedField) :
    ((groups fields).map FieldGroup.identity).Nodup := by
  induction fields using groups.induct with
  | case1 => simp [groups_nil]
  | case2 first rest ih =>
    rw [groups_cons, List.map_cons, List.nodup_cons]
    refine ⟨fun hmem => ?_, ih⟩
    obtain ⟨group, hgroup, heq⟩ := List.mem_map.mp hmem
    exact identity_ne_of_mem hgroup heq

/-- A group holds the fields of its identity, in their order. -/
theorem fields_of_mem {fields : List SelectedField} {group : FieldGroup}
    (hgroup : group ∈ groups fields) : group.fields = ofIdentity group.identity fields := by
  induction fields using groups.induct with
  | case1 => simp [groups_nil] at hgroup
  | case2 first rest ih =>
    rw [groups_cons, List.mem_cons] at hgroup
    rcases hgroup with rfl | hgroup
    · exact (ofIdentity_cons_self first rest).symm
    · rw [ih hgroup, ofIdentity_withoutIdentity (identity_ne_of_mem hgroup)]

/-- Every field of a level is in one of its groups. -/
theorem exists_group {fields : List SelectedField} {field : SelectedField}
    (hfield : field ∈ fields) : ∃ group ∈ groups fields, field ∈ group.fields := by
  induction fields using groups.induct with
  | case1 => simp at hfield
  | case2 first rest ih =>
    rw [groups_cons]
    rcases List.mem_cons.mp hfield with rfl | hrest
    · exact ⟨_, List.mem_cons_self, List.mem_cons_self⟩
    · by_cases heq : field.identity = first.identity
      · have hmem := mem_ofIdentity.mpr ⟨hrest, heq⟩
        exact ⟨_, List.mem_cons_self, List.mem_cons_of_mem _ hmem⟩
      · obtain ⟨group, hgroup, hmem⟩ := ih (mem_withoutIdentity.mpr ⟨hrest, heq⟩)
        exact ⟨group, List.mem_cons_of_mem _ hgroup, hmem⟩

namespace Flatten

/-- The field that those of one identity are merged into. -/
def merge? (fields : List SelectedField) (identity : String × String) : Option SelectedField :=
  match ofIdentity identity fields with
  | [] => none
  | first :: rest => some ⟨first.label, (first :: rest).flatMap SelectedField.selections⟩

/-- Merging goes through the identities in the order of their first fields. -/
theorem mergeFields_eq_filterMap (fields : List SelectedField) :
    mergeFields fields = (fields.map SelectedField.identity).eraseDups.filterMap (merge? fields) :=
  rfl

/-- Fields of one identity taken out make no difference to those of others. -/
theorem filterMap_merge?_withoutIdentity {first : SelectedField} (rest : List SelectedField)
    {identities : List (String × String)} (h : ∀ other ∈ identities, other ≠ first.identity) :
    identities.filterMap (merge? (withoutIdentity first.identity rest)) =
      identities.filterMap (merge? (first :: rest)) := by
  induction identities with
  | nil => rfl
  | cons identity others ih =>
    have hhead : merge? (withoutIdentity first.identity rest) identity =
        merge? (first :: rest) identity := by
      rw [merge?, merge?, ofIdentity_withoutIdentity (h identity List.mem_cons_self)]
    rw [List.filterMap_cons, List.filterMap_cons, hhead,
      ih fun other hother => h other (List.mem_cons_of_mem _ hother)]

/-- **Merging makes one field of each group.** -/
theorem mergeFields_eq (fields : List SelectedField) :
    mergeFields fields = (groups fields).map FieldGroup.merged := by
  induction fields using groups.induct with
  | case1 => simp [mergeFields, groups_nil]
  | case2 first rest ih =>
    have hids : ((first :: rest).map SelectedField.identity).eraseDups =
        first.identity ::
          ((withoutIdentity first.identity rest).map SelectedField.identity).eraseDups := by
      rw [List.map_cons, List.eraseDups_cons, List.filter_map]
      rfl
    have hfirst : merge? (first :: rest) first.identity =
        some (FieldGroup.merged ⟨first, ofIdentity first.identity rest⟩) := by
      rw [merge?, ofIdentity_cons_self]
      rfl
    have hothers : ∀ other ∈
        ((withoutIdentity first.identity rest).map SelectedField.identity).eraseDups,
        other ≠ first.identity := by
      intro other hother
      obtain ⟨field, hfield, rfl⟩ := List.mem_map.mp (List.mem_eraseDups.mp hother)
      exact (mem_withoutIdentity.mp hfield).2
    rw [groups_cons, List.map_cons, ← ih, mergeFields_eq_filterMap, mergeFields_eq_filterMap,
      hids, List.filterMap_cons, hfirst, filterMap_merge?_withoutIdentity rest hothers]

end Flatten

end EnumBridge
