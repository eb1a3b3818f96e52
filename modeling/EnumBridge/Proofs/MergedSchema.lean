import EnumBridge.Schema.Draft
import Mathlib.Data.List.Nodup

/-!
# What a schema is built from

Type system documents say in many places what a schema consists of.  Read as one list of
definitions, they are `Consistent` if no type is defined twice, if no field is listed twice
for one type, and if every extension fits a type.

The main statement is `ofDocuments_merges`: documents are accepted exactly if they are
consistent, and then every defined type holds what its definition lists and what its extensions
list, in this order.  The order in which definitions and extensions of different types stand
does not matter, nor how they are spread over documents.

The proof follows the draft.  `load_eq_ok_iff` says what the draft holds once all definitions
are loaded, and `merge_eq_ok_iff` what one extension makes of types into which those in front of
it are merged already.
-/

set_option autoImplicit false

namespace EnumBridge

open TypeSystem

/-! ## What definitions list -/

namespace TypeBody

variable {φ α : Type}

/-- The values of an enum. -/
def values : TypeBody φ → List String
  | .enum values => values
  | _ => []

/-- The members of a union. -/
def members : TypeBody φ → List String
  | .union members => members
  | _ => []

/-- The interfaces that an object type or an interface implements. -/
def interfaces : TypeBody φ → List String
  | .object interfaces _ => interfaces
  | .interface interfaces _ => interfaces
  | _ => []

/-- The fields of an input object, an object type or an interface. -/
def fields : TypeBody (List α) → List α
  | .inputObject fields => fields
  | .object _ fields => fields
  | .interface _ fields => fields
  | _ => []

end TypeBody

namespace TypeSystem

/-- A field as the finished type holds it. -/
def FieldDefinition.entry (field : FieldDefinition) : String × TypeRef :=
  (field.name, .ofExpr field.type)

namespace TypeClause

/-- All fields that a definition of a type and some extensions list. -/
def allFields (clause : TypeClause) (extensions : List TypeClause) : List FieldDefinition :=
  clause.body.fields ++ extensions.flatMap fun extension => extension.body.fields

/-- No field is listed twice. -/
def Distinct (clause : TypeClause) (extensions : List TypeClause) : Prop :=
  ((clause.allFields extensions).map FieldDefinition.name).Nodup

/-- The type that holds what a definition lists and after that what some extensions list.  An
interface implements what its definition names; what its extensions name is left out. -/
def merged (clause : TypeClause) (extensions : List TypeClause) : TypeDef where
  name := clause.name
  body :=
    match clause.body with
    | .scalar => .scalar
    | .enum values => .enum (values ++ extensions.flatMap fun extension => extension.body.values)
    | .inputObject _ => .inputObject ((clause.allFields extensions).map FieldDefinition.entry)
    | .object interfaces _ =>
      .object (interfaces ++ extensions.flatMap fun extension => extension.body.interfaces)
        ((clause.allFields extensions).map FieldDefinition.entry)
    | .interface interfaces _ =>
      .interface interfaces ((clause.allFields extensions).map FieldDefinition.entry)
    | .union members =>
      .union (members ++ extensions.flatMap fun extension => extension.body.members)

end TypeClause

/-- The definitions of types among some definitions. -/
def clauses (definitions : List Definition) : List TypeClause :=
  definitions.filterMap fun definition =>
    match definition with
    | .type clause => some clause
    | _ => none

/-- The extensions among some definitions. -/
def extensions (definitions : List Definition) : List TypeClause :=
  definitions.filterMap fun definition =>
    match definition with
    | .extension clause => some clause
    | _ => none

/-- Those of some extensions that extend the type of that name. -/
def extending (name : String) (extensions : List TypeClause) : List TypeClause :=
  extensions.filter fun extension => extension.name = name

/-- Whether a definition says what the roots of operations are. -/
def Definition.isSchema : Definition → Bool
  | .schema _ _ => true
  | _ => false

/-- No field is listed twice for any of the types. -/
def FieldsDistinct (clauses extensions : List TypeClause) : Prop :=
  ∀ clause ∈ clauses, clause.Distinct (extending clause.name extensions)

/-- The type that an extension extends is defined, and it has the same kind. -/
def Fits (clauses : List TypeClause) (extension : TypeClause) : Prop :=
  ∃ clause ∈ clauses, clause.name = extension.name ∧ clause.body.kind = extension.body.kind

/-- Definitions that fit together, whatever order they stand in. -/
structure Consistent (definitions : List Definition) : Prop where
  types : ((clauses definitions).map TypeClause.name).Nodup
  fields : FieldsDistinct (clauses definitions) (extensions definitions)
  fits : ∀ extension ∈ extensions definitions, Fits (clauses definitions) extension

/-- The types of some definitions with extensions merged into them, under the names that are
defined. -/
def mergedTypes (clauses extensions : List TypeClause) : Table TypeDef :=
  clauses.map fun clause => (clause.name, clause.merged (extending clause.name extensions))

end TypeSystem

/-! ## One type -/

/-- A changed success comes from a success. -/
theorem Except.map_eq_ok_iff {ε α β : Type} {f : α → β} {x : Except ε α} {b : β} :
    f <$> x = .ok b ↔ ∃ a, x = .ok a ∧ b = f a := by
  cases x with
  | error e => simp [Functor.map, Except.map]
  | ok a => simp [Functor.map, Except.map, eq_comm]

/-- A sequence succeeds if both of its parts do. -/
theorem Except.bind_eq_ok_iff {ε α β : Type} {x : Except ε α} {f : α → Except ε β} {b : β} :
    (x >>= f) = .ok b ↔ ∃ a, x = .ok a ∧ f a = .ok b := by
  cases x with
  | error e => simp [bind, Except.bind]
  | ok a => simp [bind, Except.bind]

/-- A field can be added if its name is new, and then it comes last. -/
theorem FieldTable.add_eq_ok_iff {type : String} {table next : FieldTable}
    {field : FieldDefinition} :
    add type table field = .ok next ↔
      field.name ∉ Table.names table ∧ next = table ++ [field.entry] := by
  unfold add
  split
  · next hsome => simp [Table.mem_names_iff.mpr hsome]
  · next hnone =>
    have hnew : field.name ∉ Table.names table := fun hmem => hnone (Table.mem_names_iff.mp hmem)
    rw [Table.insert_of_notMem hnew]
    simp only [Except.ok.injEq, hnew, not_false_eq_true, true_and]
    exact eq_comm

/-- Fields can be added one after the other if all their names are new. -/
theorem FieldTable.addAll_eq_ok_iff {type : String} {table result : FieldTable}
    {fields : List FieldDefinition} (htable : (Table.names table).Nodup) :
    addAll type table fields = .ok result ↔
      (Table.names table ++ fields.map FieldDefinition.name).Nodup ∧
        result = table ++ fields.map FieldDefinition.entry := by
  induction fields generalizing table with
  | nil =>
    have hnil : addAll type table [] = .ok table := rfl
    simp [hnil, htable, eq_comm]
  | cons field rest ih =>
    have hstep : addAll type table (field :: rest) =
        add type table field >>= fun next => addAll type next rest := rfl
    rw [hstep, Except.bind_eq_ok_iff]
    simp only [add_eq_ok_iff]
    by_cases hfield : field.name ∈ Table.names table
    · have htwice : ¬ (Table.names table ++
          (field :: rest).map FieldDefinition.name).Nodup := by
        intro h
        exact (List.nodup_append.mp h).2.2 _ hfield field.name (by simp) rfl
      simp only [hfield, htwice, not_true_eq_false, false_and, exists_false]
    · have hconcat : Table.names (table ++ [field.entry]) = Table.names table ++ [field.name] := by
        simp [Table.names, FieldDefinition.entry]
      have hnames : (Table.names (table ++ [field.entry])).Nodup := by
        rw [hconcat]
        exact List.Nodup.append htable (by simp) (by simpa using hfield)
      constructor
      · rintro ⟨next, ⟨-, rfl⟩, hrest⟩
        simpa [hconcat] using (ih hnames).mp hrest
      · intro h
        exact ⟨_, ⟨hfield, rfl⟩, (ih hnames).mpr (by simpa [hconcat] using h)⟩

namespace TypeSystem.TypeClause

/-- A type is defined if no field is listed twice, and it holds what its definition lists. -/
theorem define_eq_ok_iff {clause : TypeClause} {type : TypeDef} :
    EnumBridge.TypeClause.define clause = .ok type ↔
      clause.Distinct [] ∧ type = clause.merged [] := by
  have hadd (fields : List FieldDefinition) (result : FieldTable) :
      FieldTable.addAll clause.name [] fields = .ok result ↔
        (fields.map FieldDefinition.name).Nodup ∧
          result = fields.map FieldDefinition.entry := by
    have hnil : (Table.names ([] : FieldTable)).Nodup := List.nodup_nil
    rw [FieldTable.addAll_eq_ok_iff hnil]
    simp [Table.names]
  unfold EnumBridge.TypeClause.define Distinct merged allFields
  rw [Except.map_eq_ok_iff]
  cases clause.body <;>
    simp [Except.map_eq_ok_iff, hadd, TypeBody.fields, and_assoc]

/-- The fields of more extensions come behind those of fewer. -/
theorem allFields_append (clause : TypeClause) (done more : List TypeClause) :
    clause.allFields (done ++ more) =
      clause.allFields done ++ more.flatMap fun extension => extension.body.fields := by
  simp [allFields]

/-- Where no field is listed twice, none is by fewer extensions. -/
theorem Distinct.of_append {clause : TypeClause} {done more : List TypeClause}
    (h : clause.Distinct (done ++ more)) : clause.Distinct done := by
  rw [Distinct, allFields_append, List.map_append] at h
  exact h.of_append_left

/-- An extension can be merged into a type if it has its kind and lists no field that is listed
already. -/
theorem extend_merged_eq_ok_iff {clause extension : TypeClause} {done : List TypeClause}
    (hdone : clause.Distinct done) {body : TypeBody FieldTable} :
    EnumBridge.TypeClause.extend extension (clause.merged done).body = .ok body ↔
      clause.body.kind = extension.body.kind ∧ clause.Distinct (done ++ [extension]) ∧
        body = (clause.merged (done ++ [extension])).body := by
  have hdistinct : ((clause.allFields done).map FieldDefinition.name).Nodup := hdone
  have hentries : Table.names ((clause.allFields done).map FieldDefinition.entry) =
      (clause.allFields done).map FieldDefinition.name := by
    rw [Table.names, List.map_map]
    rfl
  have hnames : (Table.names ((clause.allFields done).map FieldDefinition.entry)).Nodup := by
    rw [hentries]
    exact hdistinct
  have hadd (fields : List FieldDefinition) (result : FieldTable) :
      FieldTable.addAll extension.name ((clause.allFields done).map FieldDefinition.entry)
          fields = .ok result ↔
        ((clause.allFields done).map FieldDefinition.name ++
          fields.map FieldDefinition.name).Nodup ∧
        result = (clause.allFields done).map FieldDefinition.entry ++
          fields.map FieldDefinition.entry := by
    rw [FieldTable.addAll_eq_ok_iff hnames, hentries]
  unfold EnumBridge.TypeClause.extend merged Distinct
  cases hclause : clause.body <;> cases hextension : extension.body <;>
    simp [hextension, hadd, hdistinct, allFields_append, Except.map_eq_ok_iff, TypeBody.kind,
      TypeBody.fields, TypeBody.values, TypeBody.members, TypeBody.interfaces, and_assoc,
      eq_comm (b := body)]

end TypeSystem.TypeClause

/-! ## Types and their extensions -/

namespace TypeSystem

/-- The extensions of a type among two lists are those among the first and those among the
second. -/
theorem extending_append (name : String) (done more : List TypeClause) :
    extending name (done ++ more) = extending name done ++ extending name more :=
  List.filter_append ..

/-- An extension that comes last is the last one of the type that it extends. -/
theorem extending_concat_self {name : String} {extension : TypeClause}
    (h : extension.name = name) (done : List TypeClause) :
    extending name (done ++ [extension]) = extending name done ++ [extension] := by
  rw [extending_append]
  simp [extending, h]

/-- An extension that comes last adds nothing to those of another type. -/
theorem extending_concat_of_ne {name : String} {extension : TypeClause}
    (h : extension.name ≠ name) (done : List TypeClause) :
    extending name (done ++ [extension]) = extending name done := by
  rw [extending_append]
  simp [extending, h]

/-- Merged types stand under the names that are defined. -/
theorem names_mergedTypes (clauses extensions : List TypeClause) :
    Table.names (mergedTypes clauses extensions) = clauses.map TypeClause.name := by
  rw [Table.names, mergedTypes, List.map_map]
  rfl

/-- Under a name stands what becomes of the first definition of that name. -/
theorem lookup_mergedTypes (clauses extensions : List TypeClause) (name : String) :
    (mergedTypes clauses extensions).lookup name =
      (clauses.find? fun clause => clause.name == name).map fun clause =>
        clause.merged (extending clause.name extensions) := by
  induction clauses with
  | nil => rfl
  | cons clause rest ih =>
    have hcons : mergedTypes (clause :: rest) extensions =
        (clause.name, clause.merged (extending clause.name extensions)) ::
          mergedTypes rest extensions := rfl
    rw [hcons, List.find?_cons]
    by_cases hname : name = clause.name
    · simp [hname]
    · rw [Table.lookup_cons_of_ne hname, ih, beq_false_of_ne (Ne.symm hname)]

/-- Of entries with different names a look-up by name finds every one. -/
theorem find?_key_eq_some_iff {α : Type} {key : α → String} {entries : List α}
    (hkeys : (entries.map key).Nodup) {name : String} {entry : α} :
    (entries.find? fun other => key other == name) = some entry ↔
      entry ∈ entries ∧ key entry = name := by
  constructor
  · intro h
    exact ⟨List.mem_of_find?_eq_some h, by simpa using List.find?_some h⟩
  · rintro ⟨hmem, rfl⟩
    cases hfind : entries.find? fun other => key other == key entry with
    | none =>
      have hnone := List.find?_eq_none.mp hfind entry hmem
      simp at hnone
    | some other =>
      have hkey : key other = key entry := by simpa using List.find?_some hfind
      rw [List.inj_on_of_nodup_map hkeys (List.mem_of_find?_eq_some hfind) hmem hkey]

/-- A look-up by name finds nothing if no entry has the name. -/
theorem find?_key_eq_none_iff {α : Type} {key : α → String} {entries : List α} {name : String} :
    (entries.find? fun other => key other == name) = none ↔ name ∉ entries.map key := by
  simp [List.find?_eq_none]

/-- Of clauses with different names a look-up finds every one. -/
theorem find?_clause {clauses : List TypeClause} (hnames : (clauses.map TypeClause.name).Nodup)
    {clause : TypeClause} (hclause : clause ∈ clauses) :
    (clauses.find? fun other => other.name == clause.name) = some clause :=
  (find?_key_eq_some_iff hnames).mpr ⟨hclause, rfl⟩

/-- One more extension makes a difference for the type that it extends, and for no other. -/
theorem mergedTypes_concat {clauses done : List TypeClause}
    (hnames : (clauses.map TypeClause.name).Nodup) {clause extension : TypeClause}
    (hclause : clause ∈ clauses) (hname : clause.name = extension.name) :
    Table.insert extension.name (clause.merged (extending clause.name done ++ [extension]))
        (mergedTypes clauses done) =
      mergedTypes clauses (done ++ [extension]) := by
  have hkeys : (Table.names (mergedTypes clauses done)).Nodup := by rwa [names_mergedTypes]
  have htaken : extension.name ∈ Table.names (mergedTypes clauses done) := by
    rw [names_mergedTypes]
    exact List.mem_map.mpr ⟨clause, hclause, hname⟩
  rw [Table.insert_of_mem hkeys htaken, mergedTypes, mergedTypes, List.map_map]
  refine List.map_congr_left fun other hother => ?_
  rw [Function.comp_apply]
  by_cases hsame : other.name = extension.name
  · have heq := List.inj_on_of_nodup_map hnames hother hclause (hsame.trans hname.symm)
    rw [if_pos hsame, heq, extending_concat_self hname.symm]
  · rw [if_neg hsame, extending_concat_of_ne (Ne.symm hsame)]

/-- Without types no field is listed twice. -/
@[simp] theorem fieldsDistinct_nil (extensions : List TypeClause) :
    FieldsDistinct [] extensions := by
  simp [FieldsDistinct]

/-- For one type it is the fields of that type that count. -/
@[simp] theorem fieldsDistinct_singleton (clause : TypeClause) (extensions : List TypeClause) :
    FieldsDistinct [clause] extensions ↔ clause.Distinct (extending clause.name extensions) := by
  simp [FieldsDistinct]

/-- The types of two lists are looked at one by one. -/
theorem fieldsDistinct_append (front back extensions : List TypeClause) :
    FieldsDistinct (front ++ back) extensions ↔
      FieldsDistinct front extensions ∧ FieldsDistinct back extensions :=
  List.forall_mem_append

/-- An extension fits if it has the kind of the one type that has its name. -/
theorem fits_iff_of_name {clauses : List TypeClause}
    (hnames : (clauses.map TypeClause.name).Nodup) {clause extension : TypeClause}
    (hclause : clause ∈ clauses) (hname : clause.name = extension.name) :
    Fits clauses extension ↔ clause.body.kind = extension.body.kind := by
  constructor
  · rintro ⟨other, hother, hsame, hkind⟩
    rwa [← List.inj_on_of_nodup_map hnames hother hclause (hsame.trans hname.symm)]
  · intro hkind
    exact ⟨clause, hclause, hname, hkind⟩

/-- Behind one more extension the fields of one type have to be looked at again. -/
theorem fieldsDistinct_concat_iff {clauses done : List TypeClause}
    (hnames : (clauses.map TypeClause.name).Nodup) (hdone : FieldsDistinct clauses done)
    {clause extension : TypeClause} (hclause : clause ∈ clauses)
    (hname : clause.name = extension.name) :
    FieldsDistinct clauses (done ++ [extension]) ↔
      clause.Distinct (extending clause.name done ++ [extension]) := by
  have hown := extending_concat_self hname.symm done
  constructor
  · intro h
    rw [← hown]
    exact h clause hclause
  · intro h other hother
    by_cases hsame : other.name = extension.name
    · have heq := List.inj_on_of_nodup_map hnames hother hclause (hsame.trans hname.symm)
      rw [heq, hown]
      exact h
    · rw [extending_concat_of_ne (Ne.symm hsame)]
      exact hdone other hother

/-- Where no field is listed twice, none is by fewer extensions. -/
theorem FieldsDistinct.of_append {clauses done more : List TypeClause}
    (h : FieldsDistinct clauses (done ++ more)) : FieldsDistinct clauses done := by
  intro clause hclause
  have hall := h clause hclause
  rw [extending_append] at hall
  exact hall.of_append

/-- An extension can be merged if it fits one of the types and lists no field that is listed
for that type already. -/
theorem merge_eq_ok_iff {clauses done : List TypeClause}
    (hnames : (clauses.map TypeClause.name).Nodup) (hdone : FieldsDistinct clauses done)
    {extension : TypeClause} {types : Table TypeDef} :
    Schema.Draft.merge (mergedTypes clauses done) extension = .ok types ↔
      Fits clauses extension ∧ FieldsDistinct clauses (done ++ [extension]) ∧
        types = mergedTypes clauses (done ++ [extension]) := by
  rw [Schema.Draft.merge, lookup_mergedTypes]
  cases hfind : clauses.find? fun clause => clause.name == extension.name with
  | none =>
    have hnone (clause : TypeClause) (hclause : clause ∈ clauses) :
        clause.name ≠ extension.name := by
      simpa using List.find?_eq_none.mp hfind clause hclause
    simp only [Option.map_none, reduceCtorEq, false_iff]
    rintro ⟨⟨clause, hclause, hname, -⟩, -, -⟩
    exact hnone clause hclause hname
  | some clause =>
    have hclause := List.mem_of_find?_eq_some hfind
    have hname : clause.name = extension.name := by simpa using List.find?_some hfind
    rw [fits_iff_of_name hnames hclause hname,
      fieldsDistinct_concat_iff hnames hdone hclause hname]
    simp only [Option.map_some, Except.bind_eq_ok_iff,
      TypeClause.extend_merged_eq_ok_iff (hdone clause hclause)]
    -- The type keeps its own name, which is the name of the definition.
    have hinsert : Table.insert extension.name
        ⟨(clause.merged (extending clause.name done)).name,
          (clause.merged (extending clause.name done ++ [extension])).body⟩
        (mergedTypes clauses done) = mergedTypes clauses (done ++ [extension]) :=
      mergedTypes_concat hnames hclause hname
    constructor
    · rintro ⟨body, ⟨hkind, hnew, rfl⟩, htypes⟩
      rw [hinsert] at htypes
      cases htypes
      exact ⟨hkind, hnew, rfl⟩
    · rintro ⟨hkind, hnew, rfl⟩
      refine ⟨_, ⟨hkind, hnew, rfl⟩, ?_⟩
      rw [hinsert]
      rfl

/-- Extensions can be merged one after the other if every one fits and no field is listed
twice. -/
theorem foldlM_merge_eq_ok_iff {clauses done : List TypeClause}
    (hnames : (clauses.map TypeClause.name).Nodup) (hdone : FieldsDistinct clauses done)
    {extensions : List TypeClause} {types : Table TypeDef} :
    extensions.foldlM Schema.Draft.merge (mergedTypes clauses done) = .ok types ↔
      (∀ extension ∈ extensions, Fits clauses extension) ∧
        FieldsDistinct clauses (done ++ extensions) ∧
        types = mergedTypes clauses (done ++ extensions) := by
  induction extensions generalizing done with
  | nil =>
    simp only [List.foldlM_nil, List.append_nil, List.not_mem_nil, false_implies, implies_true,
      true_and]
    constructor
    · rintro ⟨rfl⟩
      exact ⟨hdone, rfl⟩
    · rintro ⟨-, rfl⟩
      rfl
  | cons extension rest ih =>
    have hsplit : done ++ extension :: rest = done ++ [extension] ++ rest := by simp
    rw [List.foldlM_cons, Except.bind_eq_ok_iff, List.forall_mem_cons, hsplit]
    simp only [merge_eq_ok_iff hnames hdone]
    constructor
    · rintro ⟨next, ⟨hfits, hnew, rfl⟩, hrest⟩
      obtain ⟨hothers, hall, htypes⟩ := (ih hnew).mp hrest
      exact ⟨⟨hfits, hothers⟩, hall, htypes⟩
    · rintro ⟨⟨hfits, hothers⟩, hall, htypes⟩
      have hnew := hall.of_append
      exact ⟨_, ⟨hfits, hnew, rfl⟩, (ih hnew).mpr ⟨hothers, hall, htypes⟩⟩

end TypeSystem

/-! ## Whole documents -/

namespace Roots

/-- Whether a schema definition has given a root. -/
def given (roots : Roots) : Bool :=
  roots.query.isSome || roots.mutation.isSome || roots.subscription.isSome

/-- The roots behind a definition.  A schema definition gives them, unless another has. -/
def after? (roots : Roots) : TypeSystem.Definition → Option Roots
  | .schema _ new => if roots.given then none else some new
  | _ => some roots

/-- A definition that is no schema definition leaves the roots alone. -/
theorem after?_of_not_isSchema {definition : TypeSystem.Definition}
    (h : definition.isSchema = false) (roots : Roots) : roots.after? definition = some roots := by
  cases definition with
  | schema position new => cases h
  | _ => rfl

/-- A single schema definition can give the roots. -/
theorem exists_foldlM_after? {definitions : List TypeSystem.Definition} {roots : Roots}
    (hroots : roots.given = false) (h : definitions.countP Definition.isSchema ≤ 1) :
    ∃ after, definitions.foldlM after? roots = some after := by
  have hkeep (rest : List TypeSystem.Definition) (new : Roots)
      (hrest : rest.countP Definition.isSchema = 0) :
      rest.foldlM after? new = some new := by
    induction rest with
    | nil => rfl
    | cons definition rest ih =>
      rw [List.countP_cons] at hrest
      have hschema : definition.isSchema = false := by
        cases hs : definition.isSchema <;> simp [hs] at hrest ⊢
      rw [List.foldlM_cons, after?_of_not_isSchema hschema]
      exact ih (by omega)
  induction definitions with
  | nil => exact ⟨roots, rfl⟩
  | cons definition rest ih =>
    rw [List.countP_cons] at h
    rw [List.foldlM_cons]
    cases hschema : definition.isSchema with
    | false =>
      rw [after?_of_not_isSchema hschema]
      exact ih (by omega)
    | true =>
      rw [hschema, if_pos rfl] at h
      cases definition with
      | schema position new =>
        refine ⟨new, ?_⟩
        simp only [after?, hroots, Bool.false_eq_true, if_false]
        exact hkeep rest new (by omega)
      | _ => cases hschema

end Roots

namespace TypeSystem

/-- The types of definitions are those of the first part and those of the second. -/
theorem clauses_append (front back : List Definition) :
    clauses (front ++ back) = clauses front ++ clauses back :=
  List.filterMap_append ..

/-- The extensions of definitions are those of the first part and those of the second. -/
theorem extensions_append (front back : List Definition) :
    extensions (front ++ back) = extensions front ++ extensions back :=
  List.filterMap_append ..

/-- What a draft becomes when definitions are loaded into it, and that they can be. -/
structure Loaded (draft : Schema.Draft) (definitions : List Definition) (after : Schema.Draft) :
    Prop where
  roots : definitions.foldlM Roots.after? draft.roots = some after.roots
  names : (Table.names draft.types ++ (clauses definitions).map TypeClause.name).Nodup
  fields : FieldsDistinct (clauses definitions) []
  types : after.types = draft.types ++ mergedTypes (clauses definitions) []
  extensions : after.extensions = draft.extensions ++ extensions definitions

/-- Definitions are loaded if a first part of them is, and the rest behind it. -/
theorem loaded_append_iff {draft after : Schema.Draft} {front back : List Definition} :
    Loaded draft (front ++ back) after ↔
      ∃ next, Loaded draft front next ∧ Loaded next back after := by
  constructor
  · intro h
    obtain ⟨hroots, hnames, hfields, htypes, hextensions⟩ := h
    rw [List.foldlM_append] at hroots
    obtain ⟨middle, hfront, hback⟩ := Option.bind_eq_some_iff.mp hroots
    rw [clauses_append, List.map_append, ← List.append_assoc] at hnames
    rw [clauses_append, fieldsDistinct_append] at hfields
    refine ⟨⟨middle, draft.types ++ mergedTypes (clauses front) [],
      draft.extensions ++ extensions front⟩, ?_, ?_⟩
    · exact ⟨hfront, hnames.of_append_left, hfields.1, rfl, rfl⟩
    · refine ⟨hback, ?_, hfields.2, ?_, ?_⟩
      · simpa [Table.names_append, names_mergedTypes] using hnames
      · simp [htypes, clauses_append, mergedTypes]
      · simp [hextensions, extensions_append]
  · rintro ⟨next, hfront, hback⟩
    have hnames := hback.names
    rw [hfront.types, Table.names_append, names_mergedTypes] at hnames
    refine ⟨?_, ?_, ?_, ?_, ?_⟩
    · rw [List.foldlM_append, hfront.roots]
      exact hback.roots
    · rw [clauses_append, List.map_append, ← List.append_assoc]
      exact hnames
    · rw [clauses_append, fieldsDistinct_append]
      exact ⟨hfront.fields, hback.fields⟩
    · rw [hback.types, hfront.types]
      simp [clauses_append, mergedTypes]
    · rw [hback.extensions, hfront.extensions]
      simp [extensions_append]

/-- What is loaded is decided by the roots, the names and the fields, and nothing else can be
loaded. -/
theorem loaded_iff {draft after : Schema.Draft} {definitions : List Definition} :
    Loaded draft definitions after ↔
      ∃ roots, definitions.foldlM Roots.after? draft.roots = some roots ∧
        (Table.names draft.types ++ (clauses definitions).map TypeClause.name).Nodup ∧
        FieldsDistinct (clauses definitions) [] ∧
        after = ⟨roots, draft.types ++ mergedTypes (clauses definitions) [],
          draft.extensions ++ extensions definitions⟩ := by
  constructor
  · rintro ⟨hroots, hnames, hfields, htypes, hextensions⟩
    refine ⟨after.roots, hroots, hnames, hfields, ?_⟩
    rw [← htypes, ← hextensions]
  · rintro ⟨roots, hroots, hnames, hfields, rfl⟩
    exact ⟨hroots, hnames, hfields, rfl, rfl⟩

/-- One definition is loaded if it defines no type of a name that is taken, lists no field
twice, and gives no roots where roots are given. -/
theorem add_eq_ok_iff {draft after : Schema.Draft} {definition : Definition}
    (hnames : (Table.names draft.types).Nodup) :
    draft.add definition = .ok after ↔ Loaded draft [definition] after := by
  rw [loaded_iff]
  cases definition with
  | schema position roots =>
    have hgiven : draft.hasRoots = draft.roots.given := rfl
    rw [Schema.Draft.add, hgiven]
    cases hroots : draft.roots.given <;>
      simp [Roots.after?, hroots, clauses, extensions, mergedTypes, hnames, eq_comm (b := after)]
  | type clause =>
    have hadd : (Table.names draft.types ++ [clause.name]).Nodup ↔
        clause.name ∉ Table.names draft.types := by
      rw [List.nodup_append_comm, List.singleton_append, List.nodup_cons, and_iff_left hnames]
    have hown (type : TypeDef) (h : type = clause.merged []) : type.name = clause.name := by
      rw [h]
      rfl
    rw [Schema.Draft.add, Except.bind_eq_ok_iff]
    simp only [TypeClause.define_eq_ok_iff, and_assoc, exists_and_left, exists_eq_left,
      Schema.Draft.addType, hown _ rfl, ← Table.mem_names_iff]
    by_cases hname : clause.name ∈ Table.names draft.types
    · simp [hname, clauses, hadd, Except.bind_eq_ok_iff]
    · simp [hname, hadd, Roots.after?, clauses, extensions, mergedTypes, extending,
        Table.insert_of_notMem hname, Except.bind_eq_ok_iff, eq_comm (b := after)]
  | extension clause =>
    simp [Schema.Draft.add, Roots.after?, clauses, extensions, mergedTypes, hnames,
      eq_comm (b := after)]
  | directive =>
    simp [Schema.Draft.add, Roots.after?, clauses, extensions, mergedTypes, hnames,
      eq_comm (b := after)]

/-- The draft loads definitions exactly if they can be loaded, and becomes what they make of it. -/
theorem load_eq_ok_iff {draft after : Schema.Draft} {definitions : List Definition}
    (hnames : (Table.names draft.types).Nodup) :
    draft.load definitions = .ok after ↔ Loaded draft definitions after := by
  induction definitions generalizing draft with
  | nil =>
    have hnil : draft.load [] = .ok draft := rfl
    rw [hnil, loaded_iff]
    simp [clauses, extensions, mergedTypes, hnames, eq_comm (b := after)]
  | cons definition rest ih =>
    have hstep : draft.load (definition :: rest) =
        draft.add definition >>= fun next => next.load rest := rfl
    rw [hstep, Except.bind_eq_ok_iff, ← List.singleton_append, loaded_append_iff]
    refine exists_congr fun next => ?_
    rw [add_eq_ok_iff hnames]
    refine and_congr_right fun hnext => ih ?_
    have hafter := hnext.names
    rw [← names_mergedTypes _ [], ← Table.names_append, ← hnext.types] at hafter
    exact hafter

/-- Documents loaded one after the other are loaded like one document with all definitions. -/
theorem foldlM_load (documents : List (List Definition)) (draft : Schema.Draft) :
    documents.foldlM Schema.Draft.load draft = draft.load documents.flatten := by
  induction documents generalizing draft with
  | nil => rfl
  | cons document rest ih =>
    rw [List.foldlM_cons, List.flatten_cons, Schema.Draft.load, Schema.Draft.load,
      List.foldlM_append]
    exact bind_congr ih

/-- The schema that some definitions build, whatever documents they stand in: their schema
definitions give the roots, they are consistent, and its types are the merged ones. -/
structure Builds (definitions : List Definition) (schema : Schema) : Prop where
  consistent : Consistent definitions
  schema : ∃ roots, definitions.foldlM Roots.after? ⟨none, none, none⟩ = some roots ∧
    Schema.Draft.build ⟨roots, mergedTypes (clauses definitions) (extensions definitions), []⟩ =
      .ok schema

/-- Documents make a schema exactly if their definitions, read as one list, build it. -/
theorem ofDocuments_eq_ok_iff {documents : List (List Definition)} {schema : Schema} :
    Schema.ofDocuments documents = .ok schema ↔ Builds documents.flatten schema := by
  have hbuild (draft : Schema.Draft) : draft.build =
      draft.extensions.foldlM Schema.Draft.merge draft.types >>= fun types =>
        Schema.Draft.build ⟨draft.roots, types, []⟩ := rfl
  have hempty : (Table.names Schema.Draft.empty.types).Nodup := List.nodup_nil
  rw [Schema.ofDocuments, Except.bind_eq_ok_iff, foldlM_load]
  simp only [load_eq_ok_iff hempty]
  constructor
  · rintro ⟨draft, hloaded, hschema⟩
    obtain ⟨roots, hroots, hnames, hfields, rfl⟩ := loaded_iff.mp hloaded
    rw [hbuild, Except.bind_eq_ok_iff] at hschema
    obtain ⟨types, hmerged, hschema⟩ := hschema
    obtain ⟨hfits, hdistinct, rfl⟩ := (foldlM_merge_eq_ok_iff hnames hfields).mp hmerged
    exact ⟨⟨hnames, hdistinct, hfits⟩, roots, hroots, hschema⟩
  · rintro ⟨hconsistent, roots, hroots, hschema⟩
    have hfields : FieldsDistinct (clauses documents.flatten) [] :=
      hconsistent.fields.of_append
    refine ⟨_, loaded_iff.mpr ⟨roots, hroots, hconsistent.types, hfields, rfl⟩, ?_⟩
    rw [hbuild, Except.bind_eq_ok_iff]
    refine ⟨_, ?_, hschema⟩
    exact (foldlM_merge_eq_ok_iff hconsistent.types hfields).mpr
      ⟨hconsistent.fits, hconsistent.fields, rfl⟩

/-- A scalar is found under its name, unless another type stands there. -/
theorem lookup_addScalar (types : Table TypeDef) (scalar name : String) :
    (Schema.Draft.addScalar types scalar).lookup name =
      (types.lookup name).or (if name = scalar then some ⟨scalar, .scalar⟩ else none) := by
  unfold Schema.Draft.addScalar
  split
  · next hsome =>
    by_cases hname : name = scalar
    · subst hname
      obtain ⟨type, hfind⟩ := Option.isSome_iff_exists.mp hsome
      simp [hfind]
    · simp [hname]
  · next hnone =>
    rw [Table.lookup_insert]
    by_cases hname : name = scalar
    · subst hname
      simp [Option.not_isSome_iff_eq_none.mp hnone]
    · simp [hname]

/-- Scalars are found under their names, unless other types stand there. -/
theorem lookup_foldl_addScalar (scalars : List String) (types : Table TypeDef) (name : String) :
    (scalars.foldl Schema.Draft.addScalar types).lookup name =
      (types.lookup name).or (if name ∈ scalars then some ⟨name, .scalar⟩ else none) := by
  induction scalars generalizing types with
  | nil => simp
  | cons scalar rest ih =>
    rw [List.foldl_cons, ih, lookup_addScalar, Option.or_assoc]
    by_cases hname : name = scalar <;> simp [hname]

/-- A look-up in the schema finds merged types and the scalars that every schema has. -/
theorem Builds.find?_eq {definitions : List Definition} {schema : Schema}
    (h : Builds definitions schema) (name : String) :
    schema.find? name =
      (((clauses definitions).find? fun clause => clause.name == name).map fun clause =>
        clause.merged (extending clause.name (extensions definitions))).or
          (if name ∈ Schema.builtinScalars then some ⟨name, .scalar⟩ else none) := by
  obtain ⟨-, roots, -, hbuild⟩ := h
  rw [← lookup_mergedTypes, ← lookup_foldl_addScalar]
  cases hbuild
  rfl

/-- A type that is defined is found by name, with its extensions merged into it. -/
theorem Builds.find?_clause {definitions : List Definition} {schema : Schema}
    (h : Builds definitions schema) {clause : TypeClause} (hclause : clause ∈ clauses definitions) :
    schema.find? clause.name =
      some (clause.merged (extending clause.name (extensions definitions))) := by
  rw [h.find?_eq, TypeSystem.find?_clause h.consistent.types hclause]
  rfl

/-- **Consistent documents merge.**  Documents with one schema definition at most are accepted
exactly if no type is defined twice, no field is listed twice for a type by its definition and
its extensions, and every extension fits a type, wherever it stands.  Then every defined type
holds what its definition lists and after that what its extensions list in their order, and
beside the defined types there are those scalars only that every schema has. -/
theorem ofDocuments_merges {documents : List (List Definition)}
    (hroots : documents.flatten.countP Definition.isSchema ≤ 1) :
    ((∃ schema, Schema.ofDocuments documents = .ok schema) ↔ Consistent documents.flatten) ∧
      ∀ schema, Schema.ofDocuments documents = .ok schema →
        (∀ clause ∈ clauses documents.flatten, schema.find? clause.name =
          some (clause.merged (extending clause.name (extensions documents.flatten)))) ∧
        ∀ name, name ∉ (clauses documents.flatten).map TypeClause.name →
          schema.find? name =
            if name ∈ Schema.builtinScalars then some ⟨name, .scalar⟩ else none := by
  refine ⟨⟨?_, ?_⟩, ?_⟩
  · rintro ⟨schema, hschema⟩
    exact (ofDocuments_eq_ok_iff.mp hschema).consistent
  · intro hconsistent
    have hempty : (Roots.mk none none none).given = false := rfl
    obtain ⟨roots, hafter⟩ := Roots.exists_foldlM_after? hempty hroots
    exact ⟨_, ofDocuments_eq_ok_iff.mpr ⟨hconsistent, roots, hafter, rfl⟩⟩
  · intro schema hschema
    have hbuilds := ofDocuments_eq_ok_iff.mp hschema
    refine ⟨fun clause hclause => hbuilds.find?_clause hclause, fun name hname => ?_⟩
    have hnone : ((clauses documents.flatten).find? fun clause => clause.name == name) =
        none := by
      rw [List.find?_eq_none]
      intro clause hclause hsame
      exact hname (List.mem_map.mpr ⟨clause, hclause, by simpa using hsame⟩)
    rw [hbuilds.find?_eq, hnone]
    rfl

/-- The definition `type Basket implements Weighed { weight: Int }`. -/
def basketClause : TypeClause :=
  ⟨"Basket", ⟨2, 1⟩, .object ["Weighed"] [⟨"weight", ⟨2, 33⟩, .named "Int"⟩]⟩

/-- The extension `extend type Basket implements Owned { ripe: [Fruit] }`. -/
def basketExtension : TypeClause :=
  ⟨"Basket", ⟨1, 8⟩, .object ["Owned"] [⟨"ripe", ⟨1, 39⟩, .list (.named "Fruit")⟩]⟩

/-- An extension in front of the type that it extends, and in another document. -/
def basketDocuments : List (List Definition) :=
  [[.extension basketExtension],
    [.schema ⟨1, 1⟩ ⟨some "Basket", none, none⟩, .type basketClause,
      .type ⟨"Fruit", ⟨3, 1⟩, .enum ["APPLE", "PEAR"]⟩]]

/-- A type whose extension stands in a document in front of it holds the interfaces and the fields
of both, its own first. -/
theorem ofDocuments_merges_basket :
    basketDocuments.flatten.countP Definition.isSchema ≤ 1 ∧ Consistent basketDocuments.flatten ∧
      ∃ schema, Schema.ofDocuments basketDocuments = .ok schema ∧
        schema.find? "Basket" = some ⟨"Basket", .object ["Weighed", "Owned"]
          [("weight", .named "Int"), ("ripe", .list (.named "Fruit"))]⟩ := by
  have hroots : basketDocuments.flatten.countP Definition.isSchema ≤ 1 := by decide
  obtain ⟨haccepted, hmerged⟩ := ofDocuments_merges hroots
  have hclause : basketClause ∈ clauses basketDocuments.flatten := List.mem_cons_self
  exact ⟨hroots, haccepted.mp ⟨_, rfl⟩, _, rfl, (hmerged _ rfl).1 basketClause hclause⟩

end TypeSystem

end EnumBridge
