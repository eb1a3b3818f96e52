import EnumBridge.Proofs.EnumSite
import EnumBridge.Proofs.SchemaRoots

/-!
# What holds of every schema that is built

In a table of types a type may stand under any name, whatever it is called itself.  `Schema.Keyed`
says that it stands under its own, and that no name is given twice.  A draft begins with no types
(`Keyed.empty`), and loading a definition, merging an extension and adding a scalar each keep the
table in this state (`Keyed.of_add`, `Keyed.of_merge`, `Keyed.addScalar`); so it is that of every
schema that is built (`keyed_ofDocuments`).

`Schema.Represents` says of a schema what some definitions make of it: the table is keyed, so that a
look-up finds a type under its own name and under no other; the names are those that are defined
and those of the scalars that every schema has; and the roots are those that are given, or else the
object types of the customary names.

The main statement is `represents_ofDocuments`.  Conversion goes by the name that an enum has itself
and not by the one under which it is found.  In a schema that is built this makes no difference
(`hasEnum_iff_of_ofDocuments`).
-/

set_option autoImplicit false

namespace EnumBridge

open TypeSystem

/-- What every step keeps is kept by a run of steps that succeeds. -/
theorem Except.foldlM_preserves {ε α β : Type} {motive : β → Prop} {step : β → α → Except ε β}
    (hstep : ∀ before item after, motive before → step before item = .ok after → motive after)
    {items : List α} {first last : β} (hfirst : motive first)
    (h : items.foldlM step first = .ok last) : motive last := by
  induction items generalizing first with
  | nil =>
    cases h
    exact hfirst
  | cons item rest ih =>
    rw [List.foldlM_cons, Except.bind_eq_ok_iff] at h
    obtain ⟨next, hnext, hrest⟩ := h
    exact ih (hstep first item next hfirst hnext) hrest

/-! ## Types under their own names -/

namespace Schema

/-- No name is given to two types, and every type stands under the name that it has itself. -/
structure Keyed (types : Table TypeDef) : Prop where
  distinct : (Table.names types).Nodup
  own : ∀ name type, (name, type) ∈ types → type.name = name

namespace Keyed

variable {types after : Table TypeDef}

/-- A table without types is keyed. -/
theorem empty : Keyed [] := ⟨List.nodup_nil, fun _ _ h => nomatch h⟩

/-- A look-up finds what stands in the table, a type under its own name and under no other. -/
theorem lookup_eq_some_iff (h : Keyed types) {name : String} {type : TypeDef} :
    types.lookup name = some type ↔ (name, type) ∈ types ∧ type.name = name := by
  rw [Table.lookup_eq_some_iff h.distinct]
  exact ⟨fun hmem => ⟨hmem, h.own name type hmem⟩, And.left⟩

/-- A type may be put under the name that it has itself. -/
theorem insert (h : Keyed types) {name : String} {type : TypeDef} (hname : type.name = name) :
    Keyed (Table.insert name type types) := by
  refine ⟨Table.nodup_names_insert h.distinct name type, fun other held hmem => ?_⟩
  rcases Table.mem_of_mem_insert hmem with heq | hmem
  · cases heq
    exact hname
  · exact h.own other held hmem

/-- A definition puts its type under the name of the type. -/
theorem of_add {draft next : Draft} {definition : TypeSystem.Definition} (h : Keyed draft.types)
    (hadd : draft.add definition = .ok next) : Keyed next.types := by
  cases definition with
  | schema position roots =>
    rw [Draft.add] at hadd
    split at hadd <;> cases hadd
    exact h
  | type clause =>
    rw [Draft.add, Except.bind_eq_ok_iff] at hadd
    obtain ⟨type, -, hadd⟩ := hadd
    rw [Except.bind_eq_ok_iff] at hadd
    obtain ⟨more, hmore, hnext⟩ := hadd
    cases hnext
    rw [Draft.addType] at hmore
    split at hmore <;> cases hmore
    exact h.insert rfl
  | extension clause =>
    cases hadd
    exact h
  | directive =>
    cases hadd
    exact h

/-- An extension changes what a type consists of.  It finds the type under the name that the type
has, and leaves it that name. -/
theorem of_merge {clause : TypeClause} (h : Keyed types)
    (hmerge : Draft.merge types clause = .ok after) : Keyed after := by
  unfold Draft.merge at hmerge
  cases hfind : types.lookup clause.name with
  | none =>
    rw [hfind] at hmerge
    cases hmerge
  | some type =>
    simp only [hfind, Except.bind_eq_ok_iff] at hmerge
    obtain ⟨body, -, hafter⟩ := hmerge
    cases hafter
    exact h.insert (h.lookup_eq_some_iff.mp hfind).2

/-- A scalar that is added stands under its own name. -/
theorem addScalar (h : Keyed types) (name : String) : Keyed (Draft.addScalar types name) := by
  unfold Draft.addScalar
  split
  · exact h
  · exact h.insert rfl

/-- A schema has the types of its draft, with extensions merged and scalars added. -/
theorem of_build {draft : Draft} {schema : Schema} (h : Keyed draft.types)
    (hbuild : draft.build = .ok schema) : Keyed schema.types := by
  rw [Draft.build, Except.bind_eq_ok_iff] at hbuild
  obtain ⟨merged, hmerged, hschema⟩ := hbuild
  have hkeyed : Keyed merged :=
    Except.foldlM_preserves (fun _ _ _ hbefore hstep => hbefore.of_merge hstep) h hmerged
  cases hschema
  exact List.foldlRecOn _ _ hkeyed fun _ hbefore name _ => hbefore.addScalar name

end Keyed

/-- The types of a schema that is built stand under their own names. -/
theorem keyed_ofDocuments {documents : List (List TypeSystem.Definition)} {schema : Schema}
    (h : ofDocuments documents = .ok schema) : Keyed schema.types := by
  rw [ofDocuments, Except.bind_eq_ok_iff] at h
  obtain ⟨draft, hload, hbuild⟩ := h
  have hdraft : Keyed draft.types := by
    refine Except.foldlM_preserves (motive := fun draft => Keyed draft.types) ?_ .empty hload
    intro before definitions after hbefore hstep
    exact Except.foldlM_preserves (fun _ _ _ hkeyed hadd => Keyed.of_add hkeyed hadd) hbefore hstep
  exact hdraft.of_build hbuild

end Schema

/-! ## What definitions make of a schema -/

/-- The name of the type that operations of a kind start from where no definition says so. -/
def OperationKind.customaryRoot : OperationKind → String
  | .query => "Query"
  | .mutation => "Mutation"
  | .subscription => "Subscription"

namespace Schema

/-- The schema has an object type under that name. -/
def IsObject (schema : Schema) (name : String) : Prop :=
  ∃ type, schema.find? name = some type ∧ type.kind = .object

/-- What a schema is, if some definitions are all that it is built from. -/
structure Represents (schema : Schema) (definitions : List TypeSystem.Definition) : Prop where
  /-- No name is given to two types, and every type is stored under its own name. -/
  keyed : Keyed schema.types
  /-- A look-up finds the types that are stored, a type under its own name and under no other. -/
  found : ∀ name type, schema.find? name = some type ↔
    (name, type) ∈ schema.types ∧ type.name = name
  /-- The names are those that are defined, and those of the scalars that every schema has. -/
  names : ∀ name, name ∈ Table.names schema.types ↔
    name ∈ (clauses definitions).map TypeClause.name ∨ name ∈ builtinScalars
  /-- A defined type is what its definition and its extensions list, also under the name of a
  scalar that every schema has. -/
  defined : ∀ clause ∈ clauses definitions, schema.find? clause.name =
    some (clause.merged (extending clause.name (extensions definitions)))
  /-- A name that every schema has is that of a scalar, unless it is defined. -/
  builtin : ∀ name ∈ builtinScalars, name ∉ (clauses definitions).map TypeClause.name →
    schema.find? name = some ⟨name, .scalar⟩
  /-- A root is the one that is given, or else the object type of the customary name. -/
  roots : ∀ kind name, schema.roots.ofKind kind = some name ↔
    RootGiven definitions kind name ∨
      (∀ other, ¬ RootGiven definitions kind other) ∧ name = kind.customaryRoot ∧
        schema.IsObject name
  /-- A root that is not given is an object type. -/
  default_isObject : ∀ kind name, (∀ other, ¬ RootGiven definitions kind other) →
    schema.roots.ofKind kind = some name →
    ∃ type, schema.root? kind = some type ∧ type.kind = .object

namespace Draft

/-- A scalar that is added adds its name, if that was not there. -/
theorem mem_names_addScalar {types : Table TypeDef} {scalar name : String} :
    name ∈ Table.names (addScalar types scalar) ↔ name ∈ Table.names types ∨ name = scalar := by
  unfold addScalar
  split
  · next hsome =>
    have htaken := Table.mem_names_iff.mpr hsome
    constructor
    · exact Or.inl
    · rintro (hname | rfl)
      · exact hname
      · exact htaken
  · next hnone =>
    rw [Table.names_insert, if_neg fun hmem => hnone (Table.mem_names_iff.mp hmem)]
    simp

/-- Scalars that are added add their names. -/
theorem mem_names_foldl_addScalar {scalars : List String} {types : Table TypeDef}
    {name : String} :
    name ∈ Table.names (scalars.foldl addScalar types) ↔
      name ∈ Table.names types ∨ name ∈ scalars := by
  induction scalars generalizing types with
  | nil => simp
  | cons scalar rest ih => rw [List.foldl_cons, ih, mem_names_addScalar, List.mem_cons, or_assoc]

/-- The default for a root is the customary name, if an object type stands under it. -/
theorem defaultRoot_eq_some_iff {types : Table TypeDef} {name other : String} :
    defaultRoot types name = some other ↔
      other = name ∧ ∃ type, types.lookup name = some type ∧ type.kind = .object := by
  unfold defaultRoot
  cases types.lookup name with
  | none => simp
  | some type =>
    cases hbody : type.body <;>
      simp [TypeDef.objectFields?, TypeDef.kind, TypeBody.kind, hbody, eq_comm]

end Draft

end Schema

namespace TypeSystem

variable {definitions : List Definition} {schema : Schema}

/-- The types of a schema are the merged ones and scalars. -/
theorem Builds.types_eq (h : Builds definitions schema) :
    schema.types = Schema.builtinScalars.foldl Schema.Draft.addScalar
      (mergedTypes (clauses definitions) (extensions definitions)) := by
  obtain ⟨-, roots, -, hbuild⟩ := h
  cases hbuild
  rfl

/-- A root that no definition gives is the default of its kind. -/
theorem Builds.exists_roots (h : Builds definitions schema) :
    ∃ given : Roots,
      (∀ kind name, given.ofKind kind = some name ↔ RootGiven definitions kind name) ∧
        ∀ kind, schema.roots.ofKind kind =
          (given.ofKind kind <|> Schema.Draft.defaultRoot schema.types kind.customaryRoot) := by
  obtain ⟨-, given, hgiven, hbuild⟩ := h
  refine ⟨given, fun kind name => ?_, fun kind => ?_⟩
  · have hnone : (Roots.mk none none none).ofKind kind ≠ some name := by
      cases kind <;> simp [Roots.ofKind]
    rw [Roots.ofKind_foldlM_after? hgiven]
    simp only [hnone, false_or]
  · cases hbuild
    cases kind <;> rfl

/-- A root is the one that is given, or else the object type of the customary name. -/
theorem Builds.ofKind_roots_iff (h : Builds definitions schema) (kind : OperationKind)
    (name : String) :
    schema.roots.ofKind kind = some name ↔
      RootGiven definitions kind name ∨
        (∀ other, ¬ RootGiven definitions kind other) ∧ name = kind.customaryRoot ∧
          schema.IsObject name := by
  obtain ⟨given, hgiven, hroots⟩ := h.exists_roots
  rw [hroots]
  simp only [← hgiven]
  cases hkind : given.ofKind kind with
  | some other => simp
  | none =>
    have hdefault : Schema.Draft.defaultRoot schema.types kind.customaryRoot = some name ↔
        name = kind.customaryRoot ∧ schema.IsObject name := by
      rw [Schema.Draft.defaultRoot_eq_some_iff]
      refine and_congr_right fun hname => ?_
      rw [hname]
      exact Iff.rfl
    simp only [Option.orElse_eq_orElse, Option.orElse_eq_or, Option.none_or, hdefault,
      reduceCtorEq, not_false_eq_true, implies_true, true_and, false_or]

/-- **A schema that is built represents its definitions.**  If documents are accepted, every type
of their schema is stored under its own name and under no other, the names are those that the
documents define and those of the scalars that every schema has, a defined type goes before such a
scalar, and every root is the one that a schema definition gives, or else the object type of the
customary name. -/
theorem represents_ofDocuments {documents : List (List Definition)}
    (h : Schema.ofDocuments documents = .ok schema) : schema.Represents documents.flatten := by
  have hbuilds := ofDocuments_eq_ok_iff.mp h
  have hkeyed := Schema.keyed_ofDocuments h
  refine ⟨hkeyed, fun name type => hkeyed.lookup_eq_some_iff, fun name => ?_,
    fun clause hclause => hbuilds.find?_clause hclause, fun name hbuiltin hname => ?_,
    hbuilds.ofKind_roots_iff, fun kind name hnone hroot => ?_⟩
  · rw [hbuilds.types_eq, Schema.Draft.mem_names_foldl_addScalar, names_mergedTypes]
  · rw [hbuilds.find?_eq, find?_key_eq_none_iff.mpr hname, if_pos hbuiltin]
    rfl
  · obtain hgiven | ⟨-, -, type, hfind, hkind⟩ := (hbuilds.ofKind_roots_iff kind name).mp hroot
    · exact absurd hgiven (hnone name)
    · exact ⟨type, by rw [Schema.root?, hroot]; exact hfind, hkind⟩

/-- The definitions `type Query { id: ID }`, `enum ID { SHORT LONG }` and, in a text of its own,
`schema { mutation: Query }`. -/
def ownIdDocuments : List (List Definition) :=
  [[.type ⟨"Query", ⟨1, 1⟩, .object [] [⟨"id", ⟨1, 14⟩, .named "ID"⟩]⟩,
    .type ⟨"ID", ⟨2, 1⟩, .enum ["SHORT", "LONG"]⟩],
    [.schema ⟨1, 1⟩ ⟨none, some "Query", none⟩]]

/-- The `ID` of the documents takes the place of the scalar of that name. -/
theorem represents_ofDocuments_ownId :
    ∃ schema, Schema.ofDocuments ownIdDocuments = .ok schema ∧
      schema.Represents ownIdDocuments.flatten ∧
      Table.names schema.types = ["Query", "ID", "Boolean", "Float", "Int", "String"] ∧
      schema.types.map (fun entry => entry.2.name) = Table.names schema.types ∧
      schema.find? "ID" = some ⟨"ID", .enum ["SHORT", "LONG"]⟩ ∧
      schema.find? "Int" = some ⟨"Int", .scalar⟩ ∧
      schema.roots = ⟨some "Query", some "Query", none⟩ := by
  have hschema : ∃ schema, Schema.ofDocuments ownIdDocuments = .ok schema := ⟨_, rfl⟩
  obtain ⟨schema, hschema⟩ := hschema
  have hrepresents := represents_ofDocuments hschema
  cases hschema
  exact ⟨_, rfl, hrepresents, rfl, rfl, rfl, rfl, rfl⟩

/-- **Enums are converted by the names that documents give them.**  In a schema that is built, the
name by which the values of an enum are converted is the one under which a field or a variable
refers to the enum. -/
theorem hasEnum_iff_of_ofDocuments {documents : List (List Definition)} {schema : Schema}
    (h : Schema.ofDocuments documents = .ok schema) {typeName enumName : String} :
    schema.HasEnum typeName enumName ↔ schema.IsEnum typeName ∧ enumName = typeName := by
  have hkeyed := Schema.keyed_ofDocuments h
  constructor
  · rintro ⟨type, hfind, hkind, rfl⟩
    exact ⟨⟨type, hfind, hkind⟩, (hkeyed.lookup_eq_some_iff.mp hfind).2⟩
  · rintro ⟨⟨type, hfind, hkind⟩, rfl⟩
    exact ⟨type, hfind, hkind, (hkeyed.lookup_eq_some_iff.mp hfind).2⟩

end TypeSystem

end EnumBridge
