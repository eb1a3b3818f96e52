import EnumBridge.Proofs.MergedSchema

/-!
# Types that are split into a definition and an extension

What a definition lists last may stand in an extension as well.  `MovedOut` says that two lists
of definitions differ in just that: one type is defined by less, and an extension in front of
all others of that type lists the rest.

The main statement is `ofDocuments_movedOut`: documents that are accepted stay so, and they
build the same schema, unless interfaces were moved that an interface implements.  An extension
of an object type adds to its interfaces, but one of an interface does not
(`splitDocuments_interface`).
-/

set_option autoImplicit false

namespace EnumBridge

open TypeSystem

namespace TypeBody

/-- The same with fields in another form. -/
def map {φ ψ : Type} (f : φ → ψ) : TypeBody φ → TypeBody ψ
  | .scalar => .scalar
  | .enum values => .enum values
  | .inputObject fields => .inputObject (f fields)
  | .object interfaces fields => .object interfaces (f fields)
  | .interface interfaces fields => .interface interfaces (f fields)
  | .union members => .union members

section

variable {φ ψ α β : Type} (f : φ → ψ) (body : TypeBody φ)

/-- Fields in another form leave the kind of a type as it is. -/
@[simp] theorem kind_map : (body.map f).kind = body.kind := by cases body <;> rfl

/-- Fields in another form leave the values of an enum as they are. -/
@[simp] theorem values_map : (body.map f).values = body.values := by cases body <;> rfl

/-- Fields in another form leave the members of a union as they are. -/
@[simp] theorem members_map : (body.map f).members = body.members := by cases body <;> rfl

/-- Fields in another form leave the interfaces as they are. -/
@[simp] theorem interfaces_map : (body.map f).interfaces = body.interfaces := by
  cases body <;> rfl

/-- The fields in another form are the fields of the body in that form. -/
@[simp] theorem fields_map (g : α → β) (body : TypeBody (List α)) :
    (body.map (List.map g)).fields = body.fields.map g := by
  cases body <;> rfl

end

/-- What one definition lists is what another does and what a third does, in this order. -/
inductive Splits {α : Type} :
    TypeBody (List α) → TypeBody (List α) → TypeBody (List α) → Prop
  | scalar : Splits .scalar .scalar .scalar
  | enum (kept moved : List String) : Splits (.enum (kept ++ moved)) (.enum kept) (.enum moved)
  | inputObject (kept moved : List α) :
      Splits (.inputObject (kept ++ moved)) (.inputObject kept) (.inputObject moved)
  | object (interfaces others : List String) (kept moved : List α) :
      Splits (.object (interfaces ++ others) (kept ++ moved)) (.object interfaces kept)
        (.object others moved)
  | interface (interfaces others : List String) (kept moved : List α) :
      Splits (.interface (interfaces ++ others) (kept ++ moved)) (.interface interfaces kept)
        (.interface others moved)
  | union (kept moved : List String) :
      Splits (.union (kept ++ moved)) (.union kept) (.union moved)

end TypeBody

namespace TypeSystem

/-! ## Positions -/

/-- A field without its position in the text. -/
def FieldDefinition.unplaced (field : FieldDefinition) : FieldDefinition :=
  ⟨field.name, ⟨0, 0⟩, field.type⟩

/-- What a document says about a type, without any positions. -/
def TypeClause.unplaced (clause : TypeClause) : TypeClause :=
  ⟨clause.name, ⟨0, 0⟩, clause.body.map (List.map FieldDefinition.unplaced)⟩

/-- The name of a type is not a position. -/
@[simp] theorem name_unplaced (clause : TypeClause) : clause.unplaced.name = clause.name := rfl

/-- Of what is listed for a type only fields have positions. -/
@[simp] theorem body_unplaced (clause : TypeClause) :
    clause.unplaced.body = clause.body.map (List.map FieldDefinition.unplaced) := rfl

/-- A definition without any positions. -/
def Definition.unplaced : Definition → Definition
  | .schema _ roots => .schema ⟨0, 0⟩ roots
  | .type clause => .type clause.unplaced
  | .extension clause => .extension clause.unplaced
  | .directive => .directive

/-- The types of definitions without positions are the types without positions. -/
theorem clauses_unplaced (definitions : List Definition) :
    clauses (definitions.map Definition.unplaced) =
      (clauses definitions).map TypeClause.unplaced := by
  rw [clauses, clauses, List.filterMap_map, List.map_filterMap]
  refine List.filterMap_congr fun definition _ => ?_
  cases definition <;> rfl

/-- The extensions of definitions without positions are the extensions without positions. -/
theorem extensions_unplaced (definitions : List Definition) :
    extensions (definitions.map Definition.unplaced) =
      (extensions definitions).map TypeClause.unplaced := by
  rw [extensions, extensions, List.filterMap_map, List.map_filterMap]
  refine List.filterMap_congr fun definition _ => ?_
  cases definition <;> rfl

/-- Which extensions extend a type does not depend on positions. -/
theorem extending_unplaced (name : String) (extensions : List TypeClause) :
    extending name (extensions.map TypeClause.unplaced) =
      (extending name extensions).map TypeClause.unplaced := by
  rw [extending, List.filter_map]
  rfl

/-- Which fields are listed for a type does not depend on positions. -/
theorem allFields_unplaced (clause : TypeClause) (extensions : List TypeClause) :
    clause.unplaced.allFields (extensions.map TypeClause.unplaced) =
      (clause.allFields extensions).map FieldDefinition.unplaced := by
  simp [TypeClause.allFields, List.flatMap_map, List.map_flatMap]

/-- Whether a field is listed twice for a type does not depend on positions. -/
theorem distinct_unplaced (clause : TypeClause) (extensions : List TypeClause) :
    clause.unplaced.Distinct (extensions.map TypeClause.unplaced) ↔ clause.Distinct extensions := by
  rw [TypeClause.Distinct, allFields_unplaced, List.map_map]
  exact Iff.rfl

/-- What a type holds in the end does not depend on positions. -/
theorem merged_unplaced (clause : TypeClause) (extensions : List TypeClause) :
    clause.unplaced.merged (extensions.map TypeClause.unplaced) = clause.merged extensions := by
  have hentries : ((clause.allFields extensions).map FieldDefinition.unplaced).map
      FieldDefinition.entry = (clause.allFields extensions).map FieldDefinition.entry := by
    rw [List.map_map]
    rfl
  unfold TypeClause.merged
  simp only [allFields_unplaced, hentries, List.flatMap_map, name_unplaced, body_unplaced,
    TypeBody.values_map, TypeBody.members_map, TypeBody.interfaces_map]
  cases clause.body <;> rfl

/-- What the types hold in the end does not depend on positions. -/
theorem mergedTypes_unplaced (clauses extensions : List TypeClause) :
    mergedTypes (clauses.map TypeClause.unplaced) (extensions.map TypeClause.unplaced) =
      mergedTypes clauses extensions := by
  rw [mergedTypes, mergedTypes, List.map_map]
  refine List.map_congr_left fun clause _ => ?_
  rw [Function.comp_apply, extending_unplaced, merged_unplaced]
  rfl

/-- Whether a field is listed twice does not depend on positions. -/
theorem fieldsDistinct_unplaced (clauses extensions : List TypeClause) :
    FieldsDistinct (clauses.map TypeClause.unplaced) (extensions.map TypeClause.unplaced) ↔
      FieldsDistinct clauses extensions := by
  rw [FieldsDistinct, List.forall_mem_map]
  refine forall₂_congr fun clause _ => ?_
  rw [name_unplaced, extending_unplaced, distinct_unplaced]

/-- Whether an extension fits a type does not depend on positions. -/
theorem fits_unplaced (clauses : List TypeClause) (extension : TypeClause) :
    Fits (clauses.map TypeClause.unplaced) extension.unplaced ↔ Fits clauses extension := by
  simp only [Fits, List.mem_map, exists_exists_and_eq_and, name_unplaced, body_unplaced,
    TypeBody.kind_map]

/-- Whether definitions fit together does not depend on positions. -/
theorem consistent_unplaced (definitions : List Definition) :
    Consistent (definitions.map Definition.unplaced) ↔ Consistent definitions := by
  have htypes : (clauses (definitions.map Definition.unplaced)).map TypeClause.name =
      (clauses definitions).map TypeClause.name := by
    rw [clauses_unplaced, List.map_map]
    rfl
  have hfields : FieldsDistinct (clauses (definitions.map Definition.unplaced))
      (extensions (definitions.map Definition.unplaced)) ↔
        FieldsDistinct (clauses definitions) (extensions definitions) := by
    rw [clauses_unplaced, extensions_unplaced, fieldsDistinct_unplaced]
  have hfits : (∀ extension ∈ extensions (definitions.map Definition.unplaced),
      Fits (clauses (definitions.map Definition.unplaced)) extension) ↔
        ∀ extension ∈ extensions definitions, Fits (clauses definitions) extension := by
    rw [clauses_unplaced, extensions_unplaced, List.forall_mem_map]
    simp only [fits_unplaced]
  constructor
  · intro h
    exact ⟨htypes ▸ h.types, hfields.mp h.fields, hfits.mp h.fits⟩
  · intro h
    exact ⟨htypes ▸ h.types, hfields.mpr h.fields, hfits.mpr h.fits⟩

/-- Positions matter for errors only. -/
theorem builds_unplaced {definitions : List Definition} {schema : Schema} :
    Builds (definitions.map Definition.unplaced) schema ↔ Builds definitions schema := by
  have hroots (roots : Roots) : (definitions.map Definition.unplaced).foldlM Roots.after? roots =
      definitions.foldlM Roots.after? roots := by
    rw [List.foldlM_map]
    have hafter (roots : Roots) (definition : Definition) :
        roots.after? definition.unplaced = roots.after? definition := by
      cases definition <;> rfl
    simp only [hafter]
  constructor
  · rintro ⟨hconsistent, roots, hafter, hschema⟩
    rw [hroots] at hafter
    rw [clauses_unplaced, extensions_unplaced, mergedTypes_unplaced] at hschema
    exact ⟨(consistent_unplaced definitions).mp hconsistent, roots, hafter, hschema⟩
  · rintro ⟨hconsistent, roots, hafter, hschema⟩
    refine ⟨(consistent_unplaced definitions).mpr hconsistent, roots, ?_, ?_⟩
    · rw [hroots]
      exact hafter
    · rw [clauses_unplaced, extensions_unplaced, mergedTypes_unplaced]
      exact hschema

/-! ## Definitions of which a part is moved out -/

/-- Definitions before and after a part of what one of them lists is moved out into an
extension.  The extension may stand anywhere in front of all others of the same type. -/
inductive MovedOut (clause : TypeClause) (moved : TypeBody (List FieldDefinition)) :
    List Definition → List Definition → Prop
  | mk {front back before behind : List Definition} {kept : TypeBody (List FieldDefinition)}
      {position : Syntax.Position} (hsplit : clause.body.Splits kept moved)
      (hplace : front ++ .type ⟨clause.name, clause.position, kept⟩ :: back = before ++ behind)
      (hfirst : ∀ other ∈ extensions before, other.name ≠ clause.name) :
      MovedOut clause moved (front ++ .type clause :: back)
        (before ++ .extension ⟨clause.name, position, moved⟩ :: behind)

/-- The same for types and extensions: the shorter definition stands in the place of the whole
one, and the new extension among the others. -/
structure Shortened (clause short extension : TypeClause) (whole split : List Definition) :
    Prop where
  splits : clause.body.Splits short.body extension.body
  short_name : short.name = clause.name
  extension_name : extension.name = clause.name
  clauses : ∃ front back, clauses whole = front ++ clause :: back ∧
    TypeSystem.clauses split = front ++ short :: back ∧
    ∀ other ∈ front ++ back, other.name ≠ clause.name
  extensions : ∃ before behind, extensions whole = before ++ behind ∧
    TypeSystem.extensions split = before ++ extension :: behind ∧
    ∀ other ∈ before, other.name ≠ clause.name

/-- If a part of a definition is moved out, a shorter definition stands in its place and a new
extension among the others. -/
theorem MovedOut.shortened {clause : TypeClause} {moved : TypeBody (List FieldDefinition)}
    {whole split : List Definition} (h : MovedOut clause moved whole split)
    (hnames : ((clauses whole).map TypeClause.name).Nodup) :
    ∃ short extension, extension.body = moved ∧ Shortened clause short extension whole split := by
  obtain @⟨front, back, before, behind, kept, position, hsplit, hplace, hfirst⟩ := h
  have hclauses := congrArg clauses hplace
  have hextensions := congrArg extensions hplace
  simp only [clauses_append, extensions_append] at hclauses hextensions
  have hothers : ∀ other ∈ clauses front ++ clauses back, other.name ≠ clause.name := by
    have hmiddle : clause.name ∉ (clauses front ++ clauses back).map TypeClause.name := by
      rw [clauses_append] at hnames
      have hperm : (clauses front ++ clause :: clauses back).Perm
          (clause :: (clauses front ++ clauses back)) := List.perm_middle
      exact (List.nodup_cons.mp ((hperm.map TypeClause.name).nodup_iff.mp hnames)).1
    intro other hother hname
    exact hmiddle (hname ▸ List.mem_map_of_mem hother)
  refine ⟨⟨clause.name, clause.position, kept⟩, ⟨clause.name, position, moved⟩, rfl, hsplit, rfl,
    rfl, ⟨clauses front, clauses back, clauses_append .., ?_, hothers⟩,
    ⟨extensions before, extensions behind, ?_, extensions_append .., hfirst⟩⟩
  · rw [clauses_append]
    exact hclauses.symm
  · rw [extensions_append]
    exact hextensions

/-- Types and extensions have no part in the roots. -/
theorem MovedOut.foldlM_after? {clause : TypeClause} {moved : TypeBody (List FieldDefinition)}
    {whole split : List Definition} (h : MovedOut clause moved whole split) (roots : Roots) :
    split.foldlM Roots.after? roots = whole.foldlM Roots.after? roots := by
  obtain @⟨front, back, before, behind, kept, position, hsplit, hplace, hfirst⟩ := h
  have hdrop (before behind : List Definition) (definition : Definition)
      (hschema : definition.isSchema = false) :
      (before ++ definition :: behind).foldlM Roots.after? roots =
        (before ++ behind).foldlM Roots.after? roots := by
    rw [List.foldlM_append, List.foldlM_append]
    refine bind_congr fun next => ?_
    rw [List.foldlM_cons, Roots.after?_of_not_isSchema hschema]
    rfl
  rw [hdrop before behind _ rfl, ← hplace, hdrop front back _ rfl, hdrop front back _ rfl]

namespace Shortened

variable {clause short extension : TypeClause} {whole split : List Definition}

/-- The whole definition is among the types before. -/
theorem clause_mem (h : Shortened clause short extension whole split) :
    clause ∈ TypeSystem.clauses whole := by
  obtain ⟨front, back, hclauses, -⟩ := h.clauses
  simp [hclauses]

/-- The shorter definition is among the types afterwards. -/
theorem short_mem (h : Shortened clause short extension whole split) :
    short ∈ TypeSystem.clauses split := by
  obtain ⟨front, back, -, hclauses, -⟩ := h.clauses
  simp [hclauses]

/-- The new extension goes in front of all others of its type. -/
theorem extending_self (h : Shortened clause short extension whole split) :
    extending clause.name (TypeSystem.extensions split) =
      extension :: extending clause.name (TypeSystem.extensions whole) := by
  obtain ⟨before, behind, hwhole, hsplit, hfirst⟩ := h.extensions
  have hnone : extending clause.name before = [] := by
    rw [extending, List.filter_eq_nil_iff]
    intro other hother
    simpa using hfirst other hother
  rw [hwhole, hsplit, extending_append, extending_append, hnone]
  simp [extending, h.extension_name]

/-- The extensions of other types stay the same. -/
theorem extending_of_ne (h : Shortened clause short extension whole split) {name : String}
    (hname : name ≠ clause.name) :
    extending name (TypeSystem.extensions split) =
      extending name (TypeSystem.extensions whole) := by
  obtain ⟨before, behind, hwhole, hsplit, -⟩ := h.extensions
  have hother : extension.name ≠ name := by
    rw [h.extension_name]
    exact hname.symm
  rw [hwhole, hsplit, extending_append, extending_append]
  simp [extending, hother]

/-- The shorter definition and the new extension have the kind of the whole definition. -/
theorem kind_eq (h : Shortened clause short extension whole split) :
    short.body.kind = clause.body.kind ∧ extension.body.kind = clause.body.kind := by
  have hsplits := h.splits
  generalize clause.body = body, short.body = kept, extension.body = moved at hsplits
  cases hsplits <;> exact ⟨rfl, rfl⟩

/-- The shorter definition with the new extension lists the fields of the whole one, in the same
order. -/
theorem allFields_eq (h : Shortened clause short extension whole split)
    (extensions : List TypeClause) :
    short.allFields (extension :: extensions) = clause.allFields extensions := by
  have hfields : clause.body.fields = short.body.fields ++ extension.body.fields := by
    have hsplits := h.splits
    generalize clause.body = body, short.body = kept, extension.body = moved at hsplits
    cases hsplits <;> simp [TypeBody.fields]
  rw [TypeClause.allFields, TypeClause.allFields, hfields, List.flatMap_cons, List.append_assoc]

/-- The shorter definition and all extensions make up the same type, unless interfaces of an
interface were moved. -/
theorem merged_eq_iff (h : Shortened clause short extension whole split)
    (extensions : List TypeClause) :
    short.merged (extension :: extensions) = clause.merged extensions ↔
      (clause.body.kind = .interface → extension.body.interfaces = []) := by
  have hsplits := h.splits
  unfold TypeClause.merged
  rw [h.allFields_eq, h.short_name]
  simp only [List.flatMap_cons]
  generalize clause.body = body, short.body = kept, extension.body = moved at hsplits
  cases hsplits <;>
    simp [TypeBody.kind, TypeBody.values, TypeBody.members, TypeBody.interfaces]

/-- Definitions that fit together do so when a part is moved out. -/
theorem consistent (h : Shortened clause short extension whole split)
    (hwhole : Consistent whole) : Consistent split := by
  obtain ⟨hshort, hextension⟩ := h.kind_eq
  obtain ⟨front, back, hclauses, hsplit, hothers⟩ := h.clauses
  obtain ⟨before, behind, hextensions, hmore, -⟩ := h.extensions
  refine ⟨?_, ?_, ?_⟩
  · have htypes := hwhole.types
    rw [hclauses] at htypes
    rw [hsplit]
    simpa [h.short_name] using htypes
  · have hown : short.Distinct (extending short.name (TypeSystem.extensions split)) := by
      rw [h.short_name, h.extending_self, TypeClause.Distinct, h.allFields_eq]
      exact hwhole.fields clause h.clause_mem
    have hkept : FieldsDistinct (front ++ back) (TypeSystem.extensions split) := by
      intro other hother
      rw [h.extending_of_ne (hothers other hother)]
      refine hwhole.fields other ?_
      rw [hclauses]
      simp only [List.mem_append, List.mem_cons] at hother ⊢
      tauto
    rw [fieldsDistinct_append] at hkept
    rw [hsplit, FieldsDistinct, List.forall_mem_append, List.forall_mem_cons]
    exact ⟨hkept.1, hown, hkept.2⟩
  · have hown : Fits (TypeSystem.clauses split) extension :=
      ⟨short, h.short_mem, h.short_name.trans h.extension_name.symm,
        hshort.trans hextension.symm⟩
    have hkept : ∀ other ∈ before ++ behind, Fits (TypeSystem.clauses split) other := by
      rw [← hextensions]
      intro other hother
      obtain ⟨fitting, hfitting, hname, hkind⟩ := hwhole.fits other hother
      simp only [hclauses, List.mem_append, List.mem_cons] at hfitting
      -- What fits the whole definition fits the shorter one.
      by_cases hsame : fitting = clause
      · subst hsame
        exact ⟨short, h.short_mem, h.short_name.trans hname, hshort.trans hkind⟩
      · refine ⟨fitting, ?_, hname, hkind⟩
        simp only [hsplit, List.mem_append, List.mem_cons]
        tauto
    rw [List.forall_mem_append] at hkept
    rw [hmore, List.forall_mem_append, List.forall_mem_cons]
    exact ⟨hkept.1, hown, hkept.2⟩

/-- The types hold the same in the end, unless interfaces of an interface were moved. -/
theorem mergedTypes_eq (h : Shortened clause short extension whole split)
    (hinterfaces : clause.body.kind = .interface → extension.body.interfaces = []) :
    mergedTypes (TypeSystem.clauses split) (TypeSystem.extensions split) =
      mergedTypes (TypeSystem.clauses whole) (TypeSystem.extensions whole) := by
  obtain ⟨front, back, hclauses, hsplit, hothers⟩ := h.clauses
  have hown : short.merged (extending clause.name (TypeSystem.extensions split)) =
      clause.merged (extending clause.name (TypeSystem.extensions whole)) := by
    rw [h.extending_self]
    exact (h.merged_eq_iff _).mpr hinterfaces
  have hkept (part : List TypeClause) (hpart : ∀ other ∈ part, other ∈ front ++ back) :
      mergedTypes part (TypeSystem.extensions split) =
        mergedTypes part (TypeSystem.extensions whole) := by
    refine List.map_congr_left fun other hother => ?_
    rw [h.extending_of_ne (hothers other (hpart other hother))]
  have hfront := hkept front fun other hother => List.mem_append_left _ hother
  have hback := hkept back fun other hother => List.mem_append_right _ hother
  rw [hsplit, hclauses]
  unfold mergedTypes at hfront hback ⊢
  rw [List.map_append, List.map_append, List.map_cons, List.map_cons, hfront, hback, h.short_name,
    hown]

end Shortened

/-- **Splitting a type.**  Let documents build a schema, and let other documents differ from
them in that a part of what one definition lists is moved out into an extension in front of all
others of that type.  The others build a schema, and it is the same exactly if no interfaces of
an interface were moved.  Positions in the texts do not matter, nor how the definitions are
spread over documents. -/
theorem ofDocuments_movedOut {documents others : List (List Definition)} {clause : TypeClause}
    {moved : TypeBody (List FieldDefinition)}
    (hmoved : MovedOut clause moved (documents.flatten.map Definition.unplaced)
      (others.flatten.map Definition.unplaced))
    {schema : Schema} (hschema : Schema.ofDocuments documents = .ok schema) :
    ∃ other, Schema.ofDocuments others = .ok other ∧
      (other = schema ↔ (clause.body.kind = .interface → moved.interfaces = [])) := by
  have hwhole := builds_unplaced.mpr (ofDocuments_eq_ok_iff.mp hschema)
  obtain ⟨short, extension, rfl, h⟩ := hmoved.shortened hwhole.consistent.types
  obtain ⟨roots, hroots, hbuild⟩ := hwhole.schema
  have hsplit : ∃ other, Builds (others.flatten.map Definition.unplaced) other := by
    refine ⟨_, h.consistent hwhole.consistent, roots, ?_, rfl⟩
    rw [hmoved.foldlM_after?]
    exact hroots
  obtain ⟨other, hother⟩ := hsplit
  refine ⟨other, ofDocuments_eq_ok_iff.mpr (builds_unplaced.mp hother), ?_⟩
  constructor
  · rintro rfl
    have hclause := hwhole.find?_clause h.clause_mem
    have hshort := hother.find?_clause h.short_mem
    rw [h.short_name, h.extending_self, hclause, Option.some.injEq] at hshort
    exact (h.merged_eq_iff _).mp hshort.symm
  · intro hinterfaces
    obtain ⟨more, hmore, hsame⟩ := hother.schema
    rw [hmoved.foldlM_after?, hroots, Option.some.injEq] at hmore
    rw [← hmore, h.mergedTypes_eq hinterfaces, hbuild] at hsame
    exact (Except.ok.inj hsame).symm

/-- What an interface consists of, or an object type. -/
def compositeBody (abstract : Bool) (interfaces : List String) (fields : List FieldDefinition) :
    TypeBody (List FieldDefinition) :=
  if abstract then .interface interfaces fields else .object interfaces fields

/-- What an object type or an interface lists last may be moved out of it. -/
theorem compositeBody_splits (abstract : Bool) (interfaces others : List String)
    (kept moved : List FieldDefinition) :
    (compositeBody abstract (interfaces ++ others) (kept ++ moved)).Splits
      (compositeBody abstract interfaces kept) (compositeBody abstract others moved) := by
  cases abstract with
  | true => exact .interface interfaces others kept moved
  | false => exact .object interfaces others kept moved

/-- The definitions `interface Node { id: ID }`, `interface Named implements Node { name: String
id: ID }` and `type Query { node: Node }`, where `Named` may be an object type instead. -/
def namedDocuments (abstract : Bool) : List (List Definition) :=
  [[.type ⟨"Node", ⟨1, 1⟩, .interface [] [⟨"id", ⟨1, 18⟩, .named "ID"⟩]⟩,
    .type ⟨"Named", ⟨2, 1⟩, compositeBody abstract ["Node"]
      [⟨"name", ⟨2, 35⟩, .named "String"⟩, ⟨"id", ⟨2, 48⟩, .named "ID"⟩]⟩,
    .type ⟨"Query", ⟨3, 1⟩, .object [] [⟨"node", ⟨3, 14⟩, .named "Node"⟩]⟩]]

/-- The same, but `Named` without what it has from `Node`, and in a document of its own an
extension with that. -/
def splitDocuments (abstract : Bool) : List (List Definition) :=
  [[.extension ⟨"Named", ⟨1, 8⟩,
      compositeBody abstract ["Node"] [⟨"id", ⟨1, 42⟩, .named "ID"⟩]⟩],
    [.type ⟨"Node", ⟨1, 1⟩, .interface [] [⟨"id", ⟨1, 18⟩, .named "ID"⟩]⟩,
      .type ⟨"Named", ⟨2, 1⟩, compositeBody abstract [] [⟨"name", ⟨2, 19⟩, .named "String"⟩]⟩,
      .type ⟨"Query", ⟨3, 1⟩, .object [] [⟨"node", ⟨3, 14⟩, .named "Node"⟩]⟩]]

/-- The definition of `Named` in one piece, without positions. -/
def namedClause (abstract : Bool) : TypeClause :=
  ⟨"Named", ⟨0, 0⟩, compositeBody abstract ["Node"]
    [⟨"name", ⟨0, 0⟩, .named "String"⟩, ⟨"id", ⟨0, 0⟩, .named "ID"⟩]⟩

/-- What is moved out of it. -/
def namedPart (abstract : Bool) : TypeBody (List FieldDefinition) :=
  compositeBody abstract ["Node"] [⟨"id", ⟨0, 0⟩, .named "ID"⟩]

/-- The documents differ in that a part of `Named` is moved out. -/
theorem namedDocuments_movedOut (abstract : Bool) :
    MovedOut (namedClause abstract) (namedPart abstract)
      ((namedDocuments abstract).flatten.map Definition.unplaced)
      ((splitDocuments abstract).flatten.map Definition.unplaced) := by
  have hsplit := compositeBody_splits abstract [] ["Node"]
    [⟨"name", ⟨0, 0⟩, .named "String"⟩] [⟨"id", ⟨0, 0⟩, .named "ID"⟩]
  have hfirst : ∀ other ∈ extensions [], other.name ≠ "Named" := by simp [extensions]
  cases abstract with
  | true => exact @MovedOut.mk _ _ [_] [_] [] [_, _, _] _ _ hsplit rfl hfirst
  | false => exact @MovedOut.mk _ _ [_] [_] [] [_, _, _] _ _ hsplit rfl hfirst

/-- Moved out of an object type, the interface and the field make up the same schema. -/
theorem ofDocuments_movedOut_object :
    MovedOut (namedClause false) (namedPart false)
        ((namedDocuments false).flatten.map Definition.unplaced)
        ((splitDocuments false).flatten.map Definition.unplaced) ∧
      ∃ schema, Schema.ofDocuments (namedDocuments false) = .ok schema ∧
        Schema.ofDocuments (splitDocuments false) = .ok schema := by
  have hmoved := namedDocuments_movedOut false
  have hschema : ∃ schema, Schema.ofDocuments (namedDocuments false) = .ok schema := ⟨_, rfl⟩
  obtain ⟨schema, hschema⟩ := hschema
  obtain ⟨other, hother, hsame⟩ := ofDocuments_movedOut hmoved hschema
  have heq : other = schema := hsame.mpr fun hkind => by cases hkind
  exact ⟨hmoved, schema, hschema, heq ▸ hother⟩

/-- Moved out of an interface, the name of an interface is lost. -/
theorem splitDocuments_interface :
    MovedOut (namedClause true) (namedPart true)
        ((namedDocuments true).flatten.map Definition.unplaced)
        ((splitDocuments true).flatten.map Definition.unplaced) ∧
      ∃ schema other, Schema.ofDocuments (namedDocuments true) = .ok schema ∧
        Schema.ofDocuments (splitDocuments true) = .ok other ∧ other ≠ schema ∧
        schema.find? "Named" = some ⟨"Named", .interface ["Node"]
          [("name", .named "String"), ("id", .named "ID")]⟩ ∧
        other.find? "Named" = some ⟨"Named", .interface []
          [("name", .named "String"), ("id", .named "ID")]⟩ := by
  refine ⟨namedDocuments_movedOut true, _, _, rfl, rfl, ?_, rfl, rfl⟩
  decide

end TypeSystem

end EnumBridge
