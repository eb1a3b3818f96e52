import EnumBridge.Proofs.MergedSchema

/-!
# Which definition gives the roots

The roots of operations are given by schema definitions.  `RootGiven` says which roots some
definitions give, and a draft has just these, in whatever order it met them
(`ofKind_foldlM_after?`).

That there has been a schema definition a draft knows only from the roots that it has.  The main
statement is `second_schema_refused`: if the first schema definition names a root, a second one
stops the loading.  Documents that can be loaded then have one at most, and they give the same
roots in every order.  A first one that names no root goes unnoticed (`load_behind_rootless`).
-/

set_option autoImplicit false

namespace EnumBridge

open TypeSystem

namespace TypeSystem

/-- Whether a definition is a schema definition that names a root. -/
def Definition.namesRoot : Definition → Bool
  | .schema _ roots => roots.given
  | _ => false

/-- The first of the schema definitions names a root, if there are any. -/
def FirstNamesRoot (definitions : List Definition) : Prop :=
  ∀ definition, definitions.find? Definition.isSchema = some definition →
    definition.namesRoot = true

/-- A schema definition among some definitions gives the root for a kind of operation. -/
def RootGiven (definitions : List Definition) (kind : OperationKind) (name : String) : Prop :=
  ∃ position roots, .schema position roots ∈ definitions ∧ roots.ofKind kind = some name

/-- Without definitions no root is given. -/
theorem not_rootGiven_nil (kind : OperationKind) (name : String) : ¬ RootGiven [] kind name := by
  rintro ⟨position, roots, hmem, -⟩
  cases hmem

/-- A root is given by a first schema definition or by those behind it. -/
theorem rootGiven_schema_cons {position : Syntax.Position} {roots : Roots}
    {rest : List Definition} {kind : OperationKind} {name : String} :
    RootGiven (.schema position roots :: rest) kind name ↔
      roots.ofKind kind = some name ∨ RootGiven rest kind name := by
  constructor
  · rintro ⟨place, others, hmem, hkind⟩
    rcases List.mem_cons.mp hmem with heq | hmem
    · cases heq
      exact Or.inl hkind
    · exact Or.inr ⟨place, others, hmem, hkind⟩
  · rintro (hkind | ⟨place, others, hmem, hkind⟩)
    · exact ⟨position, roots, List.mem_cons_self, hkind⟩
    · exact ⟨place, others, List.mem_cons_of_mem _ hmem, hkind⟩

/-- A definition that is no schema definition gives no root. -/
theorem rootGiven_cons_of_not_isSchema {definition : Definition} {rest : List Definition}
    (h : definition.isSchema = false) {kind : OperationKind} {name : String} :
    RootGiven (definition :: rest) kind name ↔ RootGiven rest kind name := by
  cases definition with
  | schema position roots => cases h
  | _ => simp [RootGiven]

/-- The order of definitions has no part in which roots they give. -/
theorem rootGiven_iff_of_perm {definitions others : List Definition}
    (hperm : definitions.Perm others) {kind : OperationKind} {name : String} :
    RootGiven definitions kind name ↔ RootGiven others kind name := by
  simp only [RootGiven, hperm.mem_iff]

end TypeSystem

/-! ## Roots, definition by definition -/

namespace Roots

/-- A root has been given if there is one for some kind of operation. -/
theorem given_iff {roots : Roots} :
    roots.given = true ↔ ∃ kind name, roots.ofKind kind = some name := by
  simp only [given, Bool.or_eq_true, Option.isSome_iff_exists]
  constructor
  · rintro ((⟨name, hname⟩ | ⟨name, hname⟩) | ⟨name, hname⟩)
    · exact ⟨.query, name, hname⟩
    · exact ⟨.mutation, name, hname⟩
    · exact ⟨.subscription, name, hname⟩
  · rintro ⟨kind, name, hname⟩
    cases kind with
    | query => exact Or.inl (Or.inl ⟨name, hname⟩)
    | mutation => exact Or.inl (Or.inr ⟨name, hname⟩)
    | subscription => exact Or.inr ⟨name, hname⟩

/-- Roots that are the same for each kind of operation are the same. -/
theorem eq_of_ofKind {roots others : Roots}
    (h : ∀ kind name, roots.ofKind kind = some name ↔ others.ofKind kind = some name) :
    roots = others := by
  obtain ⟨query, mutation, subscription⟩ := roots
  obtain ⟨query', mutation', subscription'⟩ := others
  rw [mk.injEq]
  exact ⟨Option.ext (h .query), Option.ext (h .mutation), Option.ext (h .subscription)⟩

variable {definitions : List TypeSystem.Definition} {roots after : Roots}

/-- Behind some definitions the roots are those that were there and those that they give. -/
theorem ofKind_foldlM_after? (h : definitions.foldlM after? roots = some after)
    (kind : OperationKind) (name : String) :
    after.ofKind kind = some name ↔
      roots.ofKind kind = some name ∨ RootGiven definitions kind name := by
  induction definitions generalizing roots with
  | nil =>
    cases h
    simp [not_rootGiven_nil]
  | cons definition rest ih =>
    rw [List.foldlM_cons] at h
    obtain ⟨next, hnext, hrest⟩ := Option.bind_eq_some_iff.mp h
    rw [ih hrest]
    cases hschema : definition.isSchema with
    | false =>
      rw [after?_of_not_isSchema hschema, Option.some.injEq] at hnext
      rw [hnext, rootGiven_cons_of_not_isSchema hschema]
    | true =>
      cases definition with
      | schema position new =>
        rw [after?] at hnext
        split at hnext
        · cases hnext
        · next hnone =>
          cases hnext
          -- Roots that are given leave room for none that were there.
          have hroots : roots.ofKind kind ≠ some name := fun hname =>
            hnone (given_iff.mpr ⟨kind, name, hname⟩)
          rw [rootGiven_schema_cons]
          simp only [hroots, false_or]
      | _ => cases hschema

/-- Behind a root there is no schema definition. -/
theorem countP_isSchema_eq_zero (hroots : roots.given = true)
    (h : definitions.foldlM after? roots = some after) :
    definitions.countP Definition.isSchema = 0 := by
  induction definitions with
  | nil => rfl
  | cons definition rest ih =>
    rw [List.foldlM_cons] at h
    cases hschema : definition.isSchema with
    | false =>
      rw [after?_of_not_isSchema hschema] at h
      rw [List.countP_cons_of_neg (by simp [hschema])]
      exact ih h
    | true =>
      cases definition with
      | schema position new =>
        rw [after?, if_pos hroots] at h
        cases h
      | _ => cases hschema

/-- A first schema definition that names a root is the only one. -/
theorem countP_isSchema_le_one (hfirst : FirstNamesRoot definitions)
    (h : definitions.foldlM after? roots = some after) :
    definitions.countP Definition.isSchema ≤ 1 := by
  induction definitions generalizing roots with
  | nil => exact Nat.zero_le 1
  | cons definition rest ih =>
    rw [List.foldlM_cons] at h
    obtain ⟨next, hnext, hrest⟩ := Option.bind_eq_some_iff.mp h
    cases hschema : definition.isSchema with
    | false =>
      rw [List.countP_cons_of_neg (by simp [hschema])]
      refine ih (fun other hother => hfirst other ?_) hrest
      rw [List.find?_cons_of_neg (by simp [hschema])]
      exact hother
    | true =>
      have hnames := hfirst definition (List.find?_cons_of_pos hschema)
      have hgiven : next.given = true := by
        cases definition with
        | schema position new =>
          rw [after?] at hnext
          split at hnext <;> cases hnext
          exact hnames
        | _ => cases hschema
      have hnone := countP_isSchema_eq_zero hgiven hrest
      rw [List.countP_cons_of_pos hschema]
      omega

end Roots

/-! ## Roots of a draft -/

namespace TypeSystem

open Schema

variable {definitions others : List Definition} {draft : Draft}

/-- Definitions are loaded one part after the other. -/
theorem load_append (front back : List Definition) (draft : Draft) :
    draft.load (front ++ back) = draft.load front >>= fun next => next.load back :=
  List.foldlM_append ..

/-- An empty draft loads definitions exactly if they can be loaded. -/
theorem load_empty_eq_ok_iff :
    Draft.empty.load definitions = .ok draft ↔ Loaded Draft.empty definitions draft := by
  have hempty : (Table.names Draft.empty.types).Nodup := List.nodup_nil
  exact load_eq_ok_iff hempty

/-- A draft has the roots that the definitions give, and no others. -/
theorem ofKind_roots_load (h : Draft.empty.load definitions = .ok draft) (kind : OperationKind)
    (name : String) : draft.roots.ofKind kind = some name ↔ RootGiven definitions kind name := by
  have hempty : Draft.empty.roots.ofKind kind ≠ some name := by
    cases kind <;> simp [Draft.empty, Roots.ofKind]
  rw [Roots.ofKind_foldlM_after? (load_empty_eq_ok_iff.mp h).roots]
  simp only [hempty, false_or]

/-- A schema definition is refused behind one that names a root. -/
theorem load_second_schema {front back : List Definition} {position : Syntax.Position}
    {roots : Roots} (hfirst : FirstNamesRoot front)
    (hsome : 0 < front.countP Definition.isSchema)
    (hload : Draft.empty.load front = .ok draft) :
    Draft.empty.load (front ++ .schema position roots :: back) =
      .error (.duplicateSchema position) := by
  have hroots : draft.hasRoots = true := by
    obtain ⟨definition, hmem, hschema⟩ := List.countP_pos_iff.mp hsome
    obtain ⟨first, hfind⟩ := Option.isSome_iff_exists.mp
      (List.find?_isSome.mpr ⟨definition, hmem, hschema⟩)
    have hnames := hfirst first hfind
    cases first with
    | schema place given =>
      obtain ⟨kind, name, hkind⟩ := Roots.given_iff.mp hnames
      have hgiven : RootGiven front kind name :=
        ⟨place, given, List.mem_of_find?_eq_some hfind, hkind⟩
      exact Roots.given_iff.mpr ⟨kind, name, (ofKind_roots_load hload kind name).mpr hgiven⟩
    | _ => cases hnames
  have hadd : draft.add (.schema position roots) = .error (.duplicateSchema position) := by
    rw [Draft.add, if_pos hroots]
  rw [load_append, hload]
  show draft.load (.schema position roots :: back) = _
  rw [Draft.load, List.foldlM_cons, hadd]
  rfl

/-- The order of definitions has no part in the roots. -/
theorem roots_eq_of_perm {other : Draft} (hperm : definitions.Perm others)
    (h : Draft.empty.load definitions = .ok draft) (h' : Draft.empty.load others = .ok other) :
    other.roots = draft.roots := by
  refine Roots.eq_of_ofKind fun kind name => ?_
  rw [ofKind_roots_load h', ofKind_roots_load h, rootGiven_iff_of_perm hperm]

/-- What is loaded in one order can be loaded in any other, if there is one schema definition at
most. -/
theorem exists_load_of_perm (hperm : definitions.Perm others)
    (hone : definitions.countP Definition.isSchema ≤ 1)
    (h : Draft.empty.load definitions = .ok draft) :
    ∃ other, Draft.empty.load others = .ok other := by
  obtain ⟨-, hnames, hfields, -, -⟩ := load_empty_eq_ok_iff.mp h
  have hclauses : (clauses definitions).Perm (clauses others) := hperm.filterMap _
  have hempty : (Roots.mk none none none).given = false := rfl
  obtain ⟨roots, hroots⟩ := Roots.exists_foldlM_after? hempty (hperm.countP_eq _ ▸ hone)
  refine ⟨_, load_empty_eq_ok_iff.mpr (loaded_iff.mpr ⟨roots, hroots, ?_, ?_, rfl⟩)⟩
  · exact (hclauses.map TypeClause.name).nodup_iff.mp hnames
  · exact fun clause hclause => hfields clause (hclauses.mem_iff.mpr hclause)

/-- Texts are loaded as the definitions that they hold. -/
theorem foldlM_loadText {texts : List String} {documents : List (List Definition)}
    (h : texts.mapM ofText? = some documents) (draft : Draft) :
    texts.foldlM Draft.loadText draft =
      (documents.foldlM Draft.load draft).mapError .invalid := by
  induction texts generalizing documents draft with
  | nil =>
    cases h
    rfl
  | cons text rest ih =>
    rw [List.mapM_cons] at h
    obtain ⟨document, hdocument, h⟩ := Option.bind_eq_some_iff.mp h
    obtain ⟨more, hmore, h⟩ := Option.bind_eq_some_iff.mp h
    cases h
    have htext : draft.loadText text = (draft.load document).mapError .invalid := by
      rw [Draft.loadText, hdocument]
    rw [List.foldlM_cons, List.foldlM_cons, htext]
    cases draft.load document with
    | error error => rfl
    | ok next => exact ih hmore next

/-- **A second schema definition is refused.**  Let the first schema definition of some documents
name a root.  If everything in front of the second one can be loaded, the second one stops the
loading, wherever it stands and whatever follows, also if the documents are given as texts.  If all
documents can be loaded there is one schema definition at most, and they can be loaded in any
order.  In all orders in which documents can be loaded they give the same roots. -/
theorem second_schema_refused (documents : List (List Definition)) :
    (FirstNamesRoot documents.flatten →
      (∀ front position roots back,
        documents.flatten = front ++ .schema position roots :: back →
        front.countP Definition.isSchema = 1 →
        (∃ draft, Draft.empty.load front = .ok draft) →
        documents.foldlM Draft.load Draft.empty = .error (.duplicateSchema position) ∧
          ∀ texts more : List String, texts.mapM ofText? = some documents →
            (texts ++ more).foldlM Draft.loadText Draft.empty =
              .error (.invalid (.duplicateSchema position))) ∧
      ∀ draft, documents.foldlM Draft.load Draft.empty = .ok draft →
        documents.flatten.countP Definition.isSchema ≤ 1 ∧
          ∀ others, documents.Perm others →
            ∃ other, others.foldlM Draft.load Draft.empty = .ok other) ∧
    ∀ others, documents.Perm others → ∀ draft other,
      documents.foldlM Draft.load Draft.empty = .ok draft →
      others.foldlM Draft.load Draft.empty = .ok other → other.roots = draft.roots := by
  simp only [foldlM_load]
  refine ⟨fun hfirst => ⟨?_, ?_⟩, ?_⟩
  · rintro front position roots back hsplit hone ⟨draft, hload⟩
    have hfront : FirstNamesRoot front := by
      intro definition hfind
      refine hfirst definition ?_
      rw [hsplit, List.find?_append, hfind]
      rfl
    have hrefused : Draft.empty.load documents.flatten = .error (.duplicateSchema position) := by
      rw [hsplit]
      exact load_second_schema hfront (by omega) hload
    refine ⟨hrefused, fun texts more htexts => ?_⟩
    rw [List.foldlM_append, foldlM_loadText htexts, foldlM_load, hrefused]
    rfl
  · intro draft hload
    have hone := Roots.countP_isSchema_le_one hfirst (load_empty_eq_ok_iff.mp hload).roots
    exact ⟨hone, fun others hperm => exists_load_of_perm hperm.flatten hone hload⟩
  · intro others hperm draft other hload hother
    exact roots_eq_of_perm hperm.flatten hload hother

/-- The type `type Query { id: ID }` on the second line of a text. -/
def queryClause : TypeClause := ⟨"Query", ⟨2, 1⟩, .object [] [⟨"id", ⟨2, 14⟩, .named "ID"⟩]⟩

/-- A text with a schema definition that names some roots, and then the text
`schema { query: Query } type Query { id: ID }`. -/
def twoSchemas (roots : Roots) : List (List Definition) :=
  [[.schema ⟨1, 1⟩ roots], [.schema ⟨1, 1⟩ ⟨some "Query", none, none⟩, .type queryClause]]

/-- A schema definition is refused behind one that names a root for mutations only. -/
theorem second_schema_refused_mutation :
    FirstNamesRoot (twoSchemas ⟨none, some "Query", none⟩).flatten ∧
      (twoSchemas ⟨none, some "Query", none⟩).foldlM Draft.load Draft.empty =
        .error (.duplicateSchema ⟨1, 1⟩) := by
  have hfirst : FirstNamesRoot (twoSchemas ⟨none, some "Query", none⟩).flatten := by
    intro definition hfind
    cases hfind
    rfl
  have hrefused := ((second_schema_refused (twoSchemas ⟨none, some "Query", none⟩)).1 hfirst).1
    [.schema ⟨1, 1⟩ ⟨none, some "Query", none⟩] ⟨1, 1⟩ ⟨some "Query", none, none⟩
    [.type queryClause] rfl rfl ⟨_, rfl⟩
  exact ⟨hfirst, hrefused.1⟩

/-- Behind a schema definition without roots a second one is loaded, and gives its roots. -/
theorem load_behind_rootless :
    ["schema \x7b \x7d", "schema \x7b query: Query \x7d\ntype Query \x7b id: ID \x7d"].mapM ofText? =
        some (twoSchemas ⟨none, none, none⟩) ∧
      (twoSchemas ⟨none, none, none⟩).flatten.countP Definition.isSchema = 2 ∧
      ∃ draft, (twoSchemas ⟨none, none, none⟩).foldlM Draft.load Draft.empty = .ok draft ∧
        draft.roots = ⟨some "Query", none, none⟩ := by
  refine ⟨by decide +kernel, by decide, _, rfl, rfl⟩

end TypeSystem

end EnumBridge
