import EnumBridge.Schema
import EnumBridge.Schema.Reader

/-!
# Building a schema

A `Draft` collects what type system documents define.  Types are checked as they are
met; extensions are put aside and merged by `Draft.build`, so an extension may stand in
front of the type it extends, and in another document.

`SchemaError` lists what can be wrong with documents that follow the grammar; each error
says where the definition stands that is one too many or does not fit.
-/

set_option autoImplicit false

namespace EnumBridge

open Syntax TypeSystem

/-- What can be wrong with the definitions of a schema. -/
inductive SchemaError
  | duplicateField (type field : String) (position : Position)
  | duplicateSchema (position : Position)
  | duplicateType (type : String) (position : Position)
  | undefinedExtension (type : String) (position : Position)
  | mismatchedExtension (type : String) (kind : TypeKind) (position : Position)
  deriving DecidableEq

/-- An error in words. -/
def SchemaError.message : SchemaError → String
  | .duplicateField type field position =>
    "Multiple definitions of field `" ++ type ++ "." ++ field ++ "` (second at " ++
      position.text ++ ")"
  | .duplicateSchema position =>
    "Multiple `schema` definitions found (second at " ++ position.text ++ ")"
  | .duplicateType type position =>
    "Multiple definitions of type `" ++ type ++ "` (second at " ++ position.text ++ ")"
  | .undefinedExtension type position =>
    "Extension of undefined type `" ++ type ++ "` at " ++ position.text
  | .mismatchedExtension type kind position =>
    "Extension at " ++ position.text ++ " does not match the kind of `" ++ type ++ "` (" ++
      kind.name ++ ")"

/-- Why a text could not be added to a draft. -/
inductive LoadError
  /-- The text does not follow the grammar. -/
  | unreadable
  | invalid (error : SchemaError)
  deriving DecidableEq

namespace FieldTable

/-- Adds a field, whose name must be new. -/
def add (type : String) (table : FieldTable) (field : FieldDefinition) :
    Except SchemaError FieldTable :=
  if (table.lookup field.name).isSome then
    .error (.duplicateField type field.name field.position)
  else .ok (Table.insert field.name (.ofExpr field.type) table)

/-- Adds fields one after the other. -/
def addAll (type : String) (table : FieldTable) (fields : List FieldDefinition) :
    Except SchemaError FieldTable :=
  fields.foldlM (add type) table

end FieldTable

namespace TypeClause

/-- The type that a definition introduces. -/
def define (clause : TypeClause) : Except SchemaError TypeDef :=
  TypeDef.mk clause.name <$>
    match clause.body with
    | .scalar => .ok .scalar
    | .enum values => .ok (.enum values)
    | .inputObject fields => .inputObject <$> FieldTable.addAll clause.name [] fields
    | .object interfaces fields =>
      .object interfaces <$> FieldTable.addAll clause.name [] fields
    | .interface interfaces fields =>
      .interface interfaces <$> FieldTable.addAll clause.name [] fields
    | .union members => .ok (.union members)

/-- What a type consists of once an extension has been merged into it: everything that
the extension lists comes last.  The interfaces that an extension of an interface names
are left out. -/
def extend (clause : TypeClause) (body : TypeBody FieldTable) :
    Except SchemaError (TypeBody FieldTable) :=
  match body, clause.body with
  | .scalar, .scalar => .ok .scalar
  | .enum values, .enum more => .ok (.enum (values ++ more))
  | .inputObject fields, .inputObject more =>
    .inputObject <$> FieldTable.addAll clause.name fields more
  | .object interfaces fields, .object others more =>
    .object (interfaces ++ others) <$> FieldTable.addAll clause.name fields more
  | .interface interfaces fields, .interface _ more =>
    .interface interfaces <$> FieldTable.addAll clause.name fields more
  | .union members, .union more => .ok (.union (members ++ more))
  | body, _ => .error (.mismatchedExtension clause.name body.kind clause.position)

end TypeClause

namespace Schema

/-- The types that every schema has. -/
def builtinScalars : List String := ["Boolean", "Float", "ID", "Int", "String"]

/-- What type system documents have defined so far. -/
structure Draft where
  roots : Roots
  types : Table TypeDef
  extensions : List TypeClause
  deriving DecidableEq

namespace Draft

/-- A draft that defines nothing. -/
def empty : Draft := ⟨⟨none, none, none⟩, [], []⟩

/-- Whether a schema definition has given a root. -/
def hasRoots (draft : Draft) : Bool :=
  draft.roots.query.isSome || draft.roots.mutation.isSome || draft.roots.subscription.isSome

/-- Adds a type under its own name, which must be new. -/
def addType (types : Table TypeDef) (position : Position) (type : TypeDef) :
    Except SchemaError (Table TypeDef) :=
  if (types.lookup type.name).isSome then .error (.duplicateType type.name position)
  else .ok (Table.insert type.name type types)

/-- Adds one definition. -/
def add (draft : Draft) : TypeSystem.Definition → Except SchemaError Draft
  | .schema position roots =>
    if draft.hasRoots then .error (.duplicateSchema position) else .ok { draft with roots := roots }
  | .type clause => do
    let type ← TypeClause.define clause
    let types ← addType draft.types clause.position type
    .ok { draft with types := types }
  | .extension clause => .ok { draft with extensions := draft.extensions ++ [clause] }
  | .directive => .ok draft

/-- Adds the definitions of a document in order. -/
def load (draft : Draft) (definitions : List TypeSystem.Definition) : Except SchemaError Draft :=
  definitions.foldlM add draft

/-- Adds the definitions of a text. -/
def loadText (draft : Draft) (text : String) : Except LoadError Draft :=
  match TypeSystem.ofText? text with
  | some definitions => (draft.load definitions).mapError .invalid
  | none => .error .unreadable

/-- Merges an extension into the type under the name that it extends.  The type keeps its
place, and the name that it has. -/
def merge (types : Table TypeDef) (clause : TypeClause) : Except SchemaError (Table TypeDef) :=
  match types.lookup clause.name with
  | none => .error (.undefinedExtension clause.name clause.position)
  | some type => do
    let body ← TypeClause.extend clause type.body
    pure (Table.insert clause.name ⟨type.name, body⟩ types)

/-- Adds a scalar type unless its name is taken. -/
def addScalar (types : Table TypeDef) (name : String) : Table TypeDef :=
  if (types.lookup name).isSome then types else Table.insert name ⟨name, .scalar⟩ types

/-- The root for a kind of operation that no schema definition gives: the object type of
the customary name, if there is one. -/
def defaultRoot (types : Table TypeDef) (name : String) : Option String :=
  match (types.lookup name).bind TypeDef.objectFields? with
  | some _ => some name
  | none => none

/-- The schema of a draft: extensions merged in the order in which they were met, the
scalars that every schema has added, and missing roots filled in. -/
def build (draft : Draft) : Except SchemaError Schema := do
  let merged ← draft.extensions.foldlM merge draft.types
  let types := builtinScalars.foldl addScalar merged
  pure
    { roots :=
        { query := draft.roots.query <|> defaultRoot types "Query"
          mutation := draft.roots.mutation <|> defaultRoot types "Mutation"
          subscription := draft.roots.subscription <|> defaultRoot types "Subscription" }
      types := types }

end Draft

/-- The schema of some documents, loaded in order. -/
def ofDocuments (documents : List (List TypeSystem.Definition)) : Except SchemaError Schema := do
  let draft ← documents.foldlM Draft.load Draft.empty
  draft.build

end Schema

end EnumBridge
