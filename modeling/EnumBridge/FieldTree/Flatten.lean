import EnumBridge.FieldTree
import EnumBridge.Note

/-!
# Flattening selections into field trees

`flatten` replaces every fragment by the selections it stands for and returns what is
left as a list of field trees.  It works level by level.  On one level it expands all
inline fragments and spreads of a list at once, and again, until only fields are left;
then it merges the fields that share both the response key and the name, and goes on
with the selections below each of them.

Fragments may spread each other in a cycle, or so often that the result would be huge.
Three limits keep the work finite: the rounds of expansion on one level, the levels, and
the number of selections that all expansions together may produce.

A spread of a fragment that is not defined stands for nothing, and is reported.
-/

set_option autoImplicit false

namespace EnumBridge

/-- The limit that a selection exceeds. -/
inductive FlattenError
  | tooManyRounds
  | tooManySelections
  | tooDeep
  deriving DecidableEq

namespace Flatten

/-- How many rounds of expansion one level may take. -/
def maxRounds : Nat := 64

/-- How many levels of fields there may be. -/
def maxDepth : Nat := 128

/-- How many selections the expansions of all levels together may produce. -/
def maxSelections : Nat := 100000

end Flatten

/-- An error in words. -/
def FlattenError.message : FlattenError → String
  | .tooManyRounds =>
    "Fragment spreads were still unresolved after " ++ toString Flatten.maxRounds ++
      " expansion rounds; the document's fragments likely spread each other in a cycle"
  | .tooManySelections =>
    "Fragment expansion produced more than " ++ toString Flatten.maxSelections ++
      " selections; the document's fragments likely spread each other repeatedly"
  | .tooDeep =>
    "Selection sets are nested deeper than " ++ toString Flatten.maxDepth ++
      " levels; the document's fragments likely spread each other in a cycle"

/-- Fragments in the order in which they are looked through: of several with one name
the first counts. -/
abbrev Fragments := List Fragment

/-- The fragments of a document.  Of several with one name the last one counts. -/
def Document.fragmentTable (document : Document) : Fragments := document.fragments.reverse

/-- The fragment of that name. -/
def Fragments.named? (fragments : Fragments) (name : String) : Option Fragment :=
  fragments.find? fun fragment => fragment.name == name

/-- A field without fragments around it, its own selections still as they were written. -/
structure SelectedField where
  label : FieldLabel
  selections : List Selection

/-- What decides whether two fields of one level are merged: the response key and the
name. -/
def FieldLabel.identity (label : FieldLabel) : String × String :=
  (label.responseKey, label.name)

namespace Flatten

/-! ## Expansion -/

/-- The selections that a selection stands for: a field for itself, an inline fragment
for what it contains, a spread for what its fragment contains. -/
def expansion (fragments : Fragments) : Selection → List Selection
  | .field label selections => [.field label selections]
  | .inlineFragment _ selections => selections
  | .spread name _ =>
    match fragments.named? name with
    | some fragment => fragment.selections
    | none => []

/-- How many selections an expansion produces; fields are not expanded. -/
def cost (fragments : Fragments) (selection : Selection) : Nat :=
  if selection.isField then 0 else (expansion fragments selection).length

/-- How many selections the expansion of a list produces. -/
def totalCost (fragments : Fragments) (selections : List Selection) : Nat :=
  selections.foldl (fun total selection => total + cost fragments selection) 0

/-- Expands every selection of a list once. -/
def expand (fragments : Fragments) (selections : List Selection) : List Selection :=
  selections.flatMap (expansion fragments)

/-- What is reported of a selection: that it spreads a fragment that is not defined. -/
def remark? (fragments : Fragments) : Selection → Option Note
  | .spread name position =>
    match fragments.named? name with
    | some _ => none
    | none => some ⟨.debug, "Dropping spread of undefined fragment `" ++ name ++ "` at " ++
        position.text ++ "."⟩
  | _ => none

/-- What is reported of a list, up to the selection whose expansion would exceed the
budget; the notes so far are held backwards. -/
def remarks (fragments : Fragments) : Nat → List Selection → List Note → List Note
  | _, [], notes => notes.reverse
  | budget, selection :: rest, notes =>
    if budget < cost fragments selection then notes.reverse
    else
      remarks fragments (budget - cost fragments selection) rest
        ((remark? fragments selection).toList ++ notes)

/-- The fields of a list, other selections left out. -/
def fieldsOf (selections : List Selection) : List SelectedField :=
  selections.filterMap fun
    | .field label below => some ⟨label, below⟩
    | _ => none

/-- Expands a list, `rounds` times at most, until only fields are left, and returns them
with what is left of the budget. -/
def collect (fragments : Fragments) (rounds budget : Nat) (selections : List Selection) :
    Attempt FlattenError (List SelectedField × Nat) :=
  if selections.all Selection.isField then pure (fieldsOf selections, budget)
  else
    match rounds with
    | 0 => throw .tooManyRounds
    | rounds + 1 => do
      Attempt.report (remarks fragments budget selections [])
      if totalCost fragments selections ≤ budget then
        collect fragments rounds (budget - totalCost fragments selections)
          (expand fragments selections)
      else throw .tooManySelections

/-! ## Merging and descent -/

/-- Merges the fields that share both the response key and the name into the first of
them, which then has the selections of all. -/
def mergeFields (fields : List SelectedField) : List SelectedField :=
  let identities := (fields.map fun field => field.label.identity).eraseDups
  identities.filterMap fun identity =>
    match fields.filter fun field => field.label.identity == identity with
    | [] => none
    | first :: rest =>
      some ⟨first.label, (first :: rest).flatMap SelectedField.selections⟩

/-- The trees of merged fields, given how to flatten the selections below one. -/
def nodes (below : Nat → List Selection → Attempt FlattenError (List FieldNode × Nat)) :
    Nat → List SelectedField → Attempt FlattenError (List FieldNode × Nat)
  | budget, [] => pure ([], budget)
  | budget, field :: rest =>
    if field.selections.isEmpty then do
      let (others, budget) ← nodes below budget rest
      pure (.leaf field.label :: others, budget)
    else do
      let (children, budget) ← below budget field.selections
      let (others, budget) ← nodes below budget rest
      pure (.branch field.label children :: others, budget)

/-- Flattens a list with at most `depth` levels, and returns what is left of the
budget. -/
def level (fragments : Fragments) : Nat → Nat → List Selection →
    Attempt FlattenError (List FieldNode × Nat)
  | 0, _, _ => throw .tooDeep
  | depth + 1, budget, selections => do
    let (fields, budget) ← collect fragments maxRounds budget selections
    nodes (level fragments depth) budget (mergeFields fields)

end Flatten

/-- The field trees that are left of some selections when every fragment is replaced by
what it stands for. -/
def flatten (fragments : Fragments) (selections : List Selection) :
    Attempt FlattenError (List FieldNode) :=
  Prod.fst <$> Flatten.level fragments Flatten.maxDepth Flatten.maxSelections selections

end EnumBridge
