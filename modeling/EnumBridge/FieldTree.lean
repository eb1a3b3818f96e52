import EnumBridge.Document

/-!
# Field trees

A `FieldNode` is a selected field with the fields selected below it: a selection in
which no fragment is left.  A node that has a selection set is a `branch`, even if
nothing is left in that set; a node without one is a `leaf`.
-/

set_option autoImplicit false

namespace EnumBridge

/-- A selected field and the fields selected below it. -/
inductive FieldNode
  /-- A field without a selection set. -/
  | leaf (label : FieldLabel)
  /-- A field with a selection set. -/
  | branch (label : FieldLabel) (children : List FieldNode)

namespace FieldNode

/-- The name and the alias of a node. -/
def label : FieldNode → FieldLabel
  | .leaf label => label
  | .branch label _ => label

/-- The nodes below a node, if it has a selection set. -/
def children? : FieldNode → Option (List FieldNode)
  | .leaf _ => none
  | .branch _ children => some children

mutual

/-- Whether two nodes are the same tree. -/
def same : FieldNode → FieldNode → Bool
  | .leaf a, .leaf b => decide (a = b)
  | .branch a as, .branch b bs => decide (a = b) && sameAll as bs
  | _, _ => false

/-- Whether two lists of nodes are the same trees in the same order. -/
def sameAll : List FieldNode → List FieldNode → Bool
  | [], [] => true
  | a :: as, b :: bs => a.same b && sameAll as bs
  | _, _ => false

end

instance : BEq FieldNode := ⟨same⟩

end FieldNode

end EnumBridge
