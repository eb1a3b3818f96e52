import EnumBridge.Json.Token
import EnumBridge.Json.Written

/-!
# Reading JSON text

`Written.ofText?` builds the tree of a JSON text from its tokens.  The tokens are taken
one at a time; a `Builder` holds the containers that are still open, innermost first,
and what may come next.  `Json.ofText?` is the value of such a tree, if it has one.
-/

set_option autoImplicit false

namespace EnumBridge

namespace Written

/-- A container that is still open, with what it holds so far, last one first. -/
inductive Frame
  | array (items : List Written)
  /-- An object, with the name of the member that is being read. -/
  | object (members : List (Option String × Written)) (name : Option String)

/-- What may come next. -/
inductive Next
  /-- A value. -/
  | value
  /-- The first item of an array, or its end. -/
  | item
  /-- The name of a member, the end too if there is no member yet. -/
  | name (members : List (Option String × Written))
  /-- The colon behind a name. -/
  | colon (members : List (Option String × Written)) (name : Option String)
  /-- A comma or an end, behind a complete value. -/
  | separator (value : Written)

/-- The open containers, innermost first, and what may come next. -/
structure Builder where
  frames : List Frame
  next : Next

namespace Builder

/-- Opens a container or takes a leaf where a value may stand. -/
def value? (b : Builder) : Json.Token → Option Builder
  | .openArray => some ⟨.array [] :: b.frames, .item⟩
  | .openObject => some ⟨b.frames, .name []⟩
  | .null => some ⟨b.frames, .separator .null⟩
  | .bool v => some ⟨b.frames, .separator (.bool v)⟩
  | .number v => some ⟨b.frames, .separator (.number v)⟩
  | .string v => some ⟨b.frames, .separator (.string v)⟩
  | _ => none

/-- Takes one token. -/
def step (b : Builder) (token : Json.Token) : Option Builder :=
  match b.next, token with
  | .value, _ => b.value? token
  | .item, .closeArray => some ⟨b.frames.drop 1, .separator (.array [])⟩
  | .item, _ => b.value? token
  | .name members, .string name => some ⟨b.frames, .colon members name⟩
  | .name [], .closeObject => some ⟨b.frames, .separator (.object [])⟩
  | .colon members name, .colon => some ⟨.object members name :: b.frames, .value⟩
  | .separator value, token =>
    match b.frames, token with
    | .array items :: frames, .comma => some ⟨.array (value :: items) :: frames, .value⟩
    | .array items :: frames, .closeArray =>
      some ⟨frames, .separator (.array (value :: items).reverse)⟩
    | .object members name :: frames, .comma =>
      some ⟨frames, .name ((name, value) :: members)⟩
    | .object members name :: frames, .closeObject =>
      some ⟨frames, .separator (.object ((name, value) :: members).reverse)⟩
    | _, _ => none
  | _, _ => none

/-- The value of a text that has been read to its end. -/
def finish : Builder → Option Written
  | ⟨[], .separator value⟩ => some value
  | _ => none

end Builder

/-- The tree of a JSON text. -/
def ofText? (text : String) : Option Written := do
  let tokens ← Json.tokens? text.toList
  let builder ← tokens.foldlM Builder.step ⟨[], .value⟩
  builder.finish

end Written

/-- The value of a JSON text. -/
def Json.ofText? (text : String) : Option Json :=
  (Written.ofText? text).bind (Written.toJson? Written.maxNesting)

end EnumBridge
