import EnumBridge.Proofs.ResponseSite

/-!
# Walking the data of a response warns of nothing

A walk over the data of a response reports what it cannot make sense of, but it never warns.  An
attempt is quiet if none of its notes is a warning, whatever its outcome.  What is put together from
quiet attempts is quiet again (`Attempt.Quiet.bind`); so the walk is, part by part, up to
`quiet_parseData`.
-/

set_option autoImplicit false

namespace EnumBridge

/-! ## Quiet attempts -/

namespace Attempt

variable {ε ε' α β : Type}

/-- No note of an attempt is a warning. -/
def Quiet (x : Attempt ε α) : Prop := ∀ note ∈ x.notes, note.level ≠ .warn

/-- An attempt without notes is quiet. -/
theorem quiet_of_notes_eq_nil {x : Attempt ε α} (h : x.notes = []) : x.Quiet := by
  intro note hnote
  rw [h] at hnote
  cases hnote

/-- What succeeds at once is quiet. -/
theorem quiet_pure (a : α) : (pure a : Attempt ε α).Quiet := quiet_of_notes_eq_nil rfl

/-- What fails at once is quiet. -/
theorem quiet_throw (e : ε) : (throw e : Attempt ε α).Quiet := quiet_of_notes_eq_nil rfl

/-- An attempt with a known outcome is quiet. -/
theorem quiet_ofExcept (x : Except ε α) : (ofExcept x).Quiet := by
  cases x with
  | ok a => exact quiet_pure a
  | error e => exact quiet_throw e

/-- A report without warnings is quiet. -/
theorem quiet_report {notes : List Note} (h : ∀ note ∈ notes, note.level ≠ .warn) :
    (report notes : Attempt ε Unit).Quiet := by
  intro note hnote
  have hnotes : (report notes : Attempt ε Unit).notes = notes := List.append_nil notes
  exact h note (hnotes ▸ hnote)

/-- A note of level `debug` is no warning. -/
theorem quiet_debug (text : String) : (debug text : Attempt ε Unit).Quiet := by
  intro note hnote
  have heq : note = ⟨.debug, text⟩ := List.mem_singleton.mp hnote
  rw [heq]
  exact nofun

/-- A sequence of quiet attempts is quiet. -/
theorem Quiet.bind {x : Attempt ε α} {f : α → Attempt ε β} (hx : x.Quiet)
    (hf : ∀ a, (f a).Quiet) : (x >>= f).Quiet := by
  intro note hnote
  rw [notes_bind, List.mem_append] at hnote
  rcases hnote with hfirst | hsecond
  · exact hx note hfirst
  · cases houtcome : x.outcome with
    | ok a =>
      rw [houtcome] at hsecond
      exact hf a note hsecond
    | error e =>
      rw [houtcome] at hsecond
      cases hsecond

/-- A change of the successes leaves a quiet attempt quiet. -/
theorem Quiet.map {x : Attempt ε α} (hx : x.Quiet) (f : α → β) : (f <$> x).Quiet := by
  intro note hnote
  rw [notes_map] at hnote
  exact hx note hnote

/-- A change of the errors leaves a quiet attempt quiet. -/
theorem Quiet.mapError {x : Attempt ε α} (hx : x.Quiet) (f : ε → ε') :
    (Attempt.mapError f x).Quiet := hx

/-- Quiet attempts at the items of a list are quiet together. -/
theorem Quiet.mapM {f : α → Attempt ε β} (hf : ∀ item, (f item).Quiet) (items : List α) :
    (items.mapM f).Quiet := by
  induction items with
  | nil => exact quiet_pure []
  | cons item rest ih =>
    rw [List.mapM_cons]
    exact (hf item).bind fun new => ih.bind fun others => quiet_pure (new :: others)

end Attempt

open Attempt

/-- A change of the value under one name is quiet, if changes of values are. -/
theorem Members.quiet_modifyM {ε : Type} {f : Json → Attempt ε Json}
    (hf : ∀ value, (f value).Quiet) (name : String) (members : Members) :
    (Members.modifyM name f members).Quiet := by
  induction members with
  | nil => exact quiet_pure []
  | cons member rest ih =>
    rw [Members.modifyM]
    split
    · exact (hf member.2).bind fun new => quiet_pure _
    · exact ih.bind fun others => quiet_pure _

/-- A walk under list and non-null markers is quiet, if it is at the named types. -/
theorem TypeRef.quiet_descend {ε : Type} {f : String → Json → Attempt ε Json}
    (hf : ∀ name value, (f name value).Quiet) (type : TypeRef) (value : Json) :
    (type.descend f value).Quiet := by
  induction type generalizing value with
  | named name => exact hf name value
  | nonNull type ih => exact ih value
  | list type ih =>
    cases value with
    | array items => exact (Quiet.mapM ih items).map Json.array
    | _ => exact quiet_pure _

/-! ## Flattening -/

namespace Flatten

variable (fragments : Fragments)

/-- What is reported of a selection is no warning. -/
theorem level_of_remark? {selection : Selection} {note : Note}
    (h : remark? fragments selection = some note) : note.level ≠ .warn := by
  cases selection with
  | spread name position =>
    simp only [remark?] at h
    split at h
    · cases h
    · rw [← Option.some.inj h]
      exact nofun
  | _ => cases h

/-- What is reported of some selections has no warning in it, if what was noted so far has none. -/
theorem level_of_mem_remarks {budget : Nat} {selections : List Selection} {notes : List Note}
    (hnotes : ∀ note ∈ notes, note.level ≠ .warn) :
    ∀ note ∈ remarks fragments budget selections notes, note.level ≠ .warn := by
  fun_induction remarks fragments budget selections notes with
  | case1 budget notes => simpa using hnotes
  | case2 budget selection rest notes hover => simpa using hnotes
  | case3 budget selection rest notes hwithin ih =>
    refine ih fun note hnote => ?_
    rcases List.mem_append.mp hnote with hnew | hold
    · exact level_of_remark? fragments (Option.mem_toList.mp hnew)
    · exact hnotes note hold

/-- Collecting the fields of a list warns of nothing. -/
theorem quiet_collect (rounds budget : Nat) (selections : List Selection) :
    (collect fragments rounds budget selections).Quiet := by
  induction rounds generalizing budget selections with
  | zero =>
    unfold collect
    split
    · exact quiet_pure _
    · exact quiet_throw _
  | succ rounds ih =>
    unfold collect
    split
    · exact quiet_pure _
    · refine (quiet_report
        (level_of_mem_remarks fragments (List.forall_mem_nil _))).bind fun _ => ?_
      split
      · exact ih _ _
      · exact quiet_throw _

/-- Making trees of fields warns of nothing, if flattening what is below them does not. -/
theorem quiet_nodes {below : Nat → List Selection → Attempt FlattenError (List FieldNode × Nat)}
    (hbelow : ∀ budget selections, (below budget selections).Quiet) (budget : Nat)
    (fields : List SelectedField) : (nodes below budget fields).Quiet := by
  induction fields generalizing budget with
  | nil => exact quiet_pure _
  | cons field rest ih =>
    rw [nodes]
    split
    · exact (ih budget).bind fun _ => quiet_pure _
    · exact (hbelow _ _).bind fun children => (ih children.2).bind fun _ => quiet_pure _

/-- Flattening a level warns of nothing. -/
theorem quiet_level (depth budget : Nat) (selections : List Selection) :
    (level fragments depth budget selections).Quiet := by
  induction depth generalizing budget selections with
  | zero => exact quiet_throw _
  | succ depth ih =>
    rw [level]
    exact (quiet_collect fragments _ _ _).bind fun collected => quiet_nodes ih _ _

end Flatten

/-- Flattening selections warns of nothing. -/
theorem quiet_flatten (fragments : Fragments) (selections : List Selection) :
    (flatten fragments selections).Quiet :=
  (Flatten.quiet_level fragments _ _ selections).map Prod.fst

/-! ## Walking -/

namespace Bridge

variable (bridge : Bridge)

/-- A value at a named type without fields below is walked without a warning. -/
theorem quiet_outputLeaf (typeName : String) (value : Json) :
    (bridge.outputLeaf typeName value).Quiet := by
  unfold outputLeaf
  split
  · exact quiet_pure value
  · split
    · exact (quiet_debug _).bind fun _ => quiet_pure value
    · split
      · exact quiet_ofExcept _
      · exact quiet_pure value

/-- Looking for the type that a payload names warns of nothing. -/
theorem quiet_namedFields? (belongs : TypeDef → List String → Bool) (object : Members) :
    (bridge.namedFields? belongs object).Quiet := by
  unfold namedFields?
  split
  · exact quiet_pure none
  · split
    · exact quiet_pure none
    · split
      · split
        · exact quiet_pure _
        · exact (quiet_debug _).bind fun _ => quiet_pure none
      · exact quiet_pure none

/-- Looking for the fields of a payload warns of nothing. -/
theorem quiet_payloadFields? (type : TypeDef) (object : Members) :
    (bridge.payloadFields? type object).Quiet := by
  unfold payloadFields?
  split
  · exact quiet_pure _
  · exact (quiet_namedFields? bridge _ object).bind fun _ => quiet_pure _
  · exact quiet_namedFields? bridge _ object
  · exact quiet_pure none

mutual

/-- A value at a named type is walked without a warning. -/
theorem quiet_namedValue (node : FieldNode) (typeName : String) (value : Json) :
    (bridge.namedValue node typeName value).Quiet := by
  have hleaf : (bridge.outputLeaf typeName value).Quiet := quiet_outputLeaf bridge typeName value
  cases node with
  | leaf label => exact hleaf
  | branch label children =>
    cases value with
    | object inner =>
      simp only [namedValue]
      cases bridge.composite? typeName with
      | none => exact hleaf
      | some composite =>
        refine (quiet_payloadFields? bridge composite inner).bind fun found => ?_
        cases found with
        | none => exact quiet_pure _
        | some fields => exact (quiet_parseFields children fields inner).map Json.object
    | _ => exact hleaf

/-- The selected fields of an object are walked without a warning. -/
theorem quiet_parseFields (nodes : List FieldNode) (types : FieldTable) (object : Members) :
    (bridge.parseFields types nodes object).Quiet := by
  cases nodes with
  | nil =>
    rw [parseFields]
    exact quiet_pure object
  | cons node rest =>
    have hfield : (bridge.parseField types node object).Quiet := by
      rw [parseField_eq]
      cases types.lookup node.label.name with
      | none => exact quiet_pure object
      | some type =>
        exact Members.quiet_modifyM
          (TypeRef.quiet_descend (fun name value => quiet_namedValue node name value) type) _ object
    rw [parseFields]
    exact hfield.bind fun next => quiet_parseFields rest types next

end

/-- The data of an operation are parsed without a warning. -/
theorem quiet_parseOperationData (document : Document) (operation : Operation) (data : Json) :
    (bridge.parseOperationData document operation data).Quiet := by
  unfold parseOperationData
  split
  · exact (quiet_debug _).bind fun _ => quiet_pure data
  · split
    · refine ((quiet_flatten _ _).mapError _).bind fun nodes => ?_
      exact (quiet_parseFields bridge nodes _ _).map Json.object
    · exact quiet_pure _

/-- **Parsing data warns of nothing**, whether it succeeds or fails. -/
theorem quiet_parseData (document : Document) (operationName : Option String) (data : Json) :
    (bridge.parseData document operationName data).Quiet := by
  unfold parseData
  split
  · exact quiet_pure data
  · split
    · exact quiet_parseOperationData bridge document _ data
    · exact (quiet_debug _).bind fun _ => quiet_pure data

end Bridge

end EnumBridge
