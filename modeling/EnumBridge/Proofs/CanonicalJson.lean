import EnumBridge.Json.Reader

/-!
# Canonical JSON values

A JSON value is canonical if the members of every object in it stand in ascending order of
their names, so that no name occurs twice.  Every value that is read from a text is canonical
(`Json.canonical_of_ofText?`), since the members of an object are inserted one by one where
their names belong.
-/

set_option autoImplicit false

namespace EnumBridge

/-- The members of every object in a value stand in ascending order of their names. -/
inductive Json.Canonical : Json → Prop
  | null : Canonical .null
  | bool (value : Bool) : Canonical (.bool value)
  | number (value : Number) : Canonical (.number value)
  | string (value : String) : Canonical (.string value)
  | array {items : List Json} (h : ∀ item ∈ items, Canonical item) : Canonical (.array items)
  | object {members : List (String × Json)} (hnames : (members.map Prod.fst).Pairwise (· < ·))
      (h : ∀ member ∈ members, Canonical member.2) : Canonical (.object members)

namespace Members

/-- An insertion adds the new member and no others. -/
theorem mem_insert {name : String} {value : Json} {members : Members} {member : String × Json}
    (h : member ∈ insert name value members) : member = (name, value) ∨ member ∈ members := by
  induction members with
  | nil => simpa [insert] using h
  | cons head rest ih =>
    obtain ⟨key, held⟩ := head
    unfold insert at h
    split at h
    · simpa using h
    · split at h
      · rcases List.mem_cons.mp h with h | h
        · exact Or.inl h
        · exact Or.inr (List.mem_cons_of_mem _ h)
      · rcases List.mem_cons.mp h with h | h
        · exact Or.inr (h ▸ List.mem_cons_self)
        · exact (ih h).imp_right (List.mem_cons_of_mem _)

/-- An insertion into members in ascending order of names leaves them in that order. -/
theorem pairwise_insert (name : String) (value : Json) {members : Members}
    (h : (members.map Prod.fst).Pairwise (· < ·)) :
    ((insert name value members).map Prod.fst).Pairwise (· < ·) := by
  induction members with
  | nil => simp [insert]
  | cons head rest ih =>
    obtain ⟨key, held⟩ := head
    have hrest := h
    rw [List.map_cons, List.pairwise_cons] at hrest
    unfold insert
    split
    · next hlt =>
      rw [List.map_cons, List.pairwise_cons]
      refine ⟨fun other hother => ?_, h⟩
      rcases List.mem_cons.mp hother with rfl | hother
      · exact hlt
      · exact String.lt_trans hlt (hrest.1 other hother)
    · split
      · next _ heq => simpa [heq] using h
      · next hlt hne =>
        have hgt : key < name :=
          Std.lt_of_le_of_ne (String.not_lt.mp hlt) (Ne.symm hne)
        rw [List.map_cons, List.pairwise_cons]
        refine ⟨fun other hother => ?_, ih hrest.2⟩
        obtain ⟨member, hmember, rfl⟩ := List.mem_map.mp hother
        rcases mem_insert hmember with rfl | hmember
        · exact hgt
        · exact hrest.1 _ (List.mem_map_of_mem hmember)

/-- Canonical values inserted under any names, in any order, make a canonical object. -/
theorem canonical_ofList {members : List (String × Json)}
    (h : ∀ member ∈ members, member.2.Canonical) : (Json.object (ofList members)).Canonical := by
  have hfold (sorted : Members) (hsorted : (Json.object sorted).Canonical) :
      (Json.object (members.foldl (fun sorted member => insert member.1 member.2 sorted)
        sorted)).Canonical := by
    induction members generalizing sorted with
    | nil => exact hsorted
    | cons head rest ih =>
      refine ih (fun member hmember => h member (List.mem_cons_of_mem _ hmember)) _ ?_
      cases hsorted with
      | object hnames hvalues =>
        refine .object (pairwise_insert head.1 head.2 hnames) fun member hmember => ?_
        rcases mem_insert hmember with rfl | hmember
        · exact h head List.mem_cons_self
        · exact hvalues member hmember
  exact hfold [] (.object List.Pairwise.nil (by simp))

end Members

namespace Written

mutual

/-- The value of a written tree is canonical. -/
theorem canonical_of_toJson? (depth : Nat) (written : Written) {value : Json}
    (h : written.toJson? depth = some value) : value.Canonical := by
  cases written with
  | null => cases h; exact .null
  | bool b => cases h; exact .bool b
  | number n =>
    obtain ⟨number, -, rfl⟩ := Option.map_eq_some_iff.mp h
    exact .number number
  | string s =>
    obtain ⟨text, -, rfl⟩ := Option.map_eq_some_iff.mp h
    exact .string text
  | array items =>
    rw [toJson?] at h
    split at h
    · cases h
    · obtain ⟨values, hvalues, rfl⟩ := Option.map_eq_some_iff.mp h
      exact .array (canonical_of_itemsToJson? (depth - 1) items hvalues)
  | object members =>
    rw [toJson?] at h
    split at h
    · cases h
    · obtain ⟨values, hvalues, rfl⟩ := Option.map_eq_some_iff.mp h
      exact Members.canonical_ofList (canonical_of_membersToJson? (depth - 1) members hvalues)

/-- The values of written items are canonical. -/
theorem canonical_of_itemsToJson? (depth : Nat) (items : List Written) {values : List Json}
    (h : itemsToJson? depth items = some values) : ∀ value ∈ values, value.Canonical := by
  cases items with
  | nil => cases h; simp
  | cons item rest =>
    simp only [itemsToJson?, Option.bind_eq_bind, Option.bind_eq_some_iff] at h
    obtain ⟨head, hhead, tail, htail, ⟨⟩⟩ := h
    intro value hvalue
    rcases List.mem_cons.mp hvalue with rfl | hvalue
    · exact canonical_of_toJson? depth item hhead
    · exact canonical_of_itemsToJson? depth rest htail value hvalue

/-- The values of written members are canonical. -/
theorem canonical_of_membersToJson? (depth : Nat) (members : List (Option String × Written))
    {values : List (String × Json)} (h : membersToJson? depth members = some values) :
    ∀ member ∈ values, member.2.Canonical := by
  cases members with
  | nil => cases h; simp
  | cons member rest =>
    obtain ⟨name, item⟩ := member
    simp only [membersToJson?, Option.bind_eq_bind, Option.bind_eq_some_iff] at h
    obtain ⟨key, -, head, hhead, tail, htail, ⟨⟩⟩ := h
    intro value hvalue
    rcases List.mem_cons.mp hvalue with rfl | hvalue
    · exact canonical_of_toJson? depth item hhead
    · exact canonical_of_membersToJson? depth rest htail value hvalue

end

end Written

/-- **Every value that is read from a text is canonical.** -/
theorem Json.canonical_of_ofText? {text : String} {value : Json}
    (h : Json.ofText? text = some value) : value.Canonical := by
  obtain ⟨written, -, hvalue⟩ := Option.bind_eq_some_iff.mp h
  exact written.canonical_of_toJson? Written.maxNesting hvalue

end EnumBridge
