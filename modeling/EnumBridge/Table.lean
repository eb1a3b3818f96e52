/-!
# Tables

A `Table α` holds values under names, in the order in which the names were first given.
Putting a value under a name that is already there replaces the value and keeps the
place (`Table.insert`).  Values are found with `List.lookup`; as long as no name is given twice,
that is to say which entries there are (`Table.lookup_eq_some_iff`).
-/

set_option autoImplicit false

namespace EnumBridge

/-- Values under names, in the order in which the names were first given. -/
abbrev Table (α : Type) := List (String × α)

namespace Table

variable {α : Type}

/-- Puts a value under a name. -/
def insert (name : String) (value : α) : Table α → Table α
  | [] => [(name, value)]
  | (other, held) :: rest =>
    if name = other then (other, value) :: rest else (other, held) :: insert name value rest

/-- Puts every entry of a list into a table, one after the other. -/
def extend (table : Table α) (entries : List (String × α)) : Table α :=
  entries.foldl (fun t entry => insert entry.1 entry.2 t) table

/-- The table of a list of entries. -/
def ofList (entries : List (String × α)) : Table α := extend [] entries

/-- The names of a table, in order. -/
def names (table : Table α) : List String := table.map Prod.fst

/-- A look-up passes over an entry of another name. -/
theorem lookup_cons_of_ne {name key : String} (h : name ≠ key) (held : α) (rest : Table α) :
    List.lookup name ((key, held) :: rest) = rest.lookup name := by
  have hb : (name == key) = false := by simpa using h
  rw [List.lookup_cons, hb]

/-- The names of one table behind another are the names of both. -/
theorem names_append (table more : Table α) : names (table ++ more) = names table ++ names more :=
  List.map_append

/-- A name is taken if a look-up of it finds something. -/
theorem mem_names_iff {name : String} {table : Table α} :
    name ∈ names table ↔ (table.lookup name).isSome = true := by
  rw [names, List.lookup_isSome_iff, List.mem_map]
  simp only [beq_iff_eq, eq_comm (a := name)]

/-- Among entries of different names a look-up finds every one of them. -/
theorem lookup_eq_some_iff {table : Table α} (hnames : (names table).Nodup) {name : String}
    {held : α} : table.lookup name = some held ↔ (name, held) ∈ table := by
  induction table with
  | nil => simp
  | cons entry rest ih =>
    obtain ⟨key, value⟩ := entry
    rw [names, List.map_cons, List.nodup_cons] at hnames
    by_cases hkey : name = key
    · subst hkey
      have hrest : (name, held) ∉ rest := fun h => hnames.1 (List.mem_map.mpr ⟨_, h, rfl⟩)
      simp [hrest, eq_comm]
    · rw [lookup_cons_of_ne hkey, ih hnames.2, List.mem_cons]
      simp [hkey]

/-! ## Insertion -/

/-- After an insertion the new value is found under its name, and under every other name what
was there before. -/
theorem lookup_insert (name other : String) (value : α) (table : Table α) :
    (insert name value table).lookup other =
      if other = name then some value else table.lookup other := by
  induction table with
  | nil =>
    by_cases h : other = name
    · simp [insert, h]
    · simp [insert, lookup_cons_of_ne h, h]
  | cons entry rest ih =>
    obtain ⟨key, held⟩ := entry
    by_cases h : name = key
    · subst h
      by_cases h' : other = name
      · simp [insert, h']
      · simp [insert, lookup_cons_of_ne h', h']
    · by_cases h' : other = key
      · subst h'
        have : other ≠ name := fun e => h e.symm
        simp [insert, h, this]
      · rw [insert, if_neg h, lookup_cons_of_ne h', lookup_cons_of_ne h', ih]

/-- The names stay in their places, and one that is new comes last. -/
theorem names_insert (name : String) (value : α) (table : Table α) :
    names (insert name value table) =
      if name ∈ names table then names table else names table ++ [name] := by
  induction table with
  | nil => rfl
  | cons entry rest ih =>
    obtain ⟨key, held⟩ := entry
    have hcons (value : α) (rest : Table α) : names ((key, value) :: rest) = key :: names rest :=
      rfl
    by_cases h : name = key
    · simp [insert, hcons, h]
    · rw [insert, if_neg h, hcons, hcons, ih]
      by_cases hmem : name ∈ names rest <;> simp [hmem, h]

/-- An insertion gives no name twice. -/
theorem nodup_names_insert {table : Table α} (h : (names table).Nodup) (name : String)
    (value : α) : (names (insert name value table)).Nodup := by
  rw [names_insert]
  split
  · exact h
  · next hname =>
    refine List.nodup_append.mpr ⟨h, by simp, fun other hother new hnew heq => ?_⟩
    rw [List.mem_singleton] at hnew
    exact hname (hnew ▸ heq ▸ hother)

/-- What stands in a table after an insertion stood there before or was put in. -/
theorem mem_of_mem_insert {name : String} {value : α} {table : Table α} {entry : String × α}
    (h : entry ∈ insert name value table) : entry = (name, value) ∨ entry ∈ table := by
  induction table with
  | nil => exact Or.inl (List.mem_singleton.mp h)
  | cons first rest ih =>
    obtain ⟨key, held⟩ := first
    rw [insert] at h
    split at h
    · next heq =>
      subst heq
      exact (List.mem_cons.mp h).imp_right (List.mem_cons_of_mem _)
    · rcases List.mem_cons.mp h with rfl | h
      · exact Or.inr List.mem_cons_self
      · exact (ih h).imp_right (List.mem_cons_of_mem _)

/-- What is put under a new name comes last. -/
theorem insert_of_notMem {name : String} {table : Table α} (h : name ∉ names table) (value : α) :
    insert name value table = table ++ [(name, value)] := by
  induction table with
  | nil => rfl
  | cons entry rest ih =>
    obtain ⟨key, held⟩ := entry
    obtain ⟨hkey, hrest⟩ := not_or.mp (fun hmem => h (List.mem_cons.mpr hmem))
    rw [insert, if_neg hkey, ih hrest]
    rfl

/-- What is put under a name that is there stands in the place of what was there. -/
theorem insert_of_mem {name : String} {table : Table α} (hnames : (names table).Nodup)
    (h : name ∈ names table) (value : α) :
    insert name value table =
      table.map fun entry => if entry.1 = name then (entry.1, value) else entry := by
  induction table with
  | nil => cases h
  | cons entry rest ih =>
    obtain ⟨key, held⟩ := entry
    obtain ⟨hfirst, hrest⟩ := List.nodup_cons.mp hnames
    by_cases hkey : name = key
    · subst hkey
      have hkept : rest.map (fun entry => if entry.1 = name then (entry.1, value) else entry) =
          rest.map id := by
        refine List.map_congr_left fun entry hentry => if_neg fun heq => hfirst ?_
        exact List.mem_map.mpr ⟨entry, hentry, heq⟩
      rw [insert, if_pos rfl, List.map_cons, if_pos rfl, hkept, List.map_id]
    · rw [insert, if_neg hkey, List.map_cons, if_neg (Ne.symm hkey),
        ih hrest ((List.mem_cons.mp h).resolve_left hkey)]

end Table

end EnumBridge
