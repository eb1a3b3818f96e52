import EnumBridge.Proofs.RoundTrip

/-!
# Which values a value table takes back

A value table is read in both directions, but it need not pair the values of both sides one to
one.  Several client values may share a server value, a value may stand in the table on one side
only, or on both sides of different rows, and a server value may be null, which stays null on the
way back.

The main statement is `restores_table_iff`: it says for every value whether it comes back as it
was, in either order of the directions.  Values are compared as JSON (`==`), so that a zero may
come back with the other sign.
-/

set_option autoImplicit false

namespace EnumBridge

/-! ## Equality of JSON values -/

/-- A number is equal to itself. -/
theorem Number.beq_self (number : Number) : (number == number) = true := by
  cases number with
  | integer value => exact decide_eq_true rfl
  | double value => exact (Double.beq_iff value value).mpr (Or.inl rfl)

namespace Json

mutual

/-- A JSON value is equal to itself. -/
theorem eqv_self : ∀ value : Json, value.eqv value = true
  | .null => rfl
  | .bool value => by simp [eqv]
  | .number value => by rw [eqv, Number.beq_self]
  | .string value => by simp [eqv]
  | .array items => by rw [eqv, itemsEqv_self items]
  | .object members => by rw [eqv, membersEqv_self members]

/-- Items are equal to themselves. -/
theorem itemsEqv_self : ∀ items : List Json, itemsEqv items items = true
  | [] => rfl
  | item :: rest => by rw [itemsEqv, eqv_self item, itemsEqv_self rest, Bool.and_self]

/-- Members are equal to themselves. -/
theorem membersEqv_self : ∀ members : List (String × Json), membersEqv members members = true
  | [] => rfl
  | (name, value) :: rest => by
    rw [membersEqv, eqv_self value, membersEqv_self rest, beq_self_eq_true, Bool.and_self,
      Bool.and_self]

end

instance : ReflBEq Json := ⟨fun {value} => eqv_self value⟩

/-- Only a string is equal to a string. -/
theorem beq_string_iff {value : Json} {text : String} :
    (value == string text) = true ↔ value = string text := by
  cases value with
  | string s =>
    show (s == text) = true ↔ _
    rw [beq_iff_eq, string.injEq]
  | _ => exact ⟨fun h => Bool.noConfusion h, fun h => Json.noConfusion h⟩

/-- A string is equal to the same string only. -/
theorem string_beq_iff {value : Json} {text : String} :
    (string text == value) = true ↔ value = string text := by
  cases value with
  | string s =>
    show (text == s) = true ↔ _
    rw [beq_iff_eq, string.injEq, eq_comm]
  | _ => exact ⟨fun h => Bool.noConfusion h, fun h => Json.noConfusion h⟩

end Json

namespace ValueTable

variable (table : ValueTable)

/-! ## What a table says of a value -/

/-- The value is a client value of the table. -/
def HasClient (value : Json) : Prop := ∃ row ∈ table.rows, value = .string row.1

/-- The value is equal to a server value of the table. -/
def HasServer (value : Json) : Prop := ∃ row ∈ table.rows, (row.2 == value) = true

/-- The value is a client value whose server value is not null, and that server value stands in
no row above. -/
def IsFirstClient (value : Json) : Prop :=
  ∃ above client server below, table.rows = above ++ (client, server) :: below ∧
    value = .string client ∧ server.isNull = false ∧ ∀ row ∈ above, (row.2 == server) = false

/-- What a table makes of a value that travels in a direction, if null is left alone. -/
def carry (direction : Direction) (value : Json) : Json :=
  if value.isNull then value
  else
    match direction with
    | .toServer => table.toServer value
    | .toClient => table.toClient value

variable {table}

/-- Null is left alone. -/
theorem carry_null (direction : Direction) : table.carry direction .null = .null := by
  rw [carry.eq_def, Json.isNull, if_pos rfl]

/-- A value that is not null is looked up among the client values on its way to the server. -/
theorem carry_toServer {value : Json} (h : value.isNull = false) :
    table.carry .toServer value = table.toServer value := by
  rw [carry.eq_def, h, if_neg Bool.false_ne_true]

/-- A value that is not null is looked up among the server values on its way to the client. -/
theorem carry_toClient {value : Json} (h : value.isNull = false) :
    table.carry .toClient value = table.toClient value := by
  rw [carry.eq_def, h, if_neg Bool.false_ne_true]

/-- A client value becomes the server value in its row. -/
theorem toServer_of_mem (hclients : (Table.names table.rows).Nodup) {client : String}
    {server : Json} (h : (client, server) ∈ table.rows) :
    table.toServer (.string client) = server := by
  have hfound : table.server? client = some server :=
    (Table.lookup_eq_some_iff hclients).mpr h
  rw [toServer, hfound, Option.getD_some]

/-- What is no client value goes to the server as it is. -/
theorem toServer_of_not_hasClient {value : Json} (h : ¬ table.HasClient value) :
    table.toServer value = value := by
  cases value with
  | string client =>
    have hnone : table.server? client = none := by
      refine List.lookup_eq_none_iff.mpr fun row hrow => ?_
      have hne : client ≠ row.1 := fun heq => h ⟨row, hrow, congrArg Json.string heq⟩
      simpa using hne
    rw [toServer, hnone, Option.getD_none]
  | _ => rfl

/-- What is no server value goes to the client as it is. -/
theorem toClient_of_not_hasServer {value : Json} (h : ¬ table.HasServer value) :
    table.toClient value = value := by
  have hnone : table.client? value = none := by
    rw [client?, Option.map_eq_none_iff, List.find?_eq_none]
    exact fun row hrow heq => h ⟨row, hrow, heq⟩
  rw [toClient, hnone]

/-- A server value becomes the client value of the first row that holds it. -/
theorem toClient_of_first {above below : List (String × Json)} {client : String}
    {held server : Json} (hrows : table.rows = above ++ (client, held) :: below)
    (hheld : (held == server) = true) (habove : ∀ row ∈ above, (row.2 == server) = false) :
    table.toClient server = .string client := by
  have hfind : table.rows.find? (fun row => row.2 == server) = some (client, held) := by
    refine List.find?_eq_some_iff_append.mpr ⟨hheld, above, below, hrows, fun row hrow => ?_⟩
    rw [habove row hrow, Bool.not_false]
  rw [toClient, client?, hfind, Option.map_some]

/-- A server value has a first row that holds it. -/
theorem HasServer.exists_first {server : Json} (h : table.HasServer server) :
    ∃ above client held below, table.rows = above ++ (client, held) :: below ∧
      (held == server) = true ∧ ∀ row ∈ above, (row.2 == server) = false := by
  obtain ⟨row, hrow, heq⟩ := h
  have hsome : (table.rows.find? fun row => row.2 == server).isSome := by
    rw [List.find?_isSome]
    exact ⟨row, hrow, heq⟩
  obtain ⟨first, hfirst⟩ := Option.isSome_iff_exists.mp hsome
  obtain ⟨hheld, above, below, hrows, habove⟩ := List.find?_eq_some_iff_append.mp hfirst
  refine ⟨above, first.1, first.2, below, hrows, hheld, fun other hother => ?_⟩
  exact Bool.not_eq_true' _ |>.mp (habove other hother)

/-! ## There and back -/

/-- Different client values stand in different rows, so each has one server value. -/
theorem server_unique (hclients : (Table.names table.rows).Nodup) {client : String}
    {first second : Json} (hfirst : (client, first) ∈ table.rows)
    (hsecond : (client, second) ∈ table.rows) : first = second := by
  rw [← toServer_of_mem hclients hfirst, toServer_of_mem hclients hsecond]

/-- A client value is the first one of its server value if that value, not being null, is taken back
to it. -/
theorem isFirstClient_iff (hclients : (Table.names table.rows).Nodup) {client : String}
    {server : Json} (h : (client, server) ∈ table.rows) :
    table.IsFirstClient (.string client) ↔
      server.isNull = false ∧ table.toClient server = .string client := by
  constructor
  · rintro ⟨above, other, held, below, hrows, heq, hheld, habove⟩
    rw [Json.string.injEq] at heq
    subst heq
    have hmem : (client, held) ∈ table.rows := by simp [hrows]
    rw [server_unique hclients h hmem]
    exact ⟨hheld, toClient_of_first hrows ReflBEq.rfl habove⟩
  · rintro ⟨hserver, hback⟩
    obtain ⟨above, first, held, below, hrows, hheld, habove⟩ :=
      HasServer.exists_first ⟨(client, server), h, ReflBEq.rfl⟩
    rw [toClient_of_first hrows hheld habove, Json.string.injEq] at hback
    subst hback
    -- The first row that holds the server value is the row of the client value itself.
    have hmem : (first, held) ∈ table.rows := by simp [hrows]
    have hsame := server_unique hclients hmem h
    subst hsame
    exact ⟨above, first, held, below, hrows, rfl, hserver, habove⟩

/-- What goes to the server comes back as it was if it is null, or if it is a client value and
the first with its server value, which is not null, or if the table does not know it at all. -/
theorem carry_toClient_carry_iff (hclients : (Table.names table.rows).Nodup) (value : Json) :
    (table.carry .toClient (table.carry .toServer value) == value) = true ↔
      value.isNull = true ∨ table.IsFirstClient value ∨
        ¬ table.HasClient value ∧ ¬ table.HasServer value := by
  cases hvalue : value.isNull with
  | true =>
    rw [Json.eq_null_of_isNull hvalue]
    exact iff_of_true ReflBEq.rfl (Or.inl rfl)
  | false =>
    rw [carry_toServer hvalue]
    by_cases hclient : table.HasClient value
    · obtain ⟨⟨client, server⟩, hrow, heq⟩ := id hclient
      subst heq
      rw [toServer_of_mem hclients hrow, Json.beq_string_iff, isFirstClient_iff hclients hrow]
      cases hserver : server.isNull with
      | true => simp [Json.eq_null_of_isNull hserver, carry_null, hclient]
      | false => simp [carry_toClient hserver, hclient]
    · have hfirst : ¬ table.IsFirstClient value := by
        rintro ⟨above, client, server, below, hrows, heq, -, -⟩
        exact hclient ⟨(client, server), by simp [hrows], heq⟩
      rw [toServer_of_not_hasClient hclient, carry_toClient hvalue]
      by_cases hserver : table.HasServer value
      · obtain ⟨above, client, held, below, hrows, hheld, habove⟩ := hserver.exists_first
        have hne : value ≠ .string client := fun heq =>
          hclient ⟨(client, held), by simp [hrows], heq⟩
        rw [toClient_of_first hrows hheld habove, Json.string_beq_iff]
        simp [hne, hfirst, hserver]
      · rw [toClient_of_not_hasServer hserver]
        exact iff_of_true ReflBEq.rfl (Or.inr (Or.inr ⟨hclient, hserver⟩))

/-- What goes to the client comes back as it was if it is null, or a server value, or not a
client value. -/
theorem carry_toServer_carry_iff (hclients : (Table.names table.rows).Nodup) (value : Json) :
    (table.carry .toServer (table.carry .toClient value) == value) = true ↔
      value.isNull = true ∨ table.HasServer value ∨ ¬ table.HasClient value := by
  cases hvalue : value.isNull with
  | true =>
    rw [Json.eq_null_of_isNull hvalue]
    exact iff_of_true ReflBEq.rfl (Or.inl rfl)
  | false =>
    rw [carry_toClient hvalue]
    by_cases hserver : table.HasServer value
    · obtain ⟨above, client, held, below, hrows, hheld, habove⟩ := hserver.exists_first
      have hmem : (client, held) ∈ table.rows := by simp [hrows]
      rw [toClient_of_first hrows hheld habove, carry_toServer rfl, toServer_of_mem hclients hmem]
      exact iff_of_true hheld (Or.inr (Or.inl hserver))
    · rw [toClient_of_not_hasServer hserver, carry_toServer hvalue]
      by_cases hclient : table.HasClient value
      · obtain ⟨⟨client, server⟩, hrow, heq⟩ := id hclient
        have hback : ¬ (table.toServer value == value) = true := by
          rw [heq, toServer_of_mem hclients hrow, ← heq]
          exact fun h => hserver ⟨(client, server), hrow, h⟩
        simp [hback, hserver, hclient]
      · rw [toServer_of_not_hasClient hclient]
        exact iff_of_true ReflBEq.rfl (Or.inr (Or.inr hclient))

end ValueTable

/-- The other direction. -/
def Direction.opposite : Direction → Direction
  | .toServer => .toClient
  | .toClient => .toServer

namespace Rulebook

/-- The value of an enum can be converted in a direction and then in the opposite one, and comes
back as it was. -/
def Restores (rules : Rulebook) (enumName : String) (direction : Direction) (value : Json) : Prop :=
  ∃ sent back, rules.convert enumName direction value = .ok sent ∧
    rules.convert enumName direction.opposite sent = .ok back ∧ (back == value) = true

/-- The values of an enum are converted by a value table: the enum has that table, and no
function in either direction. -/
structure UsesTable (rules : Rulebook) (enumName : String) (table : ValueTable) : Prop where
  hasTable : rules.valueTables.lookup enumName = some table
  noFunction : ∀ direction, (rules.functions direction).lookup enumName = none

variable {rules : Rulebook} {enumName : String} {table : ValueTable}

/-- Values of an enum with a value table are carried by the table. -/
theorem UsesTable.convert_eq (h : rules.UsesTable enumName table) (direction : Direction)
    (value : Json) :
    rules.convert enumName direction value = .ok (table.carry direction value) := by
  have hrule : rules.rule enumName direction = .table direction table := by
    simp [rule, function?, table?, h.noFunction, h.hasTable]
  rw [convert, hrule]
  unfold ValueTable.carry
  cases value.isNull with
  | true => rfl
  | false => cases direction <;> rfl

/-- A value comes back if the table carries it there and back to an equal value. -/
theorem UsesTable.restores_iff (h : rules.UsesTable enumName table) (direction : Direction)
    (value : Json) :
    rules.Restores enumName direction value ↔
      (table.carry direction.opposite (table.carry direction value) == value) = true := by
  unfold Restores
  constructor
  · rintro ⟨sent, back, hthere, hback, heq⟩
    rw [h.convert_eq, Except.ok.injEq] at hthere
    subst hthere
    rw [h.convert_eq, Except.ok.injEq] at hback
    subst hback
    exact heq
  · exact fun heq => ⟨_, _, h.convert_eq _ _, h.convert_eq _ _, heq⟩

end Rulebook

/-- **Which values a table takes back.**  Let the values of an enum be converted by a table with
different client values.  A value that goes to the server comes back as it was exactly if it is
null; or a client value whose server value is not null and stands in no row above; or neither a
client value nor a server value.  One that goes to the client comes back as it was exactly if it
is null, or a server value, or not a client value. -/
theorem restores_table_iff {rules : Rulebook} {enumName : String} {table : ValueTable}
    (h : rules.UsesTable enumName table) (hclients : (Table.names table.rows).Nodup)
    (value : Json) :
    (rules.Restores enumName .toServer value ↔
      value.isNull = true ∨ table.IsFirstClient value ∨
        ¬ table.HasClient value ∧ ¬ table.HasServer value) ∧
    (rules.Restores enumName .toClient value ↔
      value.isNull = true ∨ table.HasServer value ∨ ¬ table.HasClient value) := by
  constructor
  · rw [h.restores_iff]
    exact ValueTable.carry_toClient_carry_iff hclients value
  · rw [h.restores_iff]
    exact ValueTable.carry_toServer_carry_iff hclients value

/-- Sizes: two names for one server value, one for null, and one that the server uses for
another. -/
def sizeTable : ValueTable :=
  ⟨[("small", .number (.integer 1)), ("tiny", .number (.integer 1)), ("none", .null),
    ("big", .string "huge"), ("huge", .string "vast")]⟩

/-- Rules that convert sizes by that table. -/
def sizeRules : Rulebook := .ofSettings [.valueTable "Size" sizeTable]

/-- Sizes are converted by the table. -/
theorem sizeRules_usesTable : sizeRules.UsesTable "Size" sizeTable :=
  ⟨rfl, fun direction => by cases direction <;> rfl⟩

/-- Of two names for one server value only the first comes back from the server, and a name for
null does not.  From the client a server value comes back, and a value that is none does not. -/
theorem restores_table_iff_sizes :
    (Table.names sizeTable.rows).Nodup ∧ sizeRules.UsesTable "Size" sizeTable ∧
      sizeRules.Restores "Size" .toServer (.string "small") ∧
      ¬ sizeRules.Restores "Size" .toServer (.string "tiny") ∧
      ¬ sizeRules.Restores "Size" .toServer (.string "none") ∧
      sizeRules.Restores "Size" .toClient (.string "huge") ∧
      ¬ sizeRules.Restores "Size" .toClient (.string "big") := by
  have hclients : (Table.names sizeTable.rows).Nodup := by decide
  have hsizes := restores_table_iff sizeRules_usesTable hclients
  have hmem {client : String} {server : Json} (h : (client, server) ∈ sizeTable.rows) :
      sizeTable.HasClient (.string client) := ⟨(client, server), h, rfl⟩
  refine ⟨hclients, sizeRules_usesTable, ?_, ?_, ?_, ?_, ?_⟩
  · have hrow : ("small", .number (.integer 1)) ∈ sizeTable.rows := by simp [sizeTable]
    rw [(hsizes _).1, ValueTable.isFirstClient_iff hclients hrow]
    exact Or.inr (Or.inl ⟨rfl, rfl⟩)
  · have hrow : ("tiny", .number (.integer 1)) ∈ sizeTable.rows := by simp [sizeTable]
    have hfirst : sizeTable.toClient (.number (.integer 1)) = .string "small" := rfl
    rw [(hsizes _).1, ValueTable.isFirstClient_iff hclients hrow, hfirst]
    simp [Json.isNull, hmem hrow]
  · have hrow : ("none", .null) ∈ sizeTable.rows := by simp [sizeTable]
    rw [(hsizes _).1, ValueTable.isFirstClient_iff hclients hrow]
    simp [Json.isNull, hmem hrow]
  · rw [(hsizes _).2]
    exact Or.inr (Or.inl ⟨("big", .string "huge"), by simp [sizeTable], rfl⟩)
  · have hrow : ("big", .string "huge") ∈ sizeTable.rows := by simp [sizeTable]
    have hserver : ¬ sizeTable.HasServer (.string "big") := by
      rintro ⟨row, hmember, heq⟩
      rw [Json.beq_string_iff] at heq
      simp [sizeTable, Prod.ext_iff, heq] at hmember
    rw [(hsizes _).2]
    simp [Json.isNull, hserver, hmem hrow]

end EnumBridge
