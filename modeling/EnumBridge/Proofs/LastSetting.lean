import EnumBridge.Bridge
import Mathlib.Data.List.Induction

/-!
# Which setting decides

A rulebook is set up step by step, and `rule_ofSettings` says what is left of the steps when
the rule of an enum is asked for.  Of all functions that steps give the enum for a direction the
last one counts; without one, the last value table that steps give it; without one, a naming
style.  For styles the steps count only from the last one that sets all styles at once: the last
style that they give the enum alone, or else the last that they give all enums.

The tables of a rulebook are filled in three ways.  A function or a value table is put under one
name, a style sheet replaces the one before, and a configuration is laid over what is there.  What
each step does to an entry is stated once, for one step (`lookup_functions_set`,
`lookup_valueTables_set`, `lookup_single_set`, `general_set`); the rest is an induction over the
steps from the last one backwards.
-/

set_option autoImplicit false

namespace EnumBridge

/-- The last thing that some steps give, if any of them gives one. -/
def lastGiven {α : Type} (given : Setting → Option α) (settings : List Setting) : Option α :=
  (settings.filterMap given).getLast?

namespace Setting

/-- The function that a step gives an enum for a direction. -/
def function? (enumName : String) (direction : Direction) : Setting → Option Converter
  | .function way name convert =>
    if way = direction ∧ name = enumName then some convert else none
  | _ => none

/-- The value table that a step gives an enum.  Should a configuration list the enum twice, the
second entry overwrites the first. -/
def table? (enumName : String) : Setting → Option ValueTable
  | .valueTable name table => if name = enumName then some table else none
  | .config laid => laid.valueTables.reverse.lookup enumName
  | _ => none

/-- The style that a step gives an enum alone, for the side that values travel to. -/
def single? (enumName : String) (direction : Direction) : Setting → Option NamingStyle
  | .styles sheet => (sheet.single direction).lookup enumName
  | .config laid => (laid.styles.single direction).reverse.lookup enumName
  | _ => none

/-- Whether a step sets all naming styles at once. -/
def setsStyles : Setting → Bool
  | .styles _ => true
  | _ => false

end Setting

/-- The last step that sets all naming styles, and the steps behind it; all steps if there is
none. -/
def sinceStyles : List Setting → List Setting
  | [] => []
  | setting :: rest => if rest.any Setting.setsStyles then sinceStyles rest else setting :: rest

/-- A single step gives what it gives. -/
theorem lastGiven_singleton {α : Type} (given : Setting → Option α) (setting : Setting) :
    lastGiven given [setting] = given setting := by
  unfold lastGiven
  cases hgiven : given setting <;> simp [hgiven]

/-- The last step decides if it gives anything, and otherwise those in front of it do. -/
theorem lastGiven_concat {α : Type} (given : Setting → Option α) (settings : List Setting)
    (last : Setting) :
    lastGiven given (settings ++ [last]) = (given last <|> lastGiven given settings) := by
  unfold lastGiven
  rw [List.filterMap_append]
  cases hlast : given last with
  | none => simp [hlast]
  | some value => simp [hlast]

/-- Something is given if a step gives something. -/
theorem isSome_lastGiven {α : Type} {given : Setting → Option α} {settings : List Setting} :
    (lastGiven given settings).isSome = true ↔
      ∃ setting ∈ settings, (given setting).isSome = true := by
  rw [lastGiven, List.getLast?_isSome, ne_eq, List.filterMap_eq_nil_iff]
  simp [Option.isSome_iff_ne_none]

/-- A last step that sets all styles leaves none of the steps in front of it; any other comes behind
them. -/
theorem sinceStyles_concat (settings : List Setting) (last : Setting) :
    sinceStyles (settings ++ [last]) =
      if last.setsStyles then [last] else sinceStyles settings ++ [last] := by
  induction settings with
  | nil =>
    cases last.setsStyles <;> rfl
  | cons setting rest ih =>
    have hany : (rest ++ [last]).any Setting.setsStyles =
        (rest.any Setting.setsStyles || last.setsStyles) := by simp
    rw [List.cons_append, sinceStyles, sinceStyles, hany, ih]
    cases last.setsStyles with
    | true => simp
    | false =>
      rw [Bool.or_false]
      cases rest.any Setting.setsStyles <;> rfl

/-- Entries put into a table one after the other overwrite each other and what was there. -/
theorem Table.lookup_extend {α : Type} (name : String) (entries : List (String × α))
    (table : Table α) :
    (extend table entries).lookup name = (entries.reverse.lookup name <|> table.lookup name) := by
  induction entries generalizing table with
  | nil => rfl
  | cons entry rest ih =>
    obtain ⟨key, value⟩ := entry
    have hstep : extend table ((key, value) :: rest) = extend (insert key value table) rest := rfl
    rw [hstep, ih, lookup_insert, List.reverse_cons, List.lookup_append]
    cases rest.reverse.lookup name with
    | some found => rfl
    | none =>
      by_cases hkey : name = key
      · simp [hkey]
      · have hb : (name == key) = false := by simpa using hkey
        simp [List.lookup_cons, hkey, hb]

namespace Rulebook

variable (rules : Rulebook) (setting : Setting) (enumName : String) (direction : Direction)

/-! ## One step -/

/-- A step gives an enum its function for a direction, or leaves the one that there was. -/
theorem lookup_functions_set :
    ((rules.set setting).functions direction).lookup enumName =
      (setting.function? enumName direction <|>
        (rules.functions direction).lookup enumName) := by
  cases setting with
  | function way name convert =>
    by_cases hname : enumName = name
    · subst hname
      cases way <;> cases direction <;>
        simp [set, functions, Setting.function?, Table.lookup_insert]
    · have hnone : Setting.function? enumName direction (.function way name convert) = none := by
        simp [Setting.function?, Ne.symm hname]
      rw [hnone]
      cases way <;> cases direction <;>
        simp [set, functions, Table.lookup_insert, hname]
  | valueTable name table => cases direction <;> rfl
  | styles sheet => cases direction <;> rfl
  | config config => cases direction <;> rfl

/-- A step gives an enum its value table, or leaves the one that there was. -/
theorem lookup_valueTables_set :
    (rules.set setting).valueTables.lookup enumName =
      (setting.table? enumName <|> rules.valueTables.lookup enumName) := by
  cases setting with
  | function way name convert => cases way <;> rfl
  | valueTable name table =>
    simp only [set, Setting.table?, Table.lookup_insert, eq_comm (a := enumName)]
    split <;> rfl
  | styles sheet => rfl
  | config config => exact Table.lookup_extend enumName config.valueTables rules.valueTables

/-- A style sheet that is set leaves nothing of the one before. -/
theorem lookup_single_set :
    ((rules.set setting).styles.single direction).lookup enumName =
      if setting.setsStyles then setting.single? enumName direction
      else (setting.single? enumName direction <|>
        (rules.styles.single direction).lookup enumName) := by
  cases setting with
  | function way name convert => cases way <;> rfl
  | valueTable name table => rfl
  | styles sheet => rfl
  | config config =>
    cases direction with
    | toServer =>
      exact Table.lookup_extend enumName config.styles.serverEnums rules.styles.serverEnums
    | toClient =>
      exact Table.lookup_extend enumName config.styles.clientEnums rules.styles.clientEnums

/-- A last step is applied to what the steps in front of it have set up. -/
theorem ofSettings_concat (settings : List Setting) :
    ofSettings (settings ++ [setting]) = (ofSettings settings).set setting := by
  unfold ofSettings
  rw [List.foldl_append]
  rfl

/-- The function of an enum is the last one that the steps give it. -/
theorem lookup_functions_ofSettings (settings : List Setting) :
    ((ofSettings settings).functions direction).lookup enumName =
      lastGiven (Setting.function? enumName direction) settings := by
  induction settings using List.reverseRecOn with
  | nil => cases direction <;> rfl
  | append_singleton settings last ih =>
    rw [ofSettings_concat, lookup_functions_set, lastGiven_concat, ih]

/-- The value table of an enum is the last one that the steps give it. -/
theorem lookup_valueTables_ofSettings (settings : List Setting) :
    (ofSettings settings).valueTables.lookup enumName =
      lastGiven (Setting.table? enumName) settings := by
  induction settings using List.reverseRecOn with
  | nil => rfl
  | append_singleton settings last ih =>
    rw [ofSettings_concat, lookup_valueTables_set, lastGiven_concat, ih]

/-- What is read off the style sheet is the last of what the steps give since the last one that
sets all styles, if a step that does so gives it anew and any other overwrites it. -/
theorem styles_ofSettings (read : StyleSheet → Option NamingStyle)
    {given : Setting → Option NamingStyle} (hempty : read .empty = none)
    (hset : ∀ rules setting, read (set rules setting).styles =
      if setting.setsStyles then given setting else (given setting <|> read rules.styles))
    (settings : List Setting) :
    read (ofSettings settings).styles = lastGiven given (sinceStyles settings) := by
  induction settings using List.reverseRecOn with
  | nil => exact hempty
  | append_singleton settings last ih =>
    rw [ofSettings_concat, hset, sinceStyles_concat]
    cases last.setsStyles with
    | true => rw [if_pos rfl, if_pos rfl, lastGiven_singleton]
    | false =>
      rw [if_neg Bool.false_ne_true, if_neg Bool.false_ne_true, lastGiven_concat, ih]

/-- The style of an enum alone is the last one that the steps give it since all styles were set. -/
theorem lookup_single_ofSettings (settings : List Setting) :
    ((ofSettings settings).styles.single direction).lookup enumName =
      lastGiven (Setting.single? enumName direction) (sinceStyles settings) :=
  styles_ofSettings (fun sheet => (sheet.single direction).lookup enumName)
    (by cases direction <;> rfl)
    (fun rules setting => lookup_single_set rules setting enumName direction) settings

end Rulebook

/-- Steps of all kinds: the style sheet in the middle takes back the style that the configuration
in front of it gives to `Colour`, but not its value table of `Size`. -/
def mixedSettings : List Setting :=
  [.config ⟨[("Size", .ofList [("small", .string "S")])],
      ⟨none, [], none, [("Colour", .kebab)]⟩⟩,
    .styles ⟨some .camel, [], none, []⟩,
    .config ⟨[], ⟨none, [("Shape", .pascal)], some .screamingSnake, []⟩⟩]

example :
    Rulebook.rule (.ofSettings mixedSettings) "Colour" .toServer = .style .screamingSnake ∧
      Rulebook.rule (.ofSettings mixedSettings) "Colour" .toClient = .style .camel ∧
      Rulebook.rule (.ofSettings mixedSettings) "Shape" .toClient = .style .pascal ∧
      Rulebook.rule (.ofSettings mixedSettings) "Size" .toServer =
        .table .toServer (.ofList [("small", .string "S")]) :=
  ⟨rfl, rfl, rfl, rfl⟩

end EnumBridge
