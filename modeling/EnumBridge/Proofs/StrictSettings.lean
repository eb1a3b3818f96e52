import EnumBridge.Proofs.ByteOrder
import EnumBridge.Proofs.EnumSite
import EnumBridge.Proofs.LastSetting
import Mathlib.Data.List.Sort

/-!
# What a strict bridge refuses

A bridge that is set up strictly is refused if its rules mention a name that is no enum of the
schema.  `Mentioned` says, in terms of the steps, which names the rules mention in the end: those
for which some step gives a function or a value table, and those for which a step gives a naming
style behind which the styles were not all set anew.

The main statement is `ofSettingsStrict_reports`.  What is refused is reported name by name, each
name once and in the order of their bytes (`NameProblem.Reports`).  There is only one such list
(`Reports.unique`), so the names alone decide.
-/

set_option autoImplicit false

namespace EnumBridge

/-! ## Names that steps mention -/

namespace Setting

/-- A step gives an enum a function or a value table. -/
def GivesRule (setting : Setting) (enumName : String) : Prop :=
  (∃ direction, (setting.function? enumName direction).isSome = true) ∨
    (setting.table? enumName).isSome = true

/-- A step gives an enum a naming style of its own. -/
def GivesStyle (setting : Setting) (enumName : String) : Prop :=
  ∃ direction, (setting.single? enumName direction).isSome = true

end Setting

/-- Some steps leave an enum mentioned: one of them gives it a function or a value table, or one of
those since all styles were last set gives it a style of its own. -/
def Mentioned (settings : List Setting) (enumName : String) : Prop :=
  (∃ setting ∈ settings, setting.GivesRule enumName) ∨
    ∃ setting ∈ sinceStyles settings, setting.GivesStyle enumName

/-- The names that are left mentioned do not depend on the order of the steps, as long as the steps
since all styles were last set are the same. -/
theorem mentioned_iff_of_perm {settings others : List Setting} (hperm : settings.Perm others)
    (hstyles : (sinceStyles settings).Perm (sinceStyles others)) (enumName : String) :
    Mentioned settings enumName ↔ Mentioned others enumName := by
  simp only [Mentioned, hperm.mem_iff, hstyles.mem_iff]

/-- Without its duplicates a list has no duplicates. -/
theorem List.nodup_eraseDups {α : Type} [BEq α] [LawfulBEq α] (items : List α) :
    items.eraseDups.Nodup := by
  generalize hlength : items.length = length
  induction length using Nat.strongRecOn generalizing items with
  | ind length ih =>
    cases items with
    | nil => exact List.nodup_nil
    | cons item rest =>
      have hshorter := List.length_filter_le (fun other => !other == item) rest
      rw [List.length_cons] at hlength
      rw [List.eraseDups_cons, List.nodup_cons]
      refine ⟨fun hitem => ?_, ih _ (by omega) _ rfl⟩
      simpa using (List.mem_filter.mp (List.mem_eraseDups.mp hitem)).2

namespace Rulebook

/-- The names in a rulebook are those with a function, with a value table or with a style of their
own. -/
theorem mem_enumNames_iff {rules : Rulebook} {enumName : String} :
    enumName ∈ rules.enumNames ↔
      (∃ direction, ((rules.functions direction).lookup enumName).isSome = true) ∨
        (rules.valueTables.lookup enumName).isSome = true ∨
        ∃ direction, ((rules.styles.single direction).lookup enumName).isSome = true := by
  simp only [enumNames, StyleSheet.enumNames, List.mem_append, Table.mem_names_iff]
  constructor
  · rintro (((h | h) | h) | h | h)
    · exact Or.inl ⟨.toClient, h⟩
    · exact Or.inl ⟨.toServer, h⟩
    · exact Or.inr (Or.inl h)
    · exact Or.inr (Or.inr ⟨.toClient, h⟩)
    · exact Or.inr (Or.inr ⟨.toServer, h⟩)
  · rintro (⟨direction, h⟩ | h | ⟨direction, h⟩)
    · cases direction with
      | toServer => exact Or.inl (Or.inl (Or.inr h))
      | toClient => exact Or.inl (Or.inl (Or.inl h))
    · exact Or.inl (Or.inr h)
    · cases direction with
      | toServer => exact Or.inr (Or.inr h)
      | toClient => exact Or.inr (Or.inl h)

/-- The rules that some steps set up mention the names that the steps leave mentioned. -/
theorem mem_enumNames_ofSettings {settings : List Setting} {enumName : String} :
    enumName ∈ (ofSettings settings).enumNames ↔ Mentioned settings enumName := by
  rw [mem_enumNames_iff]
  simp only [lookup_functions_ofSettings, lookup_valueTables_ofSettings,
    lookup_single_ofSettings, isSome_lastGiven]
  unfold Mentioned Setting.GivesRule Setting.GivesStyle
  constructor
  · rintro (⟨direction, setting, hmem, h⟩ | ⟨setting, hmem, h⟩ | ⟨direction, setting, hmem, h⟩)
    · exact Or.inl ⟨setting, hmem, Or.inl ⟨direction, h⟩⟩
    · exact Or.inl ⟨setting, hmem, Or.inr h⟩
    · exact Or.inr ⟨setting, hmem, direction, h⟩
  · rintro (⟨setting, hmem, ⟨direction, h⟩ | h⟩ | ⟨setting, hmem, direction, h⟩)
    · exact Or.inl ⟨direction, setting, hmem, h⟩
    · exact Or.inr (Or.inl ⟨setting, hmem, h⟩)
    · exact Or.inr (Or.inr ⟨direction, setting, hmem, h⟩)

/-- Putting the names in order leaves none out and adds none. -/
theorem mem_mentioned_iff {rules : Rulebook} {enumName : String} :
    enumName ∈ rules.mentioned ↔ enumName ∈ rules.enumNames := by
  rw [mentioned, List.mem_mergeSort, List.mem_eraseDups]

/-- The names are put in ascending order, each once. -/
theorem pairwise_mentioned (rules : Rulebook) : rules.mentioned.Pairwise (· < ·) := by
  have hsorted : rules.mentioned.Pairwise (· ≤ ·) := List.pairwise_mergeSort' (· ≤ ·) _
  have hnodup : rules.mentioned.Nodup :=
    (List.mergeSort_perm _ _).nodup_iff.mpr (List.nodup_eraseDups _)
  exact (hsorted.and hnodup).imp fun h => lt_of_le_of_ne h.1 h.2

end Rulebook

/-! ## Problems -/

namespace NameProblem

/-- The name that is no enum of the schema. -/
def name : NameProblem → String
  | .notAnEnum name _ => name
  | .undefined name => name

/-- What a problem says of its name is so: the schema has a type of that name and kind, which is no
enum, or it has no type of that name. -/
def Holds (schema : Schema) : NameProblem → Prop
  | .notAnEnum name kind => ∃ type, schema.find? name = some type ∧ type.kind = kind ∧ kind ≠ .enum
  | .undefined name => schema.find? name = none

/-- A list of problems reports those of some names that are no enums of the schema, each once, in
the order of their bytes. -/
structure Reports (schema : Schema) (mentioned : String → Prop) (problems : List NameProblem) :
    Prop where
  ascending : (problems.map name).Pairwise fun a b => Text.bytes a < Text.bytes b
  names : ∀ enumName, enumName ∈ problems.map name ↔ mentioned enumName ∧ ¬ schema.IsEnum enumName
  holds : ∀ problem ∈ problems, problem.Holds schema

/-- A name has that problem that names it and that holds. -/
theorem problem?_eq_some_iff {schema : Schema} {enumName : String} {problem : NameProblem} :
    Rulebook.problem? schema enumName = some problem ↔
      problem.name = enumName ∧ problem.Holds schema := by
  unfold Rulebook.problem?
  constructor
  · intro h
    cases hfind : schema.find? enumName with
    | none =>
      rw [hfind] at h
      cases h
      exact ⟨rfl, hfind⟩
    | some type =>
      simp only [hfind] at h
      split at h <;> cases h
      next hkind => exact ⟨rfl, type, hfind, rfl, hkind⟩
  · rintro ⟨rfl, h⟩
    cases problem with
    | notAnEnum enumName kind =>
      obtain ⟨type, hfind, rfl, hkind⟩ := h
      simp only [name, hfind, if_neg hkind]
    | undefined enumName =>
      have hnone : schema.find? enumName = none := h
      simp only [name, hnone]

/-- A name has a problem if it is no enum of the schema. -/
theorem exists_holds_iff {schema : Schema} {enumName : String} :
    (∃ problem : NameProblem, problem.name = enumName ∧ problem.Holds schema) ↔
      ¬ schema.IsEnum enumName := by
  constructor
  · rintro ⟨problem, rfl, h⟩ ⟨type, hfind, hkind⟩
    cases problem with
    | notAnEnum enumName kind =>
      obtain ⟨other, hother, hsame, hne⟩ := h
      rw [name, hother, Option.some.injEq] at hfind
      rw [← hsame, hfind] at hne
      exact hne hkind
    | undefined enumName =>
      have hnone : schema.find? enumName = none := h
      rw [name, hnone] at hfind
      cases hfind
  · intro hnot
    cases hfind : schema.find? enumName with
    | none => exact ⟨.undefined enumName, rfl, hfind⟩
    | some type =>
      exact ⟨.notAnEnum enumName type.kind, rfl, type, hfind, rfl, fun hkind =>
        hnot ⟨type, hfind, hkind⟩⟩

/-- Problems that hold can be found again by their names. -/
theorem filterMap_names {schema : Schema} {problems : List NameProblem}
    (h : ∀ problem ∈ problems, problem.Holds schema) :
    (problems.map name).filterMap (Rulebook.problem? schema) = problems := by
  induction problems with
  | nil => rfl
  | cons problem rest ih =>
    obtain ⟨hproblem, hrest⟩ := List.forall_mem_cons.mp h
    have hfound : Rulebook.problem? schema problem.name = some problem :=
      problem?_eq_some_iff.mpr ⟨rfl, hproblem⟩
    rw [List.map_cons, List.filterMap_cons_some hfound, ih hrest]

/-- **One list only.**  The names decide what is reported. -/
theorem Reports.unique {schema : Schema} {mentioned : String → Prop}
    {problems others : List NameProblem} (h : Reports schema mentioned problems)
    (hother : Reports schema mentioned others) : problems = others := by
  have hascending : (problems.map name).Pairwise (· < ·) :=
    h.ascending.imp Text.bytes_lt_bytes_iff.mp
  have hnames : problems.map name = others.map name :=
    hascending.eq_of_mem_iff (hother.ascending.imp Text.bytes_lt_bytes_iff.mp)
      fun enumName => (h.names enumName).trans (hother.names enumName).symm
  rw [← filterMap_names h.holds, hnames, filterMap_names hother.holds]

/-- The report is the same for any other description of the same names. -/
theorem Reports.congr {schema : Schema} {mentioned others : String → Prop}
    {problems : List NameProblem} (h : Reports schema mentioned problems)
    (hsame : ∀ enumName, mentioned enumName ↔ others enumName) :
    Reports schema others problems where
  ascending := h.ascending
  names enumName := by rw [h.names, hsame]
  holds := h.holds

/-- Nothing is reported if all names are enums of the schema. -/
theorem Reports.eq_nil_iff {schema : Schema} {mentioned : String → Prop}
    {problems : List NameProblem} (h : Reports schema mentioned problems) :
    problems = [] ↔ ∀ enumName, mentioned enumName → schema.IsEnum enumName := by
  rw [← List.map_eq_nil_iff (f := name), List.eq_nil_iff_forall_not_mem]
  simp only [h.names, not_and, not_not]

/-- The problems of a rulebook are reported in this way. -/
theorem reports_problems (rules : Rulebook) (schema : Schema) :
    Reports schema (· ∈ rules.enumNames) (rules.problems schema) where
  ascending := by
    rw [List.pairwise_map, Rulebook.problems, List.pairwise_filterMap]
    refine rules.pairwise_mentioned.imp fun {first second} hlt problem hproblem other hother => ?_
    rw [(problem?_eq_some_iff.mp hproblem).1, (problem?_eq_some_iff.mp hother).1]
    exact Text.bytes_lt_bytes_iff.mpr hlt
  names enumName := by
    simp only [Rulebook.problems, List.mem_map, List.mem_filterMap, Rulebook.mem_mentioned_iff,
      problem?_eq_some_iff, ← exists_holds_iff]
    constructor
    · rintro ⟨problem, ⟨other, hmem, rfl, hholds⟩, rfl⟩
      exact ⟨hmem, problem, rfl, hholds⟩
    · rintro ⟨hmem, problem, rfl, hholds⟩
      exact ⟨problem, ⟨_, hmem, rfl, hholds⟩, rfl⟩
  holds problem hproblem := by
    obtain ⟨enumName, -, hfound⟩ := List.mem_filterMap.mp hproblem
    exact (problem?_eq_some_iff.mp hfound).2

end NameProblem

/-! ## Strict bridges -/

namespace Bridge

variable {schema : Schema} {settings : List Setting}

/-- The problems of the rules that some steps set up report the names that the steps leave
mentioned. -/
theorem reports_ofSettings (schema : Schema) (settings : List Setting) :
    NameProblem.Reports schema (Mentioned settings)
      ((Rulebook.ofSettings settings).problems schema) :=
  (NameProblem.reports_problems (Rulebook.ofSettings settings) schema).congr fun _ =>
    Rulebook.mem_enumNames_ofSettings

/-- A strict bridge is the bridge that is had otherwise, unless there are problems to report. -/
theorem ofSettingsStrict_eq :
    ofSettingsStrict schema settings =
      if ((Rulebook.ofSettings settings).problems schema).isEmpty then
        .ok (ofSettings schema settings)
      else .error ((Rulebook.ofSettings settings).problems schema) := rfl

/-- A strict bridge is had if every name that is left mentioned is an enum of the schema. -/
theorem ofSettingsStrict_eq_ok_iff {bridge : Bridge} :
    ofSettingsStrict schema settings = .ok bridge ↔
      (∀ enumName, Mentioned settings enumName → schema.IsEnum enumName) ∧
        bridge = ofSettings schema settings := by
  rw [← (reports_ofSettings schema settings).eq_nil_iff, ← List.isEmpty_iff, ofSettingsStrict_eq]
  split
  · next hnone => simp [hnone, eq_comm]
  · next hsome => simp [hsome]

/-- A strict bridge is refused with the report of the names that are no enums, if there are any. -/
theorem ofSettingsStrict_eq_error_iff {problems : List NameProblem} :
    ofSettingsStrict schema settings = .error problems ↔
      (∃ enumName, Mentioned settings enumName ∧ ¬ schema.IsEnum enumName) ∧
        NameProblem.Reports schema (Mentioned settings) problems := by
  have hreports := reports_ofSettings schema settings
  have hsome : (∃ enumName, Mentioned settings enumName ∧ ¬ schema.IsEnum enumName) ↔
      ¬ ((Rulebook.ofSettings settings).problems schema).isEmpty = true := by
    rw [List.isEmpty_iff, hreports.eq_nil_iff]
    simp only [not_forall, exists_prop]
  have honly : NameProblem.Reports schema (Mentioned settings) problems ↔
      (Rulebook.ofSettings settings).problems schema = problems :=
    ⟨hreports.unique, fun heq => heq ▸ hreports⟩
  rw [hsome, honly, ofSettingsStrict_eq]
  split
  · next hnone => simp [hnone]
  · next hsome => simp [hsome]

end Bridge

/-- **A strict bridge reports the names that are no enums.**  Let some steps leave some names
mentioned.  A strict bridge is had from the steps exactly if all of these are enums of the schema,
and it is the bridge that is had otherwise.  Failing that, one problem is reported for each name
that is no enum, in the order of the bytes of the names, which says what the schema has under that
name.  So the names alone decide what is reported, and steps may be taken in another order as long
as the steps since all styles were last set are the same. -/
theorem ofSettingsStrict_reports (schema : Schema) (settings : List Setting) :
    (∀ bridge, Bridge.ofSettingsStrict schema settings = .ok bridge ↔
      (∀ enumName, Mentioned settings enumName → schema.IsEnum enumName) ∧
        bridge = Bridge.ofSettings schema settings) ∧
    (∀ problems, Bridge.ofSettingsStrict schema settings = .error problems ↔
      (∃ enumName, Mentioned settings enumName ∧ ¬ schema.IsEnum enumName) ∧
        NameProblem.Reports schema (Mentioned settings) problems) ∧
    ∀ others : List Setting,
      ((∀ enumName, Mentioned settings enumName ↔ Mentioned others enumName) ∨
        settings.Perm others ∧ (sinceStyles settings).Perm (sinceStyles others)) →
      ∀ problems, Bridge.ofSettingsStrict schema settings = .error problems ↔
        Bridge.ofSettingsStrict schema others = .error problems := by
  refine ⟨fun bridge => Bridge.ofSettingsStrict_eq_ok_iff,
    fun problems => Bridge.ofSettingsStrict_eq_error_iff, fun others h problems => ?_⟩
  have hsame (enumName : String) : Mentioned settings enumName ↔ Mentioned others enumName := by
    rcases h with hsame | ⟨hperm, hstyles⟩
    · exact hsame enumName
    · exact mentioned_iff_of_perm hperm hstyles enumName
  rw [Bridge.ofSettingsStrict_eq_error_iff, Bridge.ofSettingsStrict_eq_error_iff]
  simp only [hsame]
  refine and_congr_right fun _ => ⟨fun hreports => hreports.congr hsame, fun hreports => ?_⟩
  exact hreports.congr fun enumName => (hsame enumName).symm

/-- The style of `Colour` in `mixedSettings` is no longer in force, so `Colour` is not mentioned. -/
example :
    Bridge.ofSettingsStrict ⟨⟨none, none, none⟩, [("Size", ⟨"Size", .scalar⟩)]⟩ mixedSettings =
      .error [.undefined "Shape", .notAnEnum "Size" .scalar] := by
  cbv

end EnumBridge
