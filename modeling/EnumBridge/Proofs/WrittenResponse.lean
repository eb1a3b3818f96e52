import EnumBridge.Relay.Response
import EnumBridge.Proofs.JsonPath
import Mathlib.Data.List.Nodup

/-!
# Responses written as JSON and read again

A record as JSON is an object that leaves out the parts which are not there: those without a value
(`Members.present`) and lists that hold nothing (`Json.unlessEmpty`).  Under the name of each part a
reader finds the part or nothing (`Members.lookup_present`), and from nothing it makes what had been
left out.

The main statement is `response_reads_back`: every response that is written can be read, and it is
the same response unless its data is null, for null is read as absent data.  Responses with null
data are also the only ones that no reader gives (`Response.exists_ofJson?_eq_some_iff`).
-/

set_option autoImplicit false

namespace EnumBridge

/-! ## Parts that are left out -/

namespace Members

/-- The members of a record: those of its parts that have a value. -/
def present (parts : List (String × Option Json)) : Members :=
  parts.filterMap fun part => part.2.map (part.1, ·)

variable {parts : List (String × Option Json)}

/-- A part that is written is one that is there. -/
theorem mem_present {name : String} {value : Json} :
    (name, value) ∈ present parts ↔ (name, some value) ∈ parts := by
  simp [present]

/-- Parts with different names are members with different names. -/
theorem nodup_present (h : (parts.map Prod.fst).Nodup) :
    ((present parts).map Prod.fst).Nodup := by
  induction parts with
  | nil => exact h
  | cons part rest ih =>
    obtain ⟨name, value⟩ := part
    rw [List.map_cons, List.nodup_cons] at h
    cases value with
    | none => exact ih h.2
    | some value =>
      refine List.nodup_cons.mpr ⟨fun hname => h.1 ?_, ih h.2⟩
      obtain ⟨⟨_, other⟩, hother, rfl⟩ := List.mem_map.mp hname
      exact List.mem_map.mpr ⟨_, mem_present.mp hother, rfl⟩

/-- Under the name of a part stands its value, and nothing if it has none. -/
theorem lookup_present (h : (parts.map Prod.fst).Nodup) {name : String} {held : Option Json}
    (hmem : (name, held) ∈ parts) : (present parts).lookup name = held := by
  refine Option.ext fun value => ?_
  rw [Table.lookup_eq_some_iff (nodup_present h), mem_present]
  constructor
  · intro hvalue
    exact congrArg Prod.snd (List.inj_on_of_nodup_map h hmem hvalue rfl)
  · rintro rfl
    exact hmem

end Members

namespace Json

/-- A list as JSON, left out if it holds nothing. -/
def unlessEmpty {α : Type} (write : List α → Json) (items : List α) : Option Json :=
  if items.isEmpty then none else some (write items)

/-- Extensions that were left out are read as no extensions. -/
theorem object?_unlessEmpty (members : Members) :
    ((unlessEmpty .object members).map object?).getD (some []) = some members := by
  cases members <;> rfl

end Json

/-! ## Errors -/

namespace ResponseError

/-- The parts of an error by their names in JSON. -/
def parts (error : ResponseError) : List (String × Option Json) :=
  [("extensions", Json.unlessEmpty .object error.extensions),
    ("message", some (.string error.message)),
    ("path", error.path.map .array)]

/-- An error is written as an object of those parts that it has. -/
theorem toJson_eq (error : ResponseError) :
    error.toJson = .object (Members.present error.parts) := by
  unfold toJson parts Json.unlessEmpty
  cases error.path <;> split <;> rfl

/-- An error that is written and read again is the same error. -/
theorem ofJson?_toJson (error : ResponseError) : ofJson? error.toJson = some error := by
  have hnames : (error.parts.map Prod.fst).Nodup :=
    show ["extensions", "message", "path"].Nodup by decide
  have hextensions := Members.lookup_present hnames
    (show ("extensions", Json.unlessEmpty .object error.extensions) ∈ error.parts by simp [parts])
  have hmessage := Members.lookup_present hnames
    (show ("message", some (Json.string error.message)) ∈ error.parts by simp [parts])
  have hpath := Members.lookup_present hnames
    (show ("path", error.path.map Json.array) ∈ error.parts by simp [parts])
  rw [toJson_eq, ofJson?, hmessage, hpath, hextensions, ofParts?, Json.object?_unlessEmpty]
  obtain ⟨message, path, extensions⟩ := error
  cases path <;> rfl

end ResponseError

/-! ## Responses -/

namespace Response

/-- The parts of a response by their names in JSON. -/
def parts (response : Response) : List (String × Option Json) :=
  [("data", response.data),
    ("errors", Json.unlessEmpty (.array ∘ List.map ResponseError.toJson) response.errors),
    ("extensions", Json.unlessEmpty .object response.extensions)]

/-- A response is written as an object of those parts that it has. -/
theorem toJson_eq (response : Response) :
    response.toJson = .object (Members.present response.parts) := by
  obtain ⟨data, errors, extensions⟩ := response
  cases data <;> cases errors <;> cases extensions <;> rfl

/-- The data that is read under its name, where null is absent. -/
def dataOf : Option Json → Option Json
  | some .null => none
  | data => data

/-- Data that is read is not null. -/
theorem dataOf_ne_null (data : Option Json) : dataOf data ≠ some .null := by
  unfold dataOf
  split
  · exact (Option.some_ne_none _).symm
  · next hdata => exact hdata

/-- Data is read as it is, unless it is null. -/
theorem dataOf_eq_self_iff {data : Option Json} : dataOf data = data ↔ data ≠ some .null := by
  refine ⟨fun h => h ▸ dataOf_ne_null data, fun h => ?_⟩
  unfold dataOf
  split
  · exact absurd rfl h
  · rfl

/-- The errors that are read under their name. -/
def errorsOf? : Option Json → Option (List ResponseError)
  | none => some []
  | some (.array errors) => errors.mapM ResponseError.ofJson?
  | some _ => none

/-- Errors that are written and read again are the same errors, and errors that were left out are
read as no errors. -/
theorem errorsOf?_unlessEmpty (errors : List ResponseError) :
    errorsOf? (Json.unlessEmpty (.array ∘ List.map ResponseError.toJson) errors) = some errors := by
  have hpure : ResponseError.ofJson? ∘ ResponseError.toJson = fun error => pure error :=
    funext ResponseError.ofJson?_toJson
  have hmapM : (errors.map ResponseError.toJson).mapM ResponseError.ofJson? = some errors := by
    rw [List.mapM_map, hpure, List.mapM_pure, List.map_id']
    rfl
  cases errors with
  | nil => rfl
  | cons error rest => exact hmapM

/-- A response is read part by part. -/
theorem ofParts?_eq (data errors extensions : Option Json) :
    ofParts? data errors extensions =
      (errorsOf? errors).bind fun errors =>
        ((extensions.map Json.object?).getD (some [])).bind fun extensions =>
          some ⟨dataOf data, errors, extensions⟩ := by
  cases errors with
  | none => rfl
  | some errors => cases errors <;> rfl

/-- A response that is written and read again is the same response, but null data is absent. -/
theorem ofJson?_toJson (response : Response) :
    ofJson? response.toJson = some { response with data := dataOf response.data } := by
  have hnames : (response.parts.map Prod.fst).Nodup :=
    show ["data", "errors", "extensions"].Nodup by decide
  have hdata := Members.lookup_present hnames
    (show ("data", response.data) ∈ response.parts by simp [parts])
  have herrors := Members.lookup_present hnames
    (show ("errors", Json.unlessEmpty (.array ∘ List.map ResponseError.toJson) response.errors) ∈
      response.parts by simp [parts])
  have hextensions := Members.lookup_present hnames
    (show ("extensions", Json.unlessEmpty .object response.extensions) ∈ response.parts by
      simp [parts])
  rw [toJson_eq, ofJson?, hdata, herrors, hextensions, ofParts?_eq, errorsOf?_unlessEmpty,
    Json.object?_unlessEmpty]
  rfl

/-- A response that is read does not have null for its data. -/
theorem data_ne_null_of_ofParts? {data errors extensions : Option Json} {response : Response}
    (h : ofParts? data errors extensions = some response) : response.data ≠ some .null := by
  simp only [ofParts?_eq, Option.bind_eq_some_iff] at h
  obtain ⟨_, -, _, -, ⟨⟩⟩ := h
  exact dataOf_ne_null data

/-- Responses with null data are the only ones that cannot be read from any value. -/
theorem exists_ofJson?_eq_some_iff {response : Response} :
    (∃ value, ofJson? value = some response) ↔ response.data ≠ some .null := by
  constructor
  · rintro ⟨value, h⟩
    unfold ofJson? at h
    split at h
    · exact data_ne_null_of_ofParts? h
    · exact data_ne_null_of_ofParts? (Option.ite_none_right_eq_some.mp h).2
    · cases h
  · intro h
    exact ⟨response.toJson, by rw [ofJson?_toJson, dataOf_eq_self_iff.mpr h]⟩

end Response

/-- **What is written can be read.**  Every response can be read from the JSON that it is written
as.  The response that is read is the same, unless its data is null: then it has no data, and
everything else is the same. -/
theorem response_reads_back (response : Response) :
    ∃ read, Response.ofJson? response.toJson = some read ∧
      (read = response ↔ response.data ≠ some .null) ∧
        (response.data = some .null → read = { response with data := none }) := by
  refine ⟨_, response.ofJson?_toJson, ?_, fun h => by rw [h]; rfl⟩
  rw [← Response.dataOf_eq_self_iff]
  exact ⟨fun h => congrArg Response.data h, fun h => by rw [h]⟩

/-- A response with null data, and with an error in it that has all its parts. -/
def nullResponse : Response where
  data := some .null
  errors :=
    [⟨"boom", some [.string "fruit", .number (.integer 0)], [("code", .string "INTERNAL")]⟩,
      .ofMessage "warning"]
  extensions := [("cost", .number (.integer 3))]

/-- A response with null data is read without data, and with its errors and extensions as they
were. -/
theorem response_reads_back_null :
    nullResponse.data = some .null ∧
      Response.ofJson? nullResponse.toJson = some { nullResponse with data := none } := by
  obtain ⟨read, hread, -, hnull⟩ := response_reads_back nullResponse
  have hdata : nullResponse.data = some .null := rfl
  exact ⟨hdata, hnull hdata ▸ hread⟩

end EnumBridge
