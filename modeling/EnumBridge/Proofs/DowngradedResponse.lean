import EnumBridge.Proofs.FailingValue
import EnumBridge.Proofs.QuietWalk

/-!
# A response whose data cannot be parsed

A bridge always hands on a response.  If the data cannot be parsed, it goes on without data and with
one more error, which tells a client why by what stands in its extensions: a code, and where the
rule of an enum failed the name of that enum.  The name is always known: a failure that names no
enum is given that of the value at which the rule failed (`ValueError.enumName?_inEnumNamed`).

The main statement is `parseResponse_downgrades`.  Which of the two reasons there was for a failure
is told by the values that are met and by the fragments of the operation
(`Bridge.parseData_eq_error_iff`).
-/

set_option autoImplicit false

namespace EnumBridge

/-! ## Errors that tell why -/

/-- Behind a failed rule an enum is known: the one that the failure names, or else the one whose
value it was. -/
theorem ValueError.enumName?_inEnumNamed (enumName : String) (source : ValueError) :
    (source.inEnumNamed enumName).enumName? = some (source.enumName?.getD enumName) := by
  cases source <;> rfl

namespace ResponseError

/-- The error made of a failure holds the code of that failure among its extensions. -/
theorem lookup_code_ofBridgeError (error : BridgeError) :
    (ofBridgeError error).extensions.lookup "code" = some (.string error.code) := by
  unfold ofBridgeError
  cases error.enumName? with
  | none => rfl
  | some name =>
    have hne : "code" ≠ "enumName" := by decide
    simp only [withCode, Members.lookup_insert, if_neg hne, if_true]

/-- The code of a failure can be read off the error made of it. -/
theorem code?_ofBridgeError (error : BridgeError) :
    (ofBridgeError error).code? = some error.code := by
  rw [code?, lookup_code_ofBridgeError]
  rfl

/-- The error made of a failure names the enum that the failure names, and no other. -/
theorem lookup_enumName_ofBridgeError (error : BridgeError) :
    (ofBridgeError error).extensions.lookup "enumName" = error.enumName?.map .string := by
  unfold ofBridgeError
  cases error.enumName? with
  | none => rfl
  | some name => simp only [Members.lookup_insert, if_true, Option.map_some]

end ResponseError

/-! ## Warnings -/

/-- The notes of level `warn`. -/
def Noted.warnings {α : Type} (x : Noted α) : List Note :=
  x.events.filter fun note => note.level = .warn

/-- None of the notes of a quiet attempt is a warning. -/
theorem Attempt.Quiet.filter_events {ε α : Type} {x : Attempt ε α} (h : x.Quiet) :
    (x.run.events.filter fun note => note.level = .warn) = [] :=
  List.filter_eq_nil_iff.mpr fun note hnote => by simpa using h note hnote

namespace Bridge

variable {bridge : Bridge} {request : Request} {response : Response} {data : Json}

/-- A response without data is handed on as it is, without a warning. -/
theorem parseResponse_of_none (h : response.data = none) :
    (bridge.parseResponse request response).value = response ∧
      (bridge.parseResponse request response).warnings = [] := by
  unfold parseResponse
  rw [h]
  exact ⟨rfl, rfl⟩

/-- Data that is parsed takes the place of the data as it was, without a warning. -/
theorem parseResponse_of_ok {parsed : Json} (hdata : response.data = some data)
    (h : (bridge.parseData request.document request.operationName data).outcome = .ok parsed) :
    (bridge.parseResponse request response).value = { response with data := some parsed } ∧
      (bridge.parseResponse request response).warnings = [] := by
  have hquiet := quiet_parseData bridge request.document request.operationName data
  have hvalue : (bridge.parseData request.document request.operationName data).run.value =
    .ok parsed := h
  unfold parseResponse Noted.warnings
  simp only [hdata, Traced.value_bind, Traced.events_bind, hvalue, Traced.value_pure,
    Traced.events_pure, List.append_nil, true_and]
  exact hquiet.filter_events

/-- Data that cannot be parsed is dropped, with one more error and one warning. -/
theorem parseResponse_of_error {error : BridgeError} (hdata : response.data = some data)
    (h : (bridge.parseData request.document request.operationName data).outcome = .error error) :
    (bridge.parseResponse request response).value =
        { response with
          data := none
          errors := response.errors ++ [ResponseError.ofBridgeError error] } ∧
      (bridge.parseResponse request response).warnings.length = 1 := by
  have hquiet := quiet_parseData bridge request.document request.operationName data
  have hvalue : (bridge.parseData request.document request.operationName data).run.value =
    .error error := h
  unfold parseResponse Noted.warnings
  simp only [hdata, Traced.value_bind, Traced.events_bind, hvalue, Traced.value_pure,
    Traced.events_pure, List.append_nil, true_and]
  rw [List.filter_append, hquiet.filter_events]
  rfl

/-! ## Why data could not be parsed -/

/-- An error of a response tells why its data could not be parsed.  There is a value that is met and
at which the rule of its enum fails, or the fragments of the operation cannot be resolved.  The
first the error says by its code and by the enum: the one that the failure of the rule names, or
the one whose value it was if that names none.  The second it says by another code, and it names no
enum. -/
structure Explains (bridge : Bridge) (request : Request) (data : Json) (error : ResponseError) :
    Prop where
  reason :
    (∃ enumName value source,
      bridge.DataMeets request.document request.operationName data enumName value ∧
        (bridge.rules.rule enumName .toClient).apply value = .error source) ∨
      ∃ cause, bridge.FragmentsFail request.document request.operationName data cause
  rule : ∀ enumName value source,
    bridge.DataMeets request.document request.operationName data enumName value →
    (bridge.rules.rule enumName .toClient).apply value = .error source →
      error.code? = some "ENUM_CONVERSION_FAILED" ∧
        error.extensions.lookup "enumName" = some (.string (source.enumName?.getD enumName))
  fragments : ∀ cause,
    bridge.FragmentsFail request.document request.operationName data cause →
      error.code? = some "MALFORMED_DOCUMENT" ∧ error.extensions.lookup "enumName" = none

/-- The error made of a failure tells why there was one. -/
theorem explains_ofBridgeError {error : BridgeError}
    (h : (bridge.parseData request.document request.operationName data).outcome = .error error) :
    bridge.Explains request data (.ofBridgeError error) where
  reason := by
    rcases parseData_eq_error_iff.mp h with ⟨enumName, value, source, hmeets, hfails, -⟩ | hcause
    · exact Or.inl ⟨enumName, value, source, hmeets, hfails⟩
    · obtain ⟨cause, hcause, -⟩ := hcause
      exact Or.inr ⟨cause, hcause⟩
  rule enumName value source hmeets hfails := by
    have hthis := parseData_eq_error_iff.mpr (Or.inl ⟨enumName, value, source, hmeets, hfails, rfl⟩)
    rw [h] at hthis
    cases hthis
    rw [ResponseError.code?_ofBridgeError, ResponseError.lookup_enumName_ofBridgeError]
    exact ⟨rfl, congrArg (Option.map Json.string) (source.enumName?_inEnumNamed enumName)⟩
  fragments cause hcause := by
    have hthis := parseData_eq_error_iff.mpr (Or.inr ⟨cause, hcause, rfl⟩)
    rw [h] at hthis
    cases hthis
    rw [ResponseError.code?_ofBridgeError, ResponseError.lookup_enumName_ofBridgeError]
    exact ⟨rfl, rfl⟩

end Bridge

/-- **A response always goes on.**  Its extensions stay, and so do its errors, in front of any other.
Without data, or with data that is parsed, no error is added and nothing is warned of.  Data that
cannot be parsed is dropped; one error is added, which tells why, and one warning is given. -/
theorem parseResponse_downgrades (bridge : Bridge) (request : Request) (response : Response) :
    let result := (bridge.parseResponse request response).value
    let warnings := (bridge.parseResponse request response).warnings
    result.extensions = response.extensions ∧ response.errors <+: result.errors ∧
      match response.data with
      | none => result = response ∧ warnings = []
      | some data =>
        match (bridge.parseData request.document request.operationName data).outcome with
        | .ok parsed => result = { response with data := some parsed } ∧ warnings = []
        | .error _ =>
          result.data = none ∧ warnings.length = 1 ∧
            ∃ added, result.errors = response.errors ++ [added] ∧
              bridge.Explains request data added := by
  intro result warnings
  cases hdata : response.data with
  | none =>
    obtain ⟨hresult, hwarnings⟩ : result = response ∧ warnings = [] :=
      Bridge.parseResponse_of_none hdata
    exact ⟨by rw [hresult], by simp [hresult], hresult, hwarnings⟩
  | some data =>
    simp only
    cases hparse : (bridge.parseData request.document request.operationName data).outcome with
    | ok parsed =>
      obtain ⟨hresult, hwarnings⟩ :
          result = { response with data := some parsed } ∧ warnings = [] :=
        Bridge.parseResponse_of_ok hdata hparse
      exact ⟨by rw [hresult], by simp [hresult], hresult, hwarnings⟩
    | error error =>
      obtain ⟨hresult, hwarnings⟩ : result = _ ∧ warnings.length = 1 :=
        Bridge.parseResponse_of_error hdata hparse
      have herrors : result.errors = response.errors ++ [.ofBridgeError error] := by rw [hresult]
      refine ⟨by rw [hresult], ⟨_, herrors.symm⟩, by rw [hresult], hwarnings, ?_⟩
      exact ⟨_, herrors, Bridge.explains_ofBridgeError hparse⟩

/-- Where a function gives a bare message, the error that is added names the enum all the same. -/
example :
    let paint : Setting := .function .toClient "Colour" fun _ => .error (.message "no paint")
    let bridge : Bridge := .ofSettings petSchema [paint]
    let request : Request := ⟨⟨[.operation petOperation]⟩, none, [], []⟩
    let result := (bridge.parseResponse request (.ofData (.object petData))).value
    result.data.isNone ∧
      result.errors.map (fun error =>
        (error.code?, (error.extensions.lookup "enumName").bind Json.string?)) =
          [(some "ENUM_CONVERSION_FAILED", some "Colour")] := by
  decide

end EnumBridge
