import EnumBridge.Traced

/-!
# Notes: what the library reports about its own work

A `Note` is one line of the log.  `Noted α` is a value with the notes met on the way,
and `Attempt ε α` is an outcome, success or error, with the notes met before it was
known.  `Attempt.outcome` forgets the notes; `Attempt.outcome_bind` says that the
outcome of a sequence is decided by outcomes alone, and `Attempt.notes_bind` that behind
an error nothing more is noted.
-/

set_option autoImplicit false

namespace EnumBridge

/-- How important a note is. -/
inductive Note.Level
  | trace
  | debug
  | warn
  deriving DecidableEq

/-- One line of the log. -/
structure Note where
  level : Note.Level
  text : String
  deriving DecidableEq

namespace Note

/-- The upper-case name of a level. -/
def Level.text : Level → String
  | .trace => "TRACE"
  | .debug => "DEBUG"
  | .warn => "WARN"

/-- The note as a line of text: its level, a space, and what it says. -/
def line (note : Note) : String := note.level.text ++ " " ++ note.text

end Note

/-- A value with the notes met on the way. -/
abbrev Noted (α : Type) := Traced Note α

/-- A success or an error, with the notes met before it was known. -/
abbrev Attempt (ε α : Type) := ExceptT ε (Traced Note) α

/-- Reports a note of level `debug`. -/
def Noted.debug (text : String) : Noted Unit := Traced.report ⟨.debug, text⟩

/-- Reports a note of level `warn`. -/
def Noted.warn (text : String) : Noted Unit := Traced.report ⟨.warn, text⟩

namespace Attempt

variable {ε ε' α β : Type}

/-- Reports some notes. -/
def report (notes : List Note) : Attempt ε Unit := ExceptT.lift ⟨notes, ()⟩

/-- Reports a note of level `debug`. -/
def debug (text : String) : Attempt ε Unit := ExceptT.lift (Noted.debug text)

/-- An attempt with a known outcome and no notes. -/
def ofExcept : Except ε α → Attempt ε α
  | .ok a => pure a
  | .error e => throw e

/-- The outcome without the notes. -/
def outcome (x : Attempt ε α) : Except ε α := x.run.value

/-- The notes without the outcome. -/
def notes (x : Attempt ε α) : List Note := x.run.events

/-- Changes the type of the error. -/
def mapError (f : ε → ε') (x : Attempt ε α) : Attempt ε' α :=
  ExceptT.mk ⟨x.run.events, x.run.value.mapError f⟩

/-- What is known from the start succeeds. -/
@[simp] theorem outcome_pure (a : α) : outcome (pure a : Attempt ε α) = .ok a := rfl

/-- What is thrown is the error. -/
@[simp] theorem outcome_throw (e : ε) : outcome (throw e : Attempt ε α) = .error e := rfl

/-- The outcome of a sequence is the sequence of the outcomes. -/
@[simp] theorem outcome_bind (x : Attempt ε α) (f : α → Attempt ε β) :
    outcome (x >>= f) = (outcome x).bind fun a => outcome (f a) := by
  show (ExceptT.bindCont f x.run.value).value = _
  unfold outcome
  cases x.run.value <;> rfl

/-- A sequence succeeds if both of its parts do. -/
theorem outcome_bind_eq_ok {x : Attempt ε α} {f : α → Attempt ε β} {b : β} :
    outcome (x >>= f) = .ok b ↔ ∃ a, outcome x = .ok a ∧ outcome (f a) = .ok b := by
  rw [outcome_bind]
  cases outcome x <;> simp [Except.bind]

/-- A sequence fails if its first part does, or its second part behind a success. -/
theorem outcome_bind_eq_error {x : Attempt ε α} {f : α → Attempt ε β} {e : ε} :
    outcome (x >>= f) = .error e ↔
      outcome x = .error e ∨ ∃ a, outcome x = .ok a ∧ outcome (f a) = .error e := by
  rw [outcome_bind]
  cases outcome x <;> simp [Except.bind]

/-- A change of the successes is made to the outcome. -/
@[simp] theorem outcome_map (f : α → β) (x : Attempt ε α) :
    outcome (f <$> x) = (outcome x).map f := by
  unfold outcome
  rw [ExceptT.run_map]
  rfl

/-- A changed success comes from a success. -/
theorem outcome_map_eq_ok {f : α → β} {x : Attempt ε α} {b : β} :
    outcome (f <$> x) = .ok b ↔ ∃ a, outcome x = .ok a ∧ f a = b := by
  rw [outcome_map]
  cases outcome x <;> simp [Except.map]

/-- A change of successes leaves errors as they are. -/
theorem outcome_map_eq_error {f : α → β} {x : Attempt ε α} {e : ε} :
    outcome (f <$> x) = .error e ↔ outcome x = .error e := by
  rw [outcome_map]
  cases outcome x <;> simp [Except.map]

/-- To report notes succeeds. -/
@[simp] theorem outcome_report (notes : List Note) :
    outcome (report notes : Attempt ε Unit) = .ok () := rfl

/-- To report a note of level `debug` succeeds. -/
@[simp] theorem outcome_debug (text : String) :
    outcome (debug text : Attempt ε Unit) = .ok () := rfl

/-- An attempt with a known outcome has that outcome. -/
@[simp] theorem outcome_ofExcept (x : Except ε α) : outcome (ofExcept x) = x := by
  cases x <;> rfl

/-- The outcome of a list of attempts is decided by their outcomes. -/
@[simp] theorem outcome_mapM (f : α → Attempt ε β) (items : List α) :
    outcome (items.mapM f) = items.mapM fun item => outcome (f item) := by
  induction items with
  | nil => rfl
  | cons item rest ih =>
    rw [List.mapM_cons, List.mapM_cons, outcome_bind]
    cases hitem : outcome (f item) with
    | error e => rfl
    | ok value =>
      simp only [Except.bind, outcome_bind, ih]
      cases rest.mapM fun item => outcome (f item) <;> rfl

/-- A change of the errors is made to the outcome. -/
@[simp] theorem outcome_mapError (f : ε → ε') (x : Attempt ε α) :
    outcome (mapError f x) = (outcome x).mapError f := rfl

/-- A success stays a success, whatever becomes of errors. -/
theorem outcome_mapError_eq_ok {f : ε → ε'} {x : Attempt ε α} {a : α} :
    outcome (mapError f x) = .ok a ↔ outcome x = .ok a := by
  rw [outcome_mapError]
  cases outcome x with
  | error e =>
    show Except.error (f e) = .ok a ↔ _
    simp
  | ok value =>
    show Except.ok value = .ok a ↔ _
    simp

/-- A changed error comes from an error. -/
theorem outcome_mapError_eq_error {f : ε → ε'} {x : Attempt ε α} {e' : ε'} :
    outcome (mapError f x) = .error e' ↔ ∃ e, outcome x = .error e ∧ f e = e' := by
  rw [outcome_mapError]
  cases outcome x with
  | error e =>
    show Except.error (f e) = .error e' ↔ _
    simp
  | ok value =>
    show Except.ok value = .error e' ↔ _
    simp

/-- The notes of a sequence: those of its first part, and behind a success those of the second. -/
theorem notes_bind (x : Attempt ε α) (f : α → Attempt ε β) :
    (x >>= f).notes = x.notes ++
      match x.outcome with
      | .ok a => (f a).notes
      | .error _ => [] := by
  show x.run.events ++ (ExceptT.bindCont f x.run.value).events = _
  unfold notes outcome
  cases x.run.value <;> rfl

/-- A change of the successes notes nothing. -/
@[simp] theorem notes_map (f : α → β) (x : Attempt ε α) : (f <$> x).notes = x.notes := by
  unfold notes
  rw [ExceptT.run_map, Traced.events_map]

end Attempt

end EnumBridge
