/-!
# Values that come with the events met on the way

`Traced ω α` is a value of type `α` together with the list of events of type `ω`
that producing it gave rise to, oldest first.  It is a monad: running one traced
computation after another puts their events one behind the other
(`Traced.events_bind`), and the value of the whole depends on the values alone
(`Traced.value_bind`).  So a statement about values never has to look at events.
-/

set_option autoImplicit false

namespace EnumBridge

/-- A value with the events that producing it gave rise to, oldest first. -/
structure Traced (ω α : Type) where
  /-- The events, oldest first. -/
  events : List ω
  /-- The value that was produced. -/
  value : α

namespace Traced

variable {ω ω' α β : Type}

/-- A computation that reports one event and has no value of interest. -/
def report (event : ω) : Traced ω Unit := ⟨[event], ()⟩

/-- Renames every event, keeping the value. -/
def mapEvents (f : ω → ω') (x : Traced ω α) : Traced ω' α := ⟨x.events.map f, x.value⟩

instance : Monad (Traced ω) where
  pure a := ⟨[], a⟩
  bind x f := let y := f x.value; ⟨x.events ++ y.events, y.value⟩

/-- A computation without events has none. -/
@[simp] theorem events_pure (a : α) : (pure a : Traced ω α).events = [] := rfl

/-- The value of a computation without events. -/
@[simp] theorem value_pure (a : α) : (pure a : Traced ω α).value = a := rfl

/-- The events of a sequence are those of its first part and behind them those of its second. -/
@[simp] theorem events_bind (x : Traced ω α) (f : α → Traced ω β) :
    (x >>= f).events = x.events ++ (f x.value).events := rfl

/-- The value of a sequence depends on the values of its parts alone. -/
@[simp] theorem value_bind (x : Traced ω α) (f : α → Traced ω β) :
    (x >>= f).value = (f x.value).value := rfl

/-- A change of the value adds no events. -/
@[simp] theorem events_map (f : α → β) (x : Traced ω α) : (f <$> x).events = x.events := by
  show x.events ++ [] = x.events
  simp

/-- A change of the value is made to the value. -/
@[simp] theorem value_map (f : α → β) (x : Traced ω α) : (f <$> x).value = f x.value := rfl

/-- A report is one event. -/
@[simp] theorem events_report (event : ω) : (report event).events = [event] := rfl

/-- Renaming events renames each of them. -/
@[simp] theorem events_mapEvents (f : ω → ω') (x : Traced ω α) :
    (x.mapEvents f).events = x.events.map f := rfl

/-- Renaming events leaves the value as it is. -/
@[simp] theorem value_mapEvents (f : ω → ω') (x : Traced ω α) :
    (x.mapEvents f).value = x.value := rfl

instance : LawfulMonad (Traced ω) := LawfulMonad.mk' _
  (fun x => by
    show (⟨x.events ++ [], x.value⟩ : Traced ω _) = x
    simp)
  (fun a f => by
    show (⟨[] ++ (f a).events, (f a).value⟩ : Traced ω _) = f a
    simp)
  (fun x f g => by
    show (⟨(x.events ++ (f x.value).events) ++ (g (f x.value).value).events, _⟩ : Traced ω _) =
      ⟨x.events ++ ((f x.value).events ++ (g (f x.value).value).events), _⟩
    simp)

end Traced

end EnumBridge
