import ConnectorProfiles.Event.Basic

/-!
# Values with the events of their making

A logged value carries the events reported while it was computed, in order. Steps in sequence
append their events, so a later failure keeps what was reported before it.
-/

namespace ConnectorProfiles

/-- A value and the events reported while it was computed. -/
structure Logged (α : Type) where
  value : α
  events : List Event
  deriving DecidableEq

namespace Logged

variable {α β : Type}

instance : Monad Logged where
  pure value := ⟨value, []⟩
  bind step next := ⟨(next step.value).value, step.events ++ (next step.value).events⟩

/-- Reports one event. -/
def report (event : Event) : Logged Unit := ⟨(), [event]⟩

/-- A bare value is what it is. -/
@[simp] theorem value_pure (a : α) : (pure a : Logged α).value = a := rfl

/-- A bare value comes without events. -/
@[simp] theorem events_pure (a : α) : (pure a : Logged α).events = [] := rfl

/-- The value of two steps is that of the second. -/
@[simp] theorem value_bind (x : Logged α) (f : α → Logged β) :
    (x >>= f).value = (f x.value).value := rfl

/-- The events of two steps follow one another. -/
@[simp] theorem events_bind (x : Logged α) (f : α → Logged β) :
    (x >>= f).events = x.events ++ (f x.value).events := rfl

/-- A report is its one event. -/
@[simp] theorem events_report (event : Event) : (report event).events = [event] := rfl

/-- A function applied to the value changes the value. -/
@[simp] theorem value_map (f : α → β) (x : Logged α) : (f <$> x).value = f x.value := rfl

/-- A function applied to the value adds no events. -/
@[simp] theorem events_map (f : α → β) (x : Logged α) : (f <$> x).events = x.events :=
  List.append_nil _

/-- What was computed is its value and its events. -/
@[ext] theorem ext {x y : Logged α} (hvalue : x.value = y.value) (hevents : x.events = y.events) :
    x = y := by
  cases x
  cases y
  subst hvalue hevents
  rfl

instance : LawfulMonad Logged := LawfulMonad.mk' Logged
  (fun x ↦ by ext <;> simp)
  (fun a f ↦ by ext <;> simp)
  (fun x f g ↦ by ext <;> simp)

/-- Steps carried out in order give the value of the last, each starting from the value before. -/
@[simp] theorem value_foldlM (step : α → β → Logged α) (start : α) (items : List β) :
    (items.foldlM step start).value =
      items.foldl (fun current item ↦ (step current item).value) start := by
  induction items generalizing start with
  | nil => rfl
  | cons item rest ih => rw [List.foldlM_cons, value_bind, ih, List.foldl_cons]

end Logged

end ConnectorProfiles
