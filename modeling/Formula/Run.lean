import Formula.Event
import Formula.Trail

/-!
# Computations that leave events

A run has a value or fails; either way the events up to then stay.
-/

namespace Formula

/-- The events of a computation and its value or error. -/
structure Run (α : Type) where
  trail : Trail Event
  outcome : Except Error α

namespace Run

variable {α β γ : Type}

def events (run : Run α) : List Event :=
  run.trail.toList

@[ext] theorem ext {first second : Run α} (hevents : first.events = second.events)
    (houtcome : first.outcome = second.outcome) : first = second := by
  have htrail := Trail.ext hevents
  cases first
  cases second
  cases htrail
  cases houtcome
  rfl

def ofExcept (outcome : Except Error α) : Run α :=
  ⟨.empty, outcome⟩

def pure (value : α) : Run α :=
  ofExcept (.ok value)

def fail (error : Error) : Run α :=
  ofExcept (.error error)

/-- A value or an error after one event. -/
def after (event : Event) (outcome : Except Error α) : Run α :=
  ⟨.singleton event, outcome⟩

def emit (event : Event) : Run Unit :=
  after event (.ok ())

def bind (run : Run α) (next : α → Run β) : Run β :=
  match run.outcome with
  | .ok value =>
      let later := next value
      ⟨run.trail ++ later.trail, later.outcome⟩
  | .error error => ⟨run.trail, .error error⟩

def between (first last : Event) (run : Run α) : Run α :=
  ⟨.singleton first ++ run.trail ++ .singleton last, run.outcome⟩

instance : Monad Run where
  pure := Run.pure
  bind := Run.bind

@[simp] theorem events_after (event : Event) (outcome : Except Error α) :
    (after event outcome).events = [event] :=
  rfl

@[simp] theorem events_pure (value : α) : (Pure.pure value : Run α).events = [] :=
  rfl

@[simp] theorem outcome_pure (value : α) : (Pure.pure value : Run α).outcome = .ok value :=
  rfl

@[simp] theorem events_between (first last : Event) (run : Run α) :
    (run.between first last).events = first :: run.events ++ [last] := by
  simp [between, events]

theorem events_bind_of_ok {run : Run α} {value : α} (h : run.outcome = .ok value)
    (next : α → Run β) :
    (run >>= next).events = run.events ++ (next value).events := by
  show (Run.bind run next).events = _
  unfold Run.bind
  rw [h]
  exact Trail.toList_append _ _

theorem events_bind_of_error {run : Run α} {error : Error} (h : run.outcome = .error error)
    (next : α → Run β) :
    (run >>= next).events = run.events := by
  show (Run.bind run next).events = _
  unfold Run.bind
  rw [h]
  rfl

@[simp] theorem outcome_bind (run : Run α) (next : α → Run β) :
    (run >>= next).outcome = run.outcome >>= fun value => (next value).outcome := by
  show (Run.bind run next).outcome = _
  unfold Run.bind
  cases run.outcome <;> rfl

theorem outcome_bind_of_ok {run : Run α} {value : α} (h : run.outcome = .ok value)
    (next : α → Run β) :
    (run >>= next).outcome = (next value).outcome := by
  rw [outcome_bind, h]
  rfl

theorem outcome_bind_of_error {run : Run α} {error : Error} (h : run.outcome = .error error)
    (next : α → Run β) :
    (run >>= next).outcome = .error error := by
  rw [outcome_bind, h]
  rfl

instance : LawfulMonad Run :=
  LawfulMonad.mk' Run
    (by
      intro α run
      show run >>= Pure.pure = run
      cases h : run.outcome with
      | ok value =>
          ext1
          · rw [events_bind_of_ok h, events_pure, List.append_nil]
          · rw [outcome_bind_of_ok h, outcome_pure, h]
      | error error =>
          ext1
          · rw [events_bind_of_error h]
          · rw [outcome_bind_of_error h, h])
    (by
      intro α β value next
      ext1
      · rw [events_bind_of_ok rfl, events_pure, List.nil_append]
      · rw [outcome_bind_of_ok rfl])
    (by
      intro α β γ run next last
      cases h : run.outcome with
      | error error =>
          have hfirst := outcome_bind_of_error h next
          ext1
          · rw [events_bind_of_error hfirst, events_bind_of_error h, events_bind_of_error h]
          · rw [outcome_bind_of_error hfirst, outcome_bind_of_error h]
      | ok value =>
          have hfirst := outcome_bind_of_ok h next
          cases hnext : (next value).outcome with
          | error error =>
              rw [hnext] at hfirst
              ext1
              · rw [events_bind_of_error hfirst, events_bind_of_ok h, events_bind_of_ok h,
                  events_bind_of_error hnext]
              · rw [outcome_bind_of_error hfirst, outcome_bind_of_ok h,
                  outcome_bind_of_error hnext]
          | ok middle =>
              rw [hnext] at hfirst
              ext1
              · rw [events_bind_of_ok hfirst, events_bind_of_ok h, events_bind_of_ok h,
                  events_bind_of_ok hnext, List.append_assoc]
              · rw [outcome_bind_of_ok hfirst, outcome_bind_of_ok h, outcome_bind_of_ok hnext])

end Run

end Formula
