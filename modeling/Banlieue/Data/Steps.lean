import Mathlib.Logic.Basic

namespace Banlieue.Data

/-! # Runs of a partial step function -/

variable {σ ε : Type} {step : σ → ε → Option σ}

/-- A run all of whose events are `allowed` in the state they happen in. -/
inductive Steps (step : σ → ε → Option σ) (allowed : σ → ε → Prop) : σ → List ε → σ → Prop where
  | nil : Steps step allowed state [] state
  | cons (permitted : allowed state event) (stepped : step state event = some next)
      (rest : Steps step allowed next events last) : Steps step allowed state (event :: events) last

/-- The state after a sequence of events, when each of them is possible. -/
def execute (step : σ → ε → Option σ) (state : σ) : List ε → Option σ
  | [] => some state
  | event :: rest => (step state event).bind fun next => execute step next rest

/-- The same, stopping at an event that is not allowed. -/
def executeIf (step : σ → ε → Option σ) (allowed : σ → ε → Prop)
    [∀ state event, Decidable (allowed state event)] (state : σ) : List ε → Option σ
  | [] => some state
  | event :: rest =>
    if allowed state event then (step state event).bind fun next => executeIf step allowed next rest
    else none

namespace Steps

variable {allowed : σ → ε → Prop} {state last : σ} {events : List ε}

theorem of_execute (executed : execute step state events = some last) :
    Steps step (fun _ _ => True) state events last := by
  induction events generalizing state with
  | nil =>
    cases executed
    exact .nil
  | cons event rest ih =>
    obtain ⟨next, stepped, tail⟩ := Option.bind_eq_some_iff.mp executed
    exact .cons trivial stepped (ih tail)

theorem of_executeIf [∀ state event, Decidable (allowed state event)]
    (executed : executeIf step allowed state events = some last) : Steps step allowed state events last := by
  induction events generalizing state with
  | nil =>
    cases executed
    exact .nil
  | cons event rest ih =>
    simp only [executeIf] at executed
    split at executed
    · rename_i permitted
      obtain ⟨next, stepped, tail⟩ := Option.bind_eq_some_iff.mp executed
      exact .cons permitted stepped (ih tail)
    · contradiction

/-- What every allowed step preserves, every run preserves. -/
theorem invariant {holds : σ → Prop} (preserved : ∀ {state event next}, holds state → allowed state event →
      step state event = some next → holds next)
    (run : Steps step allowed state events last) (initial : holds state) : holds last := by
  induction run with
  | nil => exact initial
  | cons permitted stepped _ ih => exact ih (preserved initial permitted stepped)

end Steps

end Banlieue.Data
