import Banlieue.Data.Wp

namespace Banlieue.Data

/-! # Tasks that share a service

A machine runs any number of tasks against one service.  A task runs at most
one program at a time; between two of its calls every other task, and the
surroundings, may act.  Programs can be cut off at any call, and what they had
already made the service do stays done.
-/

structure Machine (Call : Type) (Reply : Call → Type) where
  Service : Type
  Task : Type
  taskEq : DecidableEq Task
  /-- What a task is started with. -/
  Input : Type
  /-- What the service decides about one call. -/
  Choice : Type
  /-- What happens besides the tasks. -/
  Disturbance : Type
  Result : Type
  launch : Service → Task → Input → Option (Program Call Reply Result)
  serve : Service → Task → Choice → (call : Call) → Reply call × Service
  disturb : Service → Disturbance → Option Service

namespace Machine

variable {Call : Type} {Reply : Call → Type}

structure State (machine : Machine Call Reply) where
  service : machine.Service
  running : machine.Task → Option (Program Call Reply machine.Result)

inductive Event (machine : Machine Call Reply) where
  | launch (task : machine.Task) (input : machine.Input)
  | serve (task : machine.Task) (choice : machine.Choice)
  | crash (task : machine.Task)
  | disturb (disturbance : machine.Disturbance)

variable {machine : Machine Call Reply}

def State.idle (service : machine.Service) : machine.State :=
  ⟨service, fun _ => none⟩

def State.run (state : machine.State) (task : machine.Task)
    (program : Option (Program Call Reply machine.Result)) :
    machine.Task → Option (Program Call Reply machine.Result) :=
  fun other =>
    match machine.taskEq other task with
    | .isTrue _ => program
    | .isFalse _ => state.running other

@[simp] theorem State.run_self (state : machine.State) (task : machine.Task)
    (program : Option (Program Call Reply machine.Result)) : state.run task program task = program := by
  unfold State.run
  split
  · rfl
  · contradiction

variable {task : machine.Task}

theorem State.run_other (state : machine.State) {other : machine.Task}
    (program : Option (Program Call Reply machine.Result)) (different : other ≠ task) :
    state.run task program other = state.running other := by
  unfold State.run
  split
  · contradiction
  · rfl

def State.step (state : machine.State) : machine.Event → Option machine.State
  | .launch task input =>
    match state.running task, machine.launch state.service task input with
    | none, some program => some ⟨state.service, state.run task program.live⟩
    | _, _ => none
  | .serve task choice =>
    match state.running task with
    | some (.await call next) =>
      let answered := machine.serve state.service task choice call
      some ⟨answered.2, state.run task (next answered.1).live⟩
    | _ => none
  | .crash task => some ⟨state.service, state.run task none⟩
  | .disturb disturbance =>
    (machine.disturb state.service disturbance).map fun service => ⟨service, state.running⟩

/-- A step leaves the service as it is, or serves a call, or disturbs it. -/
theorem State.step_service {state next : machine.State} {event : machine.Event} (stepped : state.step event = some next) :
    next.service = state.service ∨
      (∃ task choice call, next.service = (machine.serve state.service task choice call).2) ∨
      ∃ disturbance, machine.disturb state.service disturbance = some next.service := by
  cases event with
  | launch task input =>
    simp only [State.step] at stepped
    split at stepped
    · cases stepped
      exact .inl rfl
    · contradiction
  | serve task choice =>
    simp only [State.step] at stepped
    split at stepped
    · cases stepped
      exact .inr (.inl ⟨task, choice, _, rfl⟩)
    · contradiction
  | crash task =>
    cases stepped
    exact .inl rfl
  | disturb disturbance =>
    obtain ⟨service, changed, rfl⟩ := Option.map_eq_some_iff.mp stepped
    exact .inr (.inr ⟨disturbance, changed⟩)

/-- The state after a sequence of events, when each of them is possible. -/
def State.exec (state : machine.State) : List machine.Event → Option machine.State
  | [] => some state
  | event :: rest => (state.step event).bind fun next => next.exec rest

/-- The same, stopping at an event that is not `allowed`. -/
def State.execIf (allowed : machine.State → machine.Event → Prop)
    [∀ state event, Decidable (allowed state event)] (state : machine.State) :
    List machine.Event → Option machine.State
  | [] => some state
  | event :: rest =>
    if allowed state event then (state.step event).bind fun next => next.execIf allowed rest
    else none

/-- A run all of whose events are `allowed` in the state they happen in. -/
inductive Run (allowed : machine.State → machine.Event → Prop) :
    machine.State → List machine.Event → machine.State → Prop where
  | nil : Run allowed state [] state
  | cons (permitted : allowed state event) (stepped : state.step event = some next)
      (rest : Run allowed next events last) : Run allowed state (event :: events) last

variable {allowed : machine.State → machine.Event → Prop} {state : machine.State} {events : List machine.Event}
  {last : machine.State}

theorem Run.mono {weaker : machine.State → machine.Event → Prop}
    (implies : ∀ state event, allowed state event → weaker state event)
    (run : Run allowed state events last) : Run weaker state events last := by
  induction run with
  | nil => exact .nil
  | cons permitted stepped _ ih => exact .cons (implies _ _ permitted) stepped ih

theorem Run.of_exec (executed : state.exec events = some last) : Run (fun _ _ => True) state events last := by
  induction events generalizing state with
  | nil =>
    cases executed
    exact .nil
  | cons event rest ih =>
    simp only [State.exec, Option.bind_eq_some_iff] at executed
    obtain ⟨next, stepped, tail⟩ := executed
    exact .cons trivial stepped (ih tail)

theorem Run.of_execIf [∀ state event, Decidable (allowed state event)]
    (executed : state.execIf allowed events = some last) : Run allowed state events last := by
  induction events generalizing state with
  | nil =>
    cases executed
    exact .nil
  | cons event rest ih =>
    simp only [State.execIf] at executed
    split at executed
    · rename_i permitted
      rw [Option.bind_eq_some_iff] at executed
      obtain ⟨next, stepped, tail⟩ := executed
      exact .cons permitted stepped (ih tail)
    · contradiction

/-- What every served call and every disturbance does to the service, a whole run
does. -/
theorem Run.relates (relation : machine.Service → machine.Service → Prop) (refl : ∀ service, relation service service)
    (trans : ∀ {first second third}, relation first second → relation second third → relation first third)
    (served : ∀ service task choice call, relation service (machine.serve service task choice call).2)
    (disturbed : ∀ {service disturbance after},
      machine.disturb service disturbance = some after → relation service after)
    (run : Run allowed state events last) : relation state.service last.service := by
  induction run with
  | nil => exact refl _
  | @cons state event next _ _ _ stepped _ ih =>
    refine trans ?_ ih
    rcases State.step_service stepped with same | ⟨task, choice, call, answered⟩ | ⟨disturbance, changed⟩
    · exact same ▸ refl _
    · exact answered ▸ served _ _ _ _
    · exact disturbed changed

/-! ## Invariants

An invariant of the service is carried together with one assertion for each
running program.  A program's assertion has to survive what the other tasks and
the surroundings do; its own calls take it to the assertion of its rest.
-/

section Invariants

variable (allowed) (invariant : machine.Service → Prop)
  (assertion : machine.Task → Program Call Reply machine.Result → machine.Service → Prop)

def Holds (state : machine.State) : Prop :=
  invariant state.service ∧
    ∀ task program, state.running task = some program → assertion task program state.service

structure Inductive : Prop where
  launched : ∀ {state : machine.State} {task input program},
    Holds invariant assertion state → allowed state (.launch task input) →
    state.running task = none → machine.launch state.service task input = some program →
    assertion task program state.service
  served : ∀ {state : machine.State} {task choice call next},
    Holds invariant assertion state → allowed state (.serve task choice) →
    state.running task = some (.await call next) →
    invariant (machine.serve state.service task choice call).2 ∧
      assertion task (next (machine.serve state.service task choice call).1)
        (machine.serve state.service task choice call).2
  undisturbed : ∀ {state : machine.State} {task choice call next other program},
    Holds invariant assertion state → allowed state (.serve task choice) →
    state.running task = some (.await call next) →
    other ≠ task → state.running other = some program →
    assertion other program (machine.serve state.service task choice call).2
  disturbed : ∀ {state : machine.State} {disturbance service},
    Holds invariant assertion state → allowed state (.disturb disturbance) →
    machine.disturb state.service disturbance = some service →
    invariant service ∧
      ∀ task program, state.running task = some program → assertion task program service

variable {allowed invariant assertion} {service : machine.Service}

/-- Only the task that moved has a new program to account for. -/
theorem holds_run {program : Option (Program Call Reply machine.Result)} (kept : invariant service)
    (own : ∀ rest, program = some rest → assertion task rest service)
    (others : ∀ other rest, other ≠ task → state.running other = some rest → assertion other rest service) :
    Holds invariant assertion ⟨service, state.run task program⟩ := by
  refine ⟨kept, ?_⟩
  intro other rest running
  change state.run task program other = some rest at running
  by_cases same : other = task
  · subst same
    rw [State.run_self] at running
    exact own rest running
  · rw [State.run_other _ _ same] at running
    exact others other rest same running

theorem Inductive.step (proof : Inductive allowed invariant assertion) {next : machine.State} {event : machine.Event}
    (holds : Holds invariant assertion state) (permitted : allowed state event)
    (stepped : state.step event = some next) : Holds invariant assertion next := by
  cases event with
  | launch task input =>
    simp only [State.step] at stepped
    split at stepped
    · rename_i program idle launched
      cases stepped
      refine holds_run holds.1 ?_ (fun other rest _ => holds.2 other rest)
      intro rest live
      obtain ⟨rfl, -⟩ := Program.live_eq_some live
      exact proof.launched holds permitted idle launched
    · contradiction
  | serve task choice =>
    simp only [State.step] at stepped
    split at stepped
    · rename_i call continuation active
      cases stepped
      obtain ⟨kept, own⟩ := proof.served holds permitted active
      refine holds_run kept ?_ (fun other rest => proof.undisturbed holds permitted active)
      intro rest live
      obtain ⟨rfl, -⟩ := Program.live_eq_some live
      exact own
    · contradiction
  | crash task =>
    simp only [State.step, Option.some.injEq] at stepped
    subst next
    exact holds_run holds.1 (by simp) (fun other rest _ => holds.2 other rest)
  | disturb disturbance =>
    simp only [State.step, Option.map_eq_some_iff] at stepped
    obtain ⟨service, changed, same⟩ := stepped
    subst next
    obtain ⟨kept, others⟩ := proof.disturbed holds permitted changed
    exact ⟨kept, others⟩

theorem Inductive.run (proof : Inductive allowed invariant assertion)
    (run : Run allowed state events last) (holds : Holds invariant assertion state) :
    Holds invariant assertion last := by
  induction run with
  | nil => exact holds
  | cons permitted stepped _ ih => exact ih (proof.step holds permitted stepped)

/-- What holds throughout a run may be used where its events are judged. -/
theorem Inductive.run_within (proof : Inductive allowed invariant assertion)
    (run : Run allowed state events last) (holds : Holds invariant assertion state) :
    Run (fun state event => allowed state event ∧ Holds invariant assertion state) state events last := by
  induction run with
  | nil => exact .nil
  | cons permitted stepped _ ih =>
    exact .cons ⟨permitted, holds⟩ stepped (ih (proof.step holds permitted stepped))

theorem holds_idle (initial : invariant service) : Holds invariant assertion (State.idle service) :=
  ⟨initial, by simp [State.idle]⟩

end Invariants

/-! ## Disciplined tasks -/

section Disciplined

variable (discipline : machine.Task → Discipline Call Reply)
  (means : (task : machine.Task) → (discipline task).Stage → machine.Service → Prop)

/-- The running program of a task is at some stage whose meaning holds, and
keeps to the discipline from there on. -/
def Disciplined (task : machine.Task) (program : Program Call Reply machine.Result)
    (service : machine.Service) : Prop :=
  ∃ stage, means task stage service ∧
    program.Obeys (discipline task) (fun _ _ => True) stage

/-- One call made at a stage is answered as expected and leads to stages whose
meaning holds; this is all a program's own calls have to be checked for. -/
theorem Disciplined.served {service after : machine.Service}
    {call : Call} {next : Reply call → Program Call Reply machine.Result} {reply : Reply call}
    (disciplined : Disciplined discipline means task (.await call next) service)
    (answered : ∀ stage, means task stage service → (discipline task).permits stage call →
      (discipline task).expects stage call reply ∧
        ∀ later, (discipline task).advance stage call reply later → means task later after) :
    Disciplined discipline means task (next reply) after := by
  obtain ⟨stage, meant, permitted, rest⟩ := disciplined
  obtain ⟨expected, moved⟩ := answered stage meant permitted
  obtain ⟨later, advanced, obeyed⟩ := rest reply expected
  exact ⟨later, moved later advanced, obeyed⟩

theorem Disciplined.stable {before after : machine.Service} {program : Program Call Reply machine.Result}
    (disciplined : Disciplined discipline means task program before)
    (kept : ∀ stage, means task stage before → means task stage after) :
    Disciplined discipline means task program after := by
  obtain ⟨stage, meant, obeyed⟩ := disciplined
  exact ⟨stage, kept stage meant, obeyed⟩

end Disciplined

end Machine

/-! ## Requests over a network -/

/-- What becomes of a request: it is answered, it never arrives, or it is carried
out and the answer is lost. -/
inductive Delivery where
  | answered
  | dropped
  | unanswered
deriving DecidableEq

namespace Delivery

variable {σ ρ : Type}

/-- The reply the sender gets and the state that is left, for a request that
would be carried out as `carriedOut`. -/
def outcome (delivery : Delivery) (before : σ) (failed : ρ) (carriedOut : ρ × σ) : ρ × σ :=
  match delivery with
  | .answered => carriedOut
  | .dropped => (failed, before)
  | .unanswered => (failed, carriedOut.2)

variable {delivery : Delivery} {before : σ} {failed : ρ} {carriedOut : ρ × σ}

/-- What holds before a request, and after it if it arrives, holds of what is left. -/
theorem outcome_state {P : σ → Prop} (kept : P before) (arrived : delivery ≠ .dropped → P carriedOut.2) :
    P (delivery.outcome before failed carriedOut).2 := by
  cases delivery with
  | answered => exact arrived (by decide)
  | dropped => exact kept
  | unanswered => exact arrived (by decide)

/-- A reply other than the failure comes from a request that was carried out. -/
theorem outcome_reply {reply : ρ} (replied : (delivery.outcome before failed carriedOut).1 = reply)
    (succeeded : reply ≠ failed) : delivery.outcome before failed carriedOut = carriedOut ∧ carriedOut.1 = reply := by
  cases delivery with
  | answered => exact ⟨rfl, replied⟩
  | dropped => exact absurd replied.symm succeeded
  | unanswered => exact absurd replied.symm succeeded

end Delivery

/-! ## Machines whose programs keep to rules -/

namespace Machine

variable {Call : Type} {Reply : Call → Type} {machine : Machine Call Reply} {σ : Type} {rules : Rules σ Call Reply}
  {means : σ → machine.Service → Prop} {task : machine.Task} {service after : machine.Service}

/-- What is left of a program may be run from a stage that says something true. -/
def Abides (rules : Rules σ Call Reply) (means : σ → machine.Service → Prop) (_ : machine.Task)
    (program : Program Call Reply machine.Result) (service : machine.Service) : Prop :=
  ∃ stage, means stage service ∧ program.wp rules (fun _ _ => True) stage

/-- A call that does what its rule says keeps the invariant and what the program relies on. -/
theorem Abides.served {call : Call} {next : Reply call → Program Call Reply machine.Result} {reply : Reply call}
    {invariant : machine.Service → Prop} (own : Abides rules means task (.await call next) service)
    (sound : ∀ stage, means stage service → (rules call).pre stage →
      invariant after ∧ ∃ later, (rules call).post stage reply later ∧ means later after) :
    invariant after ∧ Abides rules means task (next reply) after := by
  obtain ⟨stage, meant, permitted, rest⟩ := own
  obtain ⟨kept, later, moved, meant⟩ := sound stage meant permitted
  exact ⟨kept, later, meant, rest reply later moved⟩

theorem Abides.stable {program : Program Call Reply machine.Result} (own : Abides rules means task program service)
    (kept : ∀ stage, means stage service → means stage after) : Abides rules means task program after := by
  obtain ⟨stage, meant, rest⟩ := own
  exact ⟨stage, kept stage meant, rest⟩

end Machine

end Banlieue.Data
