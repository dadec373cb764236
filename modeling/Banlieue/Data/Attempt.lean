import Banlieue.Data.Wp

namespace Banlieue.Data

/-! # Attempts

A program runs alone against a service that decides about every call, and it can
be stopped before any of them.  What it had made the service do stays done.
-/

structure Backend (Call : Type) (Reply : Call → Type) where
  State : Type
  /-- What the service decides about one call. -/
  Decision : Type
  serve : State → Decision → (call : Call) → Reply call × State

namespace Program

variable {Call : Type} {Reply : Call → Type} {α β ε : Type}

/-- What is returned, if the decisions last that long, and the state that is left. -/
def attempt (backend : Backend Call Reply) :
    Program Call Reply α → List backend.Decision → backend.State → Option α × backend.State
  | .done value, _, state => (some value, state)
  | .await _ _, [], state => (none, state)
  | .await call next, decision :: decisions, state =>
    let answered := backend.serve state decision call
    (next answered.1).attempt backend decisions answered.2

variable {backend : Backend Call Reply}

/-- Whatever is decided, only finitely many calls are made. -/
theorem attempt_returns (program : Program Call Reply α) (decisions : Nat → backend.Decision) (state : backend.State) :
    ∃ count value, (program.attempt backend ((List.range count).map decisions) state).1 = some value := by
  induction program generalizing decisions state with
  | done value => exact ⟨0, value, rfl⟩
  | await call next ih =>
    obtain ⟨count, value, returned⟩ := ih (backend.serve state (decisions 0) call).1
      (fun index => decisions (index + 1)) (backend.serve state (decisions 0) call).2
    refine ⟨count + 1, value, ?_⟩
    rw [List.range_succ_eq_map, List.map_cons, List.map_map]
    exact returned

/-- Every decision of an attempt is allowed where it is made, and so is its stop. -/
def Within (allowed : backend.State → Call → Option backend.Decision → Prop) :
    Program Call Reply α → List backend.Decision → backend.State → Prop
  | .done _, _, _ => True
  | .await call _, [], state => allowed state call none
  | .await call next, decision :: decisions, state =>
    allowed state call (some decision) ∧
      (next (backend.serve state decision call).1).Within allowed decisions
        (backend.serve state decision call).2

instance Within.decidable (allowed : backend.State → Call → Option backend.Decision → Prop)
    [∀ state call decision, Decidable (allowed state call decision)] :
    (program : Program Call Reply α) → (decisions : List backend.Decision) → (state : backend.State) →
      Decidable (program.Within allowed decisions state)
  | .done _, _, _ => .isTrue trivial
  | .await call _, [], state => inferInstanceAs (Decidable (allowed state call none))
  | .await call next, decision :: decisions, state =>
    have := Within.decidable allowed (next (backend.serve state decision call).1) decisions
      (backend.serve state decision call).2
    inferInstanceAs (Decidable (allowed state call (some decision) ∧ _))

variable {allowed : backend.State → Call → Option backend.Decision → Prop} {decisions : List backend.Decision}
  {call : Call} {post : α → backend.State → Prop} {program : ExceptT ε (Program Call Reply) α}

theorem within_always (always : ∀ state call decision, allowed state call decision) (program : Program Call Reply α)
    (decisions : List backend.Decision) (state : backend.State) : program.Within allowed decisions state := by
  induction program generalizing decisions state with
  | done value => trivial
  | await call next ih =>
    cases decisions with
    | nil => exact always state call none
    | cons decision decisions => exact ⟨always state call _, ih _ decisions _⟩

theorem within_of_returned {program : Program Call Reply α} {state : backend.State} {value : α}
    (permitted : ∀ decision ∈ decisions, ∀ state call, allowed state call (some decision))
    (returned : (program.attempt backend decisions state).1 = some value) : program.Within allowed decisions state := by
  induction program generalizing decisions state with
  | done value => trivial
  | await call next ih =>
    cases decisions with
    | nil => cases returned
    | cons decision decisions =>
      exact ⟨permitted decision List.mem_cons_self state call,
        ih _ (fun other member => permitted other (List.mem_cons_of_mem _ member)) returned⟩

variable {allowed : backend.State → Call → Option backend.Decision → Prop} {safe : backend.State → Prop}
  {state : backend.State}

/-- A service that decides within what is allowed, and may stop a program where that is
`safe`. -/
def deciding (allowed : backend.State → Call → Option backend.Decision → Prop) (safe : backend.State → Prop) :
    Rules backend.State Call Reply := fun call =>
  { pre state := allowed state call none → safe state
    post state reply after := ∃ decision, allowed state call (some decision) ∧
      reply = (backend.serve state decision call).1 ∧ after = (backend.serve state decision call).2 }

/-- However the service decides, within what is allowed, the program returns only what
`post` says, and is stopped only in states that are `safe`. -/
abbrev Achieves (allowed : backend.State → Call → Option backend.Decision → Prop)
    (safe : backend.State → Prop) (post : α → backend.State → Prop) (program : Program Call Reply α) :
    backend.State → Prop :=
  program.wp (deciding allowed safe) post

/-- A program that fails leaves a state that is safe, like one that is stopped. -/
abbrev Secures (allowed : backend.State → Call → Option backend.Decision → Prop)
    (safe : backend.State → Prop) (program : ExceptT ε (Program Call Reply) α) (state : backend.State)
    (post : α → backend.State → Prop) : Prop :=
  wpe (deciding allowed safe) program post (fun _ => safe) state

@[simp]
theorem wp_deciding_request {post : Reply call → backend.State → Prop} :
    wp (deciding allowed safe) (request call) post = fun state => (allowed state call none → safe state) ∧
      ∀ decision, allowed state call (some decision) →
        post (backend.serve state decision call).1 (backend.serve state decision call).2 := by
  funext state
  simp only [wp_request, deciding, eq_iff_iff, and_congr_right_iff]
  intro _
  constructor
  · exact fun holds decision allows => holds _ _ ⟨decision, allows, rfl, rfl⟩
  · rintro holds _ _ ⟨decision, allows, rfl, rfl⟩
    exact holds decision allows

@[simp]
theorem wpe_deciding_consult {read : Reply call → Except ε α} {failed : ε → backend.State → Prop} :
    wpe (deciding allowed safe) (consult call read) post failed = fun state => (allowed state call none → safe state) ∧
      ∀ decision, allowed state call (some decision) →
        either post failed (read (backend.serve state decision call).1) (backend.serve state decision call).2 :=
  wp_deciding_request

theorem Achieves.attempt {program : Program Call Reply α} (achieves : program.Achieves allowed safe post state)
    (within : program.Within allowed decisions state) :
    (∀ value, (program.attempt backend decisions state).1 = some value →
        post value (program.attempt backend decisions state).2) ∧ ((program.attempt backend decisions state).1 = none →
        safe (program.attempt backend decisions state).2) := by
  induction program generalizing state decisions with
  | done value => exact ⟨fun _ same => Option.some.inj same ▸ achieves, nofun⟩
  | await call next ih =>
    cases decisions with
    | nil => exact ⟨nofun, fun _ => achieves.1 within⟩
    | cons decision decisions => exact ih _ (achieves.2 _ _ ⟨decision, within.1, rfl, rfl⟩) within.2

namespace Secures

variable {post : α → backend.State → Prop}

theorem pure {value : α} (reached : post value state) :
    Secures allowed safe (Pure.pure value : ExceptT ε (Program Call Reply) α) state post := reached

theorem throw {reason : ε} (kept : safe state) :
    Secures allowed safe (MonadExcept.throw reason : ExceptT ε (Program Call Reply) α) state post := kept

variable {program : ExceptT ε (Program Call Reply) α}

theorem bind {final : β → backend.State → Prop}
    {next : α → ExceptT ε (Program Call Reply) β} (first : Secures allowed safe program state post)
    (rest : ∀ value last, post value last → Secures allowed safe (next value) last final) :
    Secures allowed safe (program >>= next) state final :=
  wpe_andThen first rest

theorem mono {weaker : α → backend.State → Prop} (secures : Secures allowed safe program state post)
    (weaken : ∀ value last, post value last → weaker value last) : Secures allowed safe program state weaker :=
  wpe_mono secures weaken

theorem consult {call : Call} {read : Reply call → Except ε α} (stopped : allowed state call none → safe state)
    (replied : ∀ decision, allowed state call (some decision) →
      either post (fun _ => safe) (read (backend.serve state decision call).1) (backend.serve state decision call).2) :
    Secures allowed safe (Program.consult call read) state post := by
  rw [Secures, wpe_deciding_consult]
  exact ⟨stopped, replied⟩

/-- A part whose failure is looked at rather than passed on. -/
theorem tried {ε' : Type} (secures : Secures allowed safe program state post) :
    Secures allowed safe (ExceptT.lift program.run : ExceptT ε' (Program Call Reply) (Except ε α)) state
      (either post fun _ => safe) := by
  rw [Secures, wpe_lift]
  exact secures

end Secures

theorem Secures.attempt (secures : Secures allowed safe program state post)
    (within : program.run.Within allowed decisions state) :
    (∀ value, (program.run.attempt backend decisions state).1 = some (.ok value) →
        post value (program.run.attempt backend decisions state).2) ∧
      ((∀ value, (program.run.attempt backend decisions state).1 ≠ some (.ok value)) →
        safe (program.run.attempt backend decisions state).2) := by
  obtain ⟨returned, stopped⟩ := Achieves.attempt secures within
  refine ⟨fun value same => returned _ same, fun failed => ?_⟩
  cases result : (program.run.attempt backend decisions state).1 with
  | none => exact stopped result
  | some outcome =>
    cases outcome with
    | ok value => exact absurd result (failed value)
    | error reason => exact returned _ result

theorem Secures.safe_attempt (secures : Secures allowed safe program state fun _ => safe)
    (within : program.run.Within allowed decisions state) : safe (program.run.attempt backend decisions state).2 := by
  obtain ⟨returned, stopped⟩ := Achieves.attempt secures within
  cases result : (program.run.attempt backend decisions state).1 with
  | none => exact stopped result
  | some outcome =>
    have reached := returned outcome result
    cases outcome <;> exact reached

/-- What every permitted call keeps, a program that makes no other calls keeps, if the
service replies as the program expects. -/
theorem Keeps.secures {permits : Call → Prop} {expects : (call : Call) → Reply call → Prop}
    {post : α → Prop} {kept : backend.State → Prop} (keeps : Keeps (replying permits expects) program post)
    (replied : ∀ state call decision, expects call (backend.serve state decision call).1)
    (served : ∀ state call decision, permits call → allowed state call (some decision) → kept state →
      kept (backend.serve state decision call).2) (keptSafe : ∀ state, kept state → safe state) (holds : kept state) :
    Secures allowed safe program state fun value last => post value ∧ kept last := by
  have keeps := of_eq_true (congrFun keeps ())
  unfold Secures wpe at *
  generalize program.run = plain at keeps
  induction plain generalizing state with
  | done result =>
    cases result with
    | ok value => exact ⟨keeps, holds⟩
    | error reason => exact keptSafe state holds
  | await call next ih =>
    refine ⟨fun _ => keptSafe state holds, ?_⟩
    rintro reply after ⟨decision, allows, rfl, rfl⟩
    exact ih _ (served state call decision keeps.1 allows holds) (keeps.2 _ () (replied state call decision))

end Program

/-! ## One attempt after another -/

structure Attempt (backend : Backend Call Reply) (α : Type) where
  program : Program Call Reply α
  decisions : List backend.Decision

namespace Attempt

variable {Call : Type} {Reply : Call → Type} {α : Type} {backend : Backend Call Reply}

def result (attempt : Attempt backend α) (state : backend.State) : Option α :=
  (attempt.program.attempt backend attempt.decisions state).1

def last (attempt : Attempt backend α) (state : backend.State) : backend.State :=
  (attempt.program.attempt backend attempt.decisions state).2

def lastOf (attempts : List (Attempt backend α)) (state : backend.State) : backend.State :=
  attempts.foldl (fun state attempt => attempt.last state) state

variable (allowed : backend.State → Call → Option backend.Decision → Prop)

def AllWithin : List (Attempt backend α) → backend.State → Prop
  | [], _ => True
  | attempt :: rest, state =>
    attempt.program.Within allowed attempt.decisions state ∧ AllWithin rest (attempt.last state)

instance AllWithin.decidable [∀ state call decision, Decidable (allowed state call decision)] :
    (attempts : List (Attempt backend α)) → (state : backend.State) → Decidable (AllWithin allowed attempts state)
  | [], _ => .isTrue trivial
  | attempt :: rest, state =>
    have := AllWithin.decidable rest (attempt.last state)
    inferInstanceAs (Decidable (_ ∧ AllWithin allowed rest (attempt.last state)))

variable {allowed} {safe : backend.State → Prop}

/-- What every attempt leaves as it found it, any number of them does. -/
theorem AllWithin.safe_lastOf {ε : Type} {attempts : List (Attempt backend (Except ε α))} {state : backend.State}
    (within : AllWithin allowed attempts state) (keeps : ∀ attempt ∈ attempts, ∀ state, safe state →
      Program.Secures allowed safe (ExceptT.mk attempt.program) state fun _ => safe)
    (holds : safe state) : safe (lastOf attempts state) := by
  induction attempts generalizing state with
  | nil => exact holds
  | cons attempt rest ih =>
    refine ih within.2 (fun attempt member => keeps attempt (List.mem_cons_of_mem _ member)) ?_
    exact (keeps attempt List.mem_cons_self state holds).safe_attempt within.1

theorem AllWithin.split {earlier later : List (Attempt backend α)} {state : backend.State}
    (within : AllWithin allowed (earlier ++ later) state) :
    AllWithin allowed earlier state ∧ AllWithin allowed later (lastOf earlier state) := by
  induction earlier generalizing state with
  | nil => exact ⟨trivial, within⟩
  | cons attempt rest ih => exact ⟨⟨within.1, (ih within.2).1⟩, (ih within.2).2⟩

end Attempt

end Banlieue.Data
