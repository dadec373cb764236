import Mathlib.Logic.Basic

namespace Banlieue.Data

/-! # Asynchronous functions as the calls they await

An `async fn` is modelled by the tree of calls it makes: between two awaited
calls it computes purely, so other tasks can only interfere at a call.  What a
call does, and who else is running, is left to the machine that serves it
(`Banlieue.Data.Machine`).
-/

/-- A value, or a call together with what is done with its reply. -/
inductive Program (Call : Type) (Reply : Call → Type) (α : Type) where
  | done (value : α)
  | await (call : Call) (next : Reply call → Program Call Reply α)

namespace Program

variable {Call : Type} {Reply : Call → Type} {α β ε : Type}

def bind : Program Call Reply α → (α → Program Call Reply β) → Program Call Reply β
  | .done value, next => next value
  | .await call rest, next => .await call fun reply => (rest reply).bind next

instance : Monad (Program Call Reply) where
  pure := .done
  bind := bind

instance : LawfulMonad (Program Call Reply) := by
  refine .mk' _ (fun program => ?_) (fun _ _ => rfl) (fun program next further => ?_)
  · induction program with
    | done value => rfl
    | await call rest ih => exact congrArg (Program.await call) (funext ih)
  · induction program with
    | done value => rfl
    | await call rest ih => exact congrArg (Program.await call) (funext ih)

def request (call : Call) : Program Call Reply (Reply call) :=
  .await call .done

/-- Await one call, whose reply is read as one that may have failed. -/
def consult (call : Call) (read : Reply call → Except ε α) : ExceptT ε (Program Call Reply) α :=
  .mk (do return read (← request call))

/-- The program on a service that has the calls among its own. -/
def embed {Call' : Type} {Reply' : Call' → Type} (inject : Call → Call')
    (read : (call : Call) → Reply' (inject call) → Reply call) :
    Program Call Reply α → Program Call' Reply' α
  | .done value => .done value
  | .await call next => .await (inject call) fun reply => (next (read call reply)).embed inject read

/-- Some replies make the program return the value. -/
def Yields : Program Call Reply α → α → Prop
  | .done value, returned => value = returned
  | .await _ next, returned => ∃ reply, (next reply).Yields returned

/-- A program that can still run: `none` once it has returned. -/
def live : Program Call Reply α → Option (Program Call Reply α)
  | .done _ => none
  | .await call next => some (.await call next)

/-- The call a running program waits for meets the condition. -/
def AtCall (condition : Call → Prop) : Option (Program Call Reply α) → Prop
  | some (.await call _) => condition call
  | _ => True

instance AtCall.decidable (condition : Call → Prop) [DecidablePred condition] :
    (running : Option (Program Call Reply α)) → Decidable (AtCall condition running)
  | some (.await call _) => inferInstanceAs (Decidable (condition call))
  | some (.done _) => .isTrue trivial
  | none => .isTrue trivial

theorem AtCall.mono {stronger weaker : Call → Prop}
    (implies : ∀ call, stronger call → weaker call) {running : Option (Program Call Reply α)}
    (holds : AtCall stronger running) : AtCall weaker running := by
  match running with
  | some (.await call _) => exact implies call holds
  | some (.done _) | none => trivial

theorem live_eq_some {program running : Program Call Reply α} (found : program.live = some running) :
    running = program ∧ ∃ call next, program = .await call next := by
  cases program with
  | done value => simp [live] at found
  | await call next =>
    simp only [live, Option.some.injEq] at found
    exact ⟨found.symm, call, next, rfl⟩

end Program

/-! ## Undisturbed runs

With nobody else around, a program and the service that answers its calls
determine the whole run.
-/

/-- What a program that ran alone returned, left behind and asked for. -/
structure Performance (Call σ α : Type) where
  result : α
  state : σ
  calls : List Call

/-- The same, when other calls were made before. -/
def Performance.after {Call σ α : Type} (performance : Performance Call σ α) (earlier : List Call) :
    Performance Call σ α :=
  { performance with calls := earlier ++ performance.calls }

namespace Program

variable {Call : Type} {Reply : Call → Type} {σ α β ε : Type}
  (serve : σ → (call : Call) → Reply call × σ)

def perform : Program Call Reply α → σ → Performance Call σ α
  | .done value, state => ⟨value, state, []⟩
  | .await call next, state =>
    let rest := (next (serve state call).1).perform (serve state call).2
    { rest with calls := call :: rest.calls }

theorem yields_perform (program : Program Call Reply α) (state : σ) :
    program.Yields (program.perform serve state).result := by
  induction program generalizing state with
  | done value => rfl
  | await call next ih => exact ⟨_, ih _ _⟩

theorem perform_bind (program : Program Call Reply α) (next : α → Program Call Reply β) (state : σ) :
    (program >>= next).perform serve state =
      let first := program.perform serve state
      ((next first.result).perform serve first.state).after first.calls := by
  induction program generalizing state with
  | done value => rfl
  | await call continuation ih =>
    change (Program.await call fun reply => (continuation reply) >>= next).perform serve state = _
    simp only [perform, ih, Performance.after, List.cons_append]

/-- A fallible program that runs alone returns `value`, leaves `last` and makes `calls`. -/
def Returns (program : ExceptT ε (Program Call Reply) α) (state : σ) (value : α) (last : σ)
    (calls : List Call) : Prop :=
  program.run.perform serve state = ⟨.ok value, last, calls⟩

variable {serve} {program : ExceptT ε (Program Call Reply) α}

theorem Returns.perform_bind {state last : σ} {value : α}
    {calls : List Call} (returned : Returns serve program state value last calls)
    (next : α → ExceptT ε (Program Call Reply) β) :
    (program >>= next).run.perform serve state = ((next value).run.perform serve last).after calls := by
  change (program.run >>= ExceptT.bindCont next).perform serve state = _
  rw [Program.perform_bind, returned]
  rfl

theorem mem_calls_first {state : σ} {call : Call} (made : call ∈ (program.run.perform serve state).calls)
    (next : α → ExceptT ε (Program Call Reply) β) : call ∈ ((program >>= next).run.perform serve state).calls := by
  change call ∈ ((program.run >>= ExceptT.bindCont next).perform serve state).calls
  rw [Program.perform_bind]
  exact List.mem_append_left _ made

/-- A call of a sequence is one of its first part, or that part returned. -/
theorem mem_calls_bind {next : α → ExceptT ε (Program Call Reply) β} {state : σ} {call : Call}
    (made : call ∈ ((program >>= next).run.perform serve state).calls) :
    call ∈ (program.run.perform serve state).calls ∨ ∃ value last calls, Returns serve program state value last calls ∧
        call ∈ ((next value).run.perform serve last).calls := by
  change call ∈ ((program.run >>= ExceptT.bindCont next).perform serve state).calls at made
  rw [Program.perform_bind] at made
  rcases List.mem_append.mp made with first | later
  · exact .inl first
  · cases outcome : (program.run.perform serve state).result with
    | error reason =>
      rw [outcome] at later
      exact absurd later List.not_mem_nil
    | ok value =>
      rw [outcome] at later
      refine .inr ⟨value, _, (program.run.perform serve state).calls, ?_, later⟩
      rw [Returns, ← outcome]

end Program

/-! ## Typestate disciplines

A discipline says, stage by stage, which calls a program may make and which
stages it may be in after a reply.  Stages carry what the program has learnt;
their meaning on the shared state is given by the machine that uses them.
-/

structure Discipline (Call : Type) (Reply : Call → Type) where
  Stage : Type
  /-- The calls a program may make at a stage. -/
  permits : Stage → Call → Prop
  /-- The replies the service can give at a stage. -/
  expects : Stage → (call : Call) → Reply call → Prop
  /-- The stages a program may choose between once it has the reply. -/
  advance : Stage → (call : Call) → Reply call → Stage → Prop

namespace Program

variable {Call : Type} {Reply : Call → Type} {α β ε : Type}

/-- From `stage` on, the program keeps to the discipline and returns only
values and stages allowed by `post`. -/
def Obeys (discipline : Discipline Call Reply) (post : α → discipline.Stage → Prop) :
    discipline.Stage → Program Call Reply α → Prop
  | stage, .done value => post value stage
  | stage, .await call next =>
    discipline.permits stage call ∧
      ∀ reply, discipline.expects stage call reply →
        ∃ after, discipline.advance stage call reply after ∧
          Obeys discipline post after (next reply)

variable {discipline : Discipline Call Reply} {stage : discipline.Stage} {program : Program Call Reply α}

theorem Obeys.mono {post weaker : α → discipline.Stage → Prop} (obeyed : program.Obeys discipline post stage)
    (weaken : ∀ value after, post value after → weaker value after) : program.Obeys discipline weaker stage := by
  induction program generalizing stage with
  | done value => exact weaken value stage obeyed
  | await call next ih =>
    refine ⟨obeyed.1, ?_⟩
    intro reply expected
    obtain ⟨after, advanced, rest⟩ := obeyed.2 reply expected
    exact ⟨after, advanced, ih reply rest⟩

/-- The discipline without stages: it only says which calls may be made. -/
def always (permits : Call → Prop) : Discipline Call Reply where
  Stage := Unit
  permits _ := permits
  expects _ _ _ := True
  advance _ _ _ _ := True

def Makes (permitted : Call → Prop) (program : Program Call Reply α) : Prop :=
  program.Obeys (always permitted) (fun _ _ => True) ()

variable {permitted : Call → Prop}

theorem Makes.mono {weaker : Call → Prop}
    (makes : Makes permitted program) (implies : ∀ call, permitted call → weaker call) : Makes weaker program := by
  induction program with
  | done value => trivial
  | await call next ih =>
    refine ⟨implies call makes.1, fun reply _ => ⟨(), trivial, ih reply ?_⟩⟩
    obtain ⟨_, _, rest⟩ := makes.2 reply trivial
    exact rest

/-- Whoever answers, the calls that are made are permitted ones. -/
theorem Makes.calls {σ : Type}
    (makes : Makes permitted program) (serve : σ → (call : Call) → Reply call × σ) (state : σ) :
    ∀ call ∈ (program.perform serve state).calls, permitted call := by
  induction program generalizing state with
  | done value => simp [perform]
  | await call next ih =>
    intro made member
    rcases List.mem_cons.mp member with rfl | later
    · exact makes.1
    · obtain ⟨_, _, rest⟩ := makes.2 (serve state call).1 trivial
      exact ih _ rest _ made later

/-- Calls that leave the state as it is leave it so together. -/
theorem Makes.state {σ : Type} {serve : σ → (call : Call) → Reply call × σ} (makes : Makes permitted program)
    (kept : ∀ state call, permitted call → (serve state call).2 = state) (state : σ) :
    (program.perform serve state).state = state := by
  induction program generalizing state with
  | done value => rfl
  | await call next ih =>
    obtain ⟨_, _, rest⟩ := makes.2 (serve state call).1 trivial
    exact (ih _ rest _).trans (kept state call makes.1)

end Program

end Banlieue.Data
