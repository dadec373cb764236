import Mathlib.Data.List.Forall2
import Banlieue.Data.Program

namespace Banlieue.Data

/-! # Weakest preconditions

Each call has a rule: what has to hold of the stage before it, and how the reply and the
stage after it are related to that.  Folding the rules over a program gives the condition
under which it may start; the simp set does the folding.
-/

structure Rule (σ ρ : Type) where
  pre : σ → Prop := fun _ => True
  post : σ → ρ → σ → Prop

abbrev Rules (σ Call : Type) (Reply : Call → Type) := (call : Call) → Rule σ (Reply call)

@[simp]
theorem forall_except {α ε : Type} {condition : Except ε α → Prop} :
    (∀ result, condition result) ↔ (∀ value, condition (.ok value)) ∧ ∀ reason, condition (.error reason) := by
  refine ⟨fun all => ⟨fun _ => all _, fun _ => all _⟩, fun both result => ?_⟩
  cases result with
  | ok value => exact both.1 value
  | error reason => exact both.2 reason

namespace Program

section Fold

variable {σ Call : Type} {Reply : Call → Type} {α β ε : Type} {rules : Rules σ Call Reply} {stage : σ}

def wp (rules : Rules σ Call Reply) : Program Call Reply α → (α → σ → Prop) → σ → Prop
  | .done value, post, stage => post value stage
  | .await call next, post, stage =>
    (rules call).pre stage ∧ ∀ reply after, (rules call).post stage reply after → (next reply).wp rules post after

variable {post weaker : α → σ → Prop} {failed : ε → σ → Prop} {program : Program Call Reply α} {function : α → β}
  {value : α} {call : Call} {result : Except ε α}

theorem wp_mono (holds : program.wp rules post stage)
    (weaken : ∀ value after, post value after → weaker value after) : program.wp rules weaker stage := by
  induction program generalizing stage with
  | done value => exact weaken value stage holds
  | await call next ih => exact ⟨holds.1, fun reply after moved => ih reply (holds.2 reply after moved)⟩

@[simp]
theorem wp_pure : wp rules (pure value : Program Call Reply α) post = post value := rfl

@[simp]
theorem wp_request {post : Reply call → σ → Prop} :
    wp rules (request call) post = fun stage =>
      (rules call).pre stage ∧ ∀ reply after, (rules call).post stage reply after → post reply after := rfl

@[simp]
theorem wp_bind {next : α → Program Call Reply β} {post : β → σ → Prop} :
    wp rules (program >>= next) post = program.wp rules fun value => (next value).wp rules post := by
  induction program with
  | done value => rfl
  | await call continuation ih =>
    funext stage
    change (_ ∧ ∀ reply after, _ → (continuation reply >>= next).wp _ _ _) = _
    simp only [ih]
    rfl

@[simp]
theorem wp_map {post : β → σ → Prop} :
    wp rules (function <$> program) post = program.wp rules fun value => post (function value) := by
  rw [map_eq_pure_bind, wp_bind]
  rfl

@[simp]
theorem wp_ite {condition : Prop} [Decidable condition] {first second : Program Call Reply α} :
    wp rules (if condition then first else second) post = fun stage =>
      (condition → first.wp rules post stage) ∧ (¬ condition → second.wp rules post stage) := by
  split <;> simp_all

/-! ### Programs that may fail -/

def either (post : α → σ → Prop) (failed : ε → σ → Prop) : Except ε α → σ → Prop
  | .ok value => post value
  | .error reason => failed reason

@[simp]
theorem either_ok : either post failed (.ok value) = post value :=
  rfl

@[simp]
theorem either_error {reason : ε} : either post failed (.error reason) = failed reason := rfl

@[simp]
theorem either_mapError {ε' : Type} {failed : ε' → σ → Prop} {wrap : ε → ε'} :
    either post failed (result.mapError wrap) = either post (fun reason => failed (wrap reason)) result := by
  cases result <;> rfl

@[simp]
theorem either_map {post : β → σ → Prop} :
    either post failed (function <$> result) = either (fun value => post (function value)) failed result := by
  cases result <;> rfl

@[simp]
theorem either_always : either (fun _ _ => True) (fun _ _ => True) result = fun _ : σ => True := by
  cases result <;> rfl

theorem either_intro (succeeded : ∀ value, result = .ok value → post value stage)
    (refused : ∀ reason, result = .error reason → failed reason stage) : either post failed result stage := by
  cases result with
  | ok value => exact succeeded value rfl
  | error reason => exact refused reason rfl

def wpe (rules : Rules σ Call Reply) (program : ExceptT ε (Program Call Reply) α) (post : α → σ → Prop)
    (failed : ε → σ → Prop) : σ → Prop :=
  program.run.wp rules (either post failed)

variable {program : ExceptT ε (Program Call Reply) α} {next : α → ExceptT ε (Program Call Reply) β} {permitted : Call → Prop}

theorem wpe_mono (holds : wpe rules program post failed stage)
    (weaken : ∀ value after, post value after → weaker value after) : wpe rules program weaker failed stage := by
  refine wp_mono holds fun result after reached => ?_
  cases result with
  | ok value => exact weaken value after reached
  | error reason => exact reached

@[simp]
theorem wpe_pure : wpe rules (pure value : ExceptT ε (Program Call Reply) α) post failed = post value := rfl

@[simp]
theorem wpe_mk {program : Program Call Reply (Except ε α)} :
    wpe rules (ExceptT.mk program) post failed = program.wp rules (either post failed) := rfl

@[simp]
theorem wpe_throw {reason : ε} :
    wpe rules (throw reason : ExceptT ε (Program Call Reply) α) post failed = failed reason := rfl

@[simp]
theorem wpe_consult {read : Reply call → Except ε α} :
    wpe rules (consult call read) post failed = fun stage => (rules call).pre stage ∧
      ∀ reply after, (rules call).post stage reply after → either post failed (read reply) after := rfl

@[simp]
theorem wpe_bind {post : β → σ → Prop} :
    wpe rules (program >>= next) post failed = wpe rules program (fun value => wpe rules (next value) post failed) failed := by
  refine wp_bind.trans ?_
  unfold wpe
  congr 1
  funext result
  cases result <;> rfl

theorem wpe_andThen {post : β → σ → Prop} {middle : α → σ → Prop} (first : wpe rules program middle failed stage)
    (rest : ∀ value after, middle value after → wpe rules (next value) post failed after) :
    wpe rules (program >>= next) post failed stage := by
  rw [wpe_bind]
  exact wpe_mono first rest

@[simp]
theorem wpe_map {post : β → σ → Prop} :
    wpe rules (function <$> program) post failed = wpe rules program (fun value => post (function value)) failed := by
  rw [map_eq_pure_bind, wpe_bind]
  rfl

@[simp]
theorem wpe_discard {post : PUnit → σ → Prop} :
    wpe rules (discard program) post failed = wpe rules program (fun _ => post ⟨⟩) failed := wpe_map

@[simp]
theorem wpe_lift {program : Program Call Reply α} :
    wpe rules (ExceptT.lift program : ExceptT ε (Program Call Reply) α) post failed = program.wp rules post :=
  wp_bind

@[simp]
theorem wpe_ite {condition : Prop} [Decidable condition] {first second : ExceptT ε (Program Call Reply) α} :
    wpe rules (if condition then first else second) post failed = fun stage =>
      (condition → wpe rules first post failed stage) ∧ (¬ condition → wpe rules second post failed stage) := by
  split <;> simp_all

variable {items : List α}

/-- One program for each item, all of which keep an invariant. -/
theorem wpe_forM {each : α → ExceptT ε (Program Call Reply) PUnit} (invariant : σ → Prop)
    (one : ∀ item ∈ items, ∀ stage, invariant stage → wpe rules (each item) (fun _ => invariant) failed stage)
    (start : invariant stage) : wpe rules (forM items each) (fun _ => invariant) failed stage := by
  induction items generalizing stage with
  | nil => exact start
  | cons item rest ih =>
    rw [List.forM_cons]
    refine wpe_andThen (one item List.mem_cons_self stage start) fun _ after kept => ?_
    exact ih (fun other member => one other (List.mem_cons_of_mem _ member)) kept

/-- One program for each item, none of which moves on. -/
theorem wpe_mapM {each : α → ExceptT ε (Program Call Reply) β} (holds : α → β → Prop)
    (one : ∀ item ∈ items, wpe rules (each item) (fun result after => after = stage ∧ holds item result) failed stage) :
    wpe rules (items.mapM each) (fun results after => after = stage ∧ List.Forall₂ holds items results) failed stage := by
  induction items with
  | nil => exact ⟨rfl, .nil⟩
  | cons item rest ih =>
    rw [List.mapM_cons]
    refine wpe_andThen (one item List.mem_cons_self) fun result after reached => ?_
    obtain ⟨rfl, first⟩ := reached
    refine wpe_andThen (ih fun other member => one other (List.mem_cons_of_mem _ member)) fun results last reached => ?_
    exact ⟨reached.1, .cons first reached.2⟩

/-- One program for each item: what is known of its result stays known while the later
ones learn more. -/
theorem wp_mapM {grows : σ → σ → Prop} (holds : α → β → σ → Prop) {each : α → Program Call Reply β}
    (refl : ∀ stage, grows stage stage)
    (trans : ∀ {first second third}, grows first second → grows second third → grows first third)
    (mono : ∀ item value before after, holds item value before → grows before after → holds item value after)
    (one : ∀ item ∈ items, ∀ stage,
      (each item).wp rules (fun value after => grows stage after ∧ holds item value after) stage) :
    (items.mapM each).wp rules
      (fun values after => grows stage after ∧ ∀ value ∈ values, ∃ item ∈ items, holds item value after) stage := by
  induction items generalizing stage with
  | nil => exact ⟨refl stage, by simp⟩
  | cons item rest ih =>
    rw [List.mapM_cons, wp_bind]
    refine wp_mono (one item List.mem_cons_self stage) fun value middle first => ?_
    rw [wp_bind]
    refine wp_mono (ih fun other member => one other (List.mem_cons_of_mem _ member)) fun values after later => ?_
    refine ⟨trans first.1 later.1, fun found member => ?_⟩
    rcases List.mem_cons.mp member with rfl | member
    · exact ⟨item, List.mem_cons_self, mono _ _ _ _ first.2 later.1⟩
    · obtain ⟨other, inside, known⟩ := later.2 found member
      exact ⟨other, List.mem_cons_of_mem _ inside, known⟩

theorem mapM_of_forall₂ {function : α → Option β} {results : List β}
    (each : List.Forall₂ (fun item result => function item = some result) items results) :
    items.mapM function = some results := by
  induction each with
  | nil => rfl
  | cons first _ ih => simp [first, ih]

/-- A program that keeps to rules keeps to others that ask for no more, and by which it
gets nowhere else, of the stages that are related. -/
theorem wp_of_related {τ : Type} {others : Rules τ Call Reply} (related : σ → τ → Prop) {program : Program Call Reply α}
    {final : α → τ → Prop} {other : τ} (holds : program.wp rules post stage) (start : related stage other)
    (permits : ∀ stage other call, related stage other → (rules call).pre stage → (others call).pre other)
    (moves : ∀ stage other call reply last, related stage other → (rules call).pre stage →
      (others call).post other reply last → ∃ after, (rules call).post stage reply after ∧ related after last)
    (ends : ∀ value stage other, related stage other → post value stage → final value other) :
    program.wp others final other := by
  induction program generalizing stage other with
  | done value => exact ends value stage other start holds
  | await call next ih =>
    refine ⟨permits stage other call start holds.1, fun reply last moved => ?_⟩
    obtain ⟨after, reached, still⟩ := moves stage other call reply last start holds.1 moved
    exact ih reply (holds.2 reply after reached) still

/-! ### Programs for any stage -/

/-- From any stage on, the program keeps to the rules, and returns only what `post` says. -/
@[simp]
abbrev Keeps (rules : Rules σ Call Reply) (program : ExceptT ε (Program Call Reply) α) (post : α → Prop) : Prop :=
  wpe rules program (fun value _ => post value) (fun _ _ => True) = fun _ => True

@[simp]
abbrev Heeds (rules : Rules σ Call Reply) (program : ExceptT ε (Program Call Reply) α) : Prop :=
  Keeps rules program fun _ => True

variable {middle : α → Prop} {final : β → Prop}

theorem Keeps.bind (first : Keeps rules program middle) (rest : ∀ value, middle value → Keeps rules (next value) final) :
    Keeps rules (program >>= next) final := by
  funext stage
  have starts : wpe rules program (fun value _ => middle value) (fun _ _ => True) stage := by rw [first]; trivial
  refine eq_true (wpe_andThen starts fun value after told => ?_)
  rw [rest value told]
  trivial

/-- The second part does not need to know what the first returns. -/
theorem Heeds.bind (first : Heeds rules program) (rest : ∀ value, Keeps rules (next value) final) :
    Keeps rules (program >>= next) final :=
  Keeps.bind first fun value _ => rest value

/-- Any call may be made, and any reply is possible. -/
@[simp]
abbrev anything : Rules Unit Call Reply := fun _ => { post _ _ _ := True }

theorem heeds_anything (program : ExceptT ε (Program Call Reply) α) : Heeds anything program := by
  funext stage
  refine eq_true ?_
  unfold wpe
  generalize program.run = plain
  induction plain with
  | done result => cases result <;> trivial
  | await call next ih => exact ⟨trivial, fun reply after _ => ih reply⟩

theorem Keeps.yields {post : α → Prop}
    (keeps : Keeps anything program post) (yields : program.run.Yields (.ok value)) : post value := by
  have holds := of_eq_true (congrFun keeps ())
  unfold wpe at holds
  generalize program.run = plain at holds yields
  induction plain with
  | done result =>
    subst yields
    exact holds
  | await call next ih =>
    obtain ⟨reply, returned⟩ := yields
    exact ih reply (holds.2 reply () trivial) returned

/-- Which calls may be made, and what is replied. -/
@[simp]
abbrev replying (permits : Call → Prop) (expects : (call : Call) → Reply call → Prop) : Rules Unit Call Reply :=
  fun call =>
    { pre _ := permits call
      post _ reply _ := expects call reply }

theorem Keeps.permit {permits more : Call → Prop} {expects : (call : Call) → Reply call → Prop}
    {post : α → Prop} (keeps : Keeps (replying permits expects) program post)
    (implies : ∀ call, permits call → more call) : Keeps (replying more expects) program post := by
  funext stage
  exact eq_true (wp_of_related Eq (of_eq_true (congrFun keeps stage)) rfl (fun _ _ call _ => implies call)
    (fun _ _ _ _ last _ _ expected => ⟨last, expected, rfl⟩) fun _ _ _ _ => id)

/-- Which calls may be made; any reply is possible. -/
@[simp]
abbrev permitting (permitted : Call → Prop) : Rules Unit Call Reply := replying permitted fun _ _ => True

/-- Where every reply is possible, each call meets its condition. -/
theorem heeds_of_wpe (invariant : σ → Prop) (holds : wpe rules program post failed stage) (start : invariant stage)
    (permits : ∀ stage call, invariant stage → (rules call).pre stage → permitted call)
    (total : ∀ stage call reply, invariant stage → ∃ after, (rules call).post stage reply after ∧ invariant after) :
    Heeds (permitting permitted) program := by
  funext other
  refine eq_true (wp_of_related (fun stage _ => invariant stage) holds start (fun stage _ => permits stage)
    (fun stage _ call reply _ kept _ _ => total stage call reply kept) fun result _ _ _ _ => ?_)
  cases result <;> trivial

/-- A program whose errors are looked at. -/
theorem Heeds.lift (heeds : Heeds (permitting permitted) program) :
    Heeds (permitting permitted) (ExceptT.lift program.run : ExceptT ε (Program Call Reply) (Except ε α)) := by
  funext stage
  rw [wpe_lift]
  exact eq_true (wp_mono (of_eq_true (congrFun heeds stage)) fun _ _ _ => trivial)

theorem Heeds.embed {Call' : Type} {Reply' : Call' → Type} {inject : Call → Call'}
    {read : (call : Call) → Reply' (inject call) → Reply call} {permitted : Call' → Prop}
    (heeds : Heeds (permitting fun call => permitted (inject call)) program) :
    Heeds (permitting permitted) (ExceptT.mk (program.run.embed inject read)) := by
  have holds := of_eq_true (congrFun heeds ())
  funext stage
  refine eq_true ?_
  unfold wpe at *
  change (program.run.embed inject read).wp _ _ _
  generalize program.run = plain at holds
  induction plain with
  | done result => exact holds
  | await call next ih => exact ⟨holds.1, fun reply _ _ => ih (read call reply) (holds.2 (read call reply) () trivial)⟩

/-- A program whose calls leave the stage as it is. -/
theorem Heeds.stays (heeds : Heeds (permitting permitted) program) (quiet : ∀ call, permitted call →
      (rules call).pre stage ∧ ∀ reply after, (rules call).post stage reply after → after = stage)
    (returned : ∀ value, post value stage) (stopped : ∀ reason, failed reason stage) :
    wpe rules program post failed stage := by
  refine wp_of_related (fun _ reached => reached = stage) (of_eq_true (congrFun heeds ())) rfl ?_ ?_ ?_
  · rintro _ _ call rfl permitted
    exact (quiet call permitted).1
  · rintro _ _ call reply last rfl permitted moved
    exact ⟨(), trivial, (quiet call permitted).2 reply last moved⟩
  · rintro result _ _ rfl _
    cases result with
    | ok value => exact returned value
    | error reason => exact stopped reason

/-! ### Disciplines -/

/-- A program that keeps to rules keeps to a discipline with the same calls that lets it
go where the rules do. -/
theorem obeys_of_wp {discipline : Discipline Call Reply} {rules : Rules discipline.Stage Call Reply}
    {program : Program Call Reply α} {post : α → discipline.Stage → Prop} {stage : discipline.Stage}
    (permits : ∀ stage call, (rules call).pre stage → discipline.permits stage call)
    (advances : ∀ stage call reply, discipline.expects stage call reply →
      ∃ after, (rules call).post stage reply after ∧ discipline.advance stage call reply after)
    (holds : program.wp rules post stage) : program.Obeys discipline post stage := by
  induction program generalizing stage with
  | done value => exact holds
  | await call next ih =>
    refine ⟨permits stage call holds.1, fun reply expected => ?_⟩
    obtain ⟨after, moved, advanced⟩ := advances stage call reply expected
    exact ⟨after, advanced, ih reply (holds.2 reply after moved)⟩

theorem Heeds.makes (heeds : Heeds (permitting permitted) program) : Makes permitted program.run :=
  obeys_of_wp (fun _ _ => id) (fun _ _ _ _ => ⟨(), trivial, trivial⟩)
    (wp_mono (of_eq_true (congrFun heeds ())) fun _ _ _ => trivial)

/-! ### Labels -/

variable {Label : Type}

/-- Every call carries the label of the program that makes it. -/
def labelled (rules : Label → Rules σ Call Reply) :
    Rules (Label × σ) (Label × Call) fun call => Reply call.2 := fun call =>
  { pre stage := call.1 = stage.1 ∧ (rules stage.1 call.2).pre stage.2
    post stage reply after := after.1 = stage.1 ∧ (rules stage.1 call.2).post stage.2 reply after.2 }

theorem wp_labelled {rules : Label → Rules σ Call Reply} {label : Label} {program : Program Call Reply α}
    (holds : program.wp (rules label) post stage) :
    (program.embed (fun call => (label, call)) (fun _ reply => reply) : Program (Label × Call) (fun call => Reply call.2) α).wp
      (labelled rules) (fun value after => post value after.2) (label, stage) := by
  induction program generalizing stage with
  | done value => exact holds
  | await call next ih =>
    refine ⟨⟨rfl, holds.1⟩, fun reply after moved => ?_⟩
    obtain ⟨_, after⟩ := after
    obtain ⟨rfl, moved⟩ := moved
    exact ih reply (holds.2 reply after moved)

/-! ### One program alone -/

/-- The rules of a service that nobody else uses. -/
def alone (serve : σ → (call : Call) → Reply call × σ) : Rules σ Call Reply := fun call =>
  { post stage reply after := reply = (serve stage call).1 ∧ after = (serve stage call).2 }

variable {serve : σ → (call : Call) → Reply call × σ}

@[simp]
theorem wpe_alone_consult {read : Reply call → Except ε α} :
    wpe (alone serve) (consult call read) post failed = fun stage =>
      either post failed (read (serve stage call).1) (serve stage call).2 := by
  funext stage
  simp [alone]

@[simp]
theorem wp_alone_request {post : Reply call → σ → Prop} :
    wp (alone serve) (request call) post = fun stage => post (serve stage call).1 (serve stage call).2 := by
  funext stage
  simp [alone]

theorem wp_alone {program : Program Call Reply α} (holds : program.wp (alone serve) post stage) :
    post (program.perform serve stage).result (program.perform serve stage).state := by
  induction program generalizing stage with
  | done value => exact holds
  | await call next ih => exact ih _ (holds.2 _ _ ⟨rfl, rfl⟩)

/-- It returns, and what it returns and leaves behind is as it should be. -/
theorem returns_of_wpe (holds : wpe (alone serve) program post (fun _ _ => False) stage) :
    ∃ value last calls, Returns serve program stage value last calls ∧ post value last := by
  have reached := wp_alone holds
  unfold Returns
  cases performed : program.run.perform serve stage with
  | mk result state calls =>
    rw [performed] at reached
    cases result with
    | ok value => exact ⟨value, state, calls, rfl, reached⟩
    | error reason => exact reached.elim

end Fold

end Program

end Banlieue.Data
