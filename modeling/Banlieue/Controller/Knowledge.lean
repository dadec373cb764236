import Banlieue.Controller.ControlPlane

namespace Banlieue.Controller

open Banlieue.Api Banlieue.Data Banlieue.Claim Banlieue.Pool

/-! # Invariants over all runs of the control plane

To show that something holds in every run it is enough to say what the server
keeps, what each stage of a claim's pass knows, and to check the calls a claim's
pass may make; everything else that happens is ambient.
-/

namespace Server

/-- What an answer says about the server it comes from. -/
def Answer (before after : Server) : (call : Call) → Reply call → Prop
  | .getVm name, .ok found => found = before.machines.get name
  | .listVms pool, .ok members => members = before.machines.listPool pool
  | .getPool name, .ok found => found = before.pools name
  | .patchVm name version patch, .ok _ => BindStep name version patch before after
  | .deleteVm name, .error reason => reason = .notFound → before.machines.get name = none
  | _, _ => True

variable {server after : Server} {name : String}

theorem patchVm_ok {version : Nat} {patch : MemberPatch} {value : Unit}
    (replied : (server.patchVm name version patch).1 = .ok value) :
    BindStep name version patch server (server.patchVm name version patch).2 := by
  unfold patchVm at replied ⊢
  split at replied
  · contradiction
  · rename_i object found
    split at replied
    · rename_i current
      subst current
      simp only [if_true]
      exact bindStep_patched found
    · contradiction

theorem deleteVm_notFound
    (replied : (server.deleteVm name).1 = .error .notFound) : server.machines.get name = none := by
  unfold deleteVm Machines.delete at replied
  cases found : server.machines.get name with
  | none => rfl
  | some object => simp [found] at replied

theorem serve_answer (server : Server) (choice : Choice) (call : Call) :
    Answer server (server.serve choice call).2 call (server.serve choice call).1 := by
  cases call with
  | getVm name | listVms pool | getPool name =>
    generalize reply : (server.serve choice _).1 = answer
    cases answer with
    | error reason => trivial
    | ok value =>
      obtain ⟨-, carriedOut⟩ := Delivery.outcome_reply reply nofun
      cases carriedOut
      rfl
  | patchVm name version patch =>
    generalize reply : (server.serve choice _).1 = answer
    cases answer with
    | error reason => trivial
    | ok value =>
      obtain ⟨same, carriedOut⟩ := Delivery.outcome_reply reply nofun
      have bound := patchVm_ok carriedOut
      rw [← same] at bound
      exact bound
  | deleteVm name =>
    generalize reply : (server.serve choice _).1 = answer
    cases answer with
    | ok value => trivial
    | error reason =>
      rintro rfl
      obtain ⟨-, carriedOut⟩ := Delivery.outcome_reply reply nofun
      exact deleteVm_notFound carriedOut
  | now | createVm | applyPoolStatus | getImage | patchFinalizers | patchClaimStatus
  | deleteClaim => trivial

theorem expects_of_answer {stage : Stage} {call : Call} {reply : Reply call}
    (answered : Answer server after call reply) : discipline.expects stage call reply := by
  cases call with
  | getPool name =>
    match reply with
    | .ok (some pool) => exact server.poolsNamed name pool answered.symm
    | .ok none => trivial
    | .error reason => trivial
  | now | getVm | listVms | patchVm | deleteVm | createVm | applyPoolStatus | getImage
  | patchFinalizers | patchClaimStatus | deleteClaim => trivial

theorem disturbed_of_pool_call {listed : Option (List VirtualMachine)}
    {call : Call} (permitted : call.PermittedToPool name listed)
    (effect : Effect server after call) : Disturbed server after := by
  cases call with
  | now | getImage | listVms | applyPoolStatus => exact .quiet (Same.quiet effect)
  | deleteVm name => exact .quiet effect
  | createVm vm => exact .quiet ⟨effect.1 permitted, effect.2.1, effect.2.2⟩
  | getVm | patchVm | getPool | patchFinalizers | patchClaimStatus | deleteClaim =>
    exact permitted.elim

end Server

/-! ## Guarded runs -/

/-- Conditions on the steps of a run: on the copies passes of a claim start from,
and on the moment a call of theirs is served. -/
structure Guards where
  start : Server → String → VirtualMachineClaim → Prop := fun _ _ _ => True
  grant : Server → String → Call → Prop := fun _ _ _ => True

def Guards.Allows (guards : Guards) (state : controlPlane.State) : controlPlane.Event → Prop
  | .launch (.claim name) (.copy version) =>
    ∀ copy ∈ (Server.claims state.service |>.copies name)[version]?,
      guards.start state.service name copy
  | .serve (.claim name) _ =>
    Program.AtCall (guards.grant state.service name) (state.running (.claim name))
  | _ => True

theorem Guards.allows_all (state : controlPlane.State) (event : controlPlane.Event) :
    ({} : Guards).Allows state event := by
  match event with
  | .launch (.claim _) (.copy _) => exact fun _ _ => trivial
  | .serve (.claim name) _ =>
    dsimp only [Allows, Program.AtCall]
    split <;> trivial
  | .launch (.claim _) (.pool _) | .launch (.pool _) _ | .serve (.pool _) _ | .crash _
  | .disturb _ => trivial

instance Guards.decidable (guards : Guards)
    [start : ∀ server name copy, Decidable (guards.start server name copy)]
    [grant : ∀ server name, DecidablePred (guards.grant server name)]
    (state : controlPlane.State) :
    (event : controlPlane.Event) → Decidable (guards.Allows state event)
  | .launch (.claim name) (.copy _) =>
    @Option.decidableForallMem _ _ (start state.service name) _
  | .serve (.claim name) _ =>
    @Program.AtCall.decidable _ _ _ _ (grant state.service name) _
  | .launch (.claim _) (.pool _) | .launch (.pool _) _ | .serve (.pool _) _ | .crash _
  | .disturb _ => .isTrue trivial

/-- What the server keeps, and what a claim's pass knows at each stage. -/
structure Knowledge where
  invariant : Server → Prop
  knows : String → VirtualMachineClaim → Progress → Server → Prop

namespace Knowledge

variable (knowledge : Knowledge)

def Means (task : controlPlane.Task) (stage : Stage) (server : Server) : Prop :=
  match task, stage with
  | .claim name, .claim copy progress =>
    copy ∈ server.claims.copies name ∧ knowledge.knows name copy progress server
  | .pool name, .pool listing _ => listing = name
  | _, _ => False

/-- A call of a claim's pass, as it is served. -/
structure OwnCall (guards : Guards) (name : String) (copy : VirtualMachineClaim)
    (progress : Progress) (server after : Server) (call : Call) (reply : Reply call) : Prop where
  copy_mem : copy ∈ server.claims.copies name
  permitted : call.PermittedToClaim copy progress
  granted : guards.grant server name call
  effect : Server.Effect server after call
  answer : Server.Answer server after call reply

structure Sound (guards : Guards) : Prop where
  started : ∀ {server name copy}, knowledge.invariant server →
    copy ∈ server.claims.copies name → guards.start server name copy →
    knowledge.knows name copy .started server
  own : ∀ {server after name copy progress call reply}, knowledge.invariant server →
    knowledge.knows name copy progress server →
    OwnCall guards name copy progress server after call reply →
    knowledge.invariant after ∧
      ∀ next, progress.After call reply next → knowledge.knows name copy next after
  ambient : ∀ {server after}, knowledge.invariant server → Server.Disturbed server after →
    knowledge.invariant after
  stable : ∀ {server after name copy progress}, knowledge.invariant server →
    copy ∈ server.claims.copies name → knowledge.knows name copy progress server →
    Server.Disturbed server after → knowledge.knows name copy progress after
  apart : ∀ {server after name copy progress other otherCopy otherProgress call reply},
    knowledge.invariant server → copy ∈ server.claims.copies name →
    knowledge.knows name copy progress server → other ≠ name →
    knowledge.knows other otherCopy otherProgress server →
    OwnCall guards other otherCopy otherProgress server after call reply →
    knowledge.knows name copy progress after

end Knowledge

/-! ## Copies stay -/

namespace Server

variable {server after : Server} {name : String} {copy : VirtualMachineClaim}
  (member : copy ∈ server.claims.copies name)

include member

theorem ClaimStep.copies {written : String} {change : VirtualMachineClaim → VirtualMachineClaim}
    (step : ClaimStep written change server after) : copy ∈ after.claims.copies name := by
  obtain ⟨live, -, record⟩ := step.written
  exact (Claims.mem_copies_put record).mpr (.inl member)

theorem Disturbed.copies (disturbed : Disturbed server after) : copy ∈ after.claims.copies name := by
  cases disturbed with
  | quiet step =>
    rw [step.claims]
    exact member
  | deleteClaim written step => exact step.copies member
  | newClaim claim machines binds unused unbound kept record =>
    exact (Claims.mem_copies_put record).mpr (.inl member)

theorem Effect.copies {call : Call} (effect : Effect server after call) : copy ∈ after.claims.copies name := by
  cases effect.change with
  | quiet step | bound step =>
    rw [step.claims]
    exact member
  | created _ claims =>
    rw [claims]
    exact member
  | finalizers step | status step | marked step => exact step.copies member

omit member

end Server

/-! ## Labels stay -/

/-- No machine is newly labelled for the claim. -/
def Server.LabelsKept (claim : String) (before after : Server) : Prop :=
  ∀ member object, after.machines.get member = some object →
    object.value.claimLabel = some claim →
    ∃ old, before.machines.get member = some old ∧ old.value.claimLabel = some claim ∧
      object.value.poolLabel = old.value.poolLabel ∧
      (old.value.deleting = true → object.value.deleting = true)

namespace Server

variable {server after : Server} {claim : String}

theorem LabelsKept.quiet (quiet : server.machines.Quiet after.machines) : LabelsKept claim server after := by
  intro member object found labelled
  rcases quiet.inherits member object found with ⟨free, -⟩ | ⟨old, stored, label, pool, deleted⟩
  · rw [free] at labelled
    contradiction
  · exact ⟨old, stored, label.symm.trans labelled, pool, deleted⟩

theorem LabelsKept.machines (same : after.machines = server.machines) : LabelsKept claim server after :=
  .quiet (same ▸ .refl _)

theorem LabelsKept.bindStep {name : String} {version : Nat} {patch : MemberPatch}
    (step : BindStep name version patch server after) (different : claim ≠ patch.claim) :
    LabelsKept claim server after := by
  intro member object found labelled
  rcases step.get found with ⟨rfl, old, -, -, patched⟩ | ⟨-, stored⟩
  · rw [patched, MemberPatch.apply_claimLabel] at labelled
    exact absurd (Option.some.inj labelled).symm different
  · exact ⟨object, stored, labelled, rfl, id⟩

theorem Disturbed.labelsKept (disturbed : Disturbed server after) : LabelsKept claim server after := by
  cases disturbed with
  | quiet step => exact .quiet step.machines
  | newClaim claim machines => exact .machines machines
  | deleteClaim claim step => exact .machines step.machines

end Server

/-- Machines that exist stay in their pools. -/
structure Server.PoolsKept (before after : Server) : Prop where
  names : ∀ member ∈ before.machines.names, member ∈ after.machines.names
  pools : ∀ member ∈ before.machines.names, ∀ object, after.machines.get member = some object →
    ∃ old, before.machines.get member = some old ∧ object.value.poolLabel = old.value.poolLabel

namespace Server

variable {server after : Server}

theorem PoolsKept.quiet (quiet : server.machines.Quiet after.machines) : PoolsKept server after where
  names := quiet.names
  pools := by
    intro member given object found
    rcases quiet.inherits member object found with ⟨-, fresh⟩ | ⟨old, stored, -, pool, -⟩
    · exact absurd given fresh
    · exact ⟨old, stored, pool⟩

theorem PoolsKept.machines (same : after.machines = server.machines) : PoolsKept server after :=
  .quiet (same ▸ .refl _)

theorem PoolsKept.bindStep {name : String} {version : Nat} {patch : MemberPatch}
    (step : BindStep name version patch server after) : PoolsKept server after where
  names := by
    rw [step.names]
    exact fun _ given => given
  pools := by
    intro member _ object found
    rcases step.get found with ⟨rfl, old, stored, -, patched⟩ | ⟨-, stored⟩
    · rw [patched]
      exact ⟨old, stored, MemberPatch.apply_poolLabel patch old.value⟩
    · exact ⟨object, stored, rfl⟩

theorem Disturbed.poolsKept (disturbed : Disturbed server after) : PoolsKept server after := by
  cases disturbed with
  | quiet step => exact .quiet step.machines
  | newClaim claim machines => exact .machines machines
  | deleteClaim claim step => exact .machines step.machines

end Server

variable {call : Call} {server : Server} {reply : Reply call}
  {guards : Guards} {name : String} {copy : VirtualMachineClaim} {progress : Progress} {after : Server}

theorem Knowledge.OwnCall.poolsKept (served : OwnCall guards name copy progress server after call reply) :
    Server.PoolsKept server after := by
  cases served.effect.change with
  | quiet step => exact .quiet step.machines
  | created => exact served.permitted.elim
  | bound step => exact .bindStep step
  | finalizers step | status step | marked step => exact .machines step.machines

theorem Knowledge.OwnCall.labelsKept
    (served : OwnCall guards name copy progress server after call reply) (claim : String) :
    Server.LabelsKept claim server after ∨ claim = name ∧ ∃ member version patch, call = .patchVm member version patch ∧
        Server.BindStep member version patch server after := by
  have own : copy.name = name := server.claims.named name copy served.copy_mem
  cases served.effect.change with
  | quiet step => exact .inl (.quiet step.machines)
  | created => exact served.permitted.elim
  | @bound member version patch step =>
    by_cases mine : claim = name
    · exact .inr ⟨mine, member, version, patch, rfl, step⟩
    · exact .inl (.bindStep step (by rwa [served.permitted.2.1, own]))
  | finalizers step | status step | marked step => exact .inl (.machines step.machines)

/-! ## The invariant rule -/

namespace Knowledge

variable {knowledge : Knowledge} {guards : Guards}

/-- The assertion every running pass is carried with. -/
abbrev Asserts (knowledge : Knowledge) (task : controlPlane.Task)
    (program : Program Call Reply controlPlane.Result) (server : controlPlane.Service) : Prop :=
  Machine.Disciplined (fun _ => discipline) knowledge.Means task program server

variable {program : Program Call Reply (Except Error Action)} {task : Task}

theorem Sound.launched (sound : knowledge.Sound guards) {input : Input} (holds : knowledge.invariant server)
    (allowed : ∀ name version, task = .claim name → input = .copy version →
      ∀ copy ∈ (server.claims.copies name)[version]?, guards.start server name copy)
    (launched : launch server task input = some program) : knowledge.Asserts task program server := by
  match task, input with
  | .claim name, .copy version =>
    simp only [launch, Option.map_eq_some_iff] at launched
    obtain ⟨copy, found, rfl⟩ := launched
    have member : copy ∈ server.claims.copies name := List.mem_of_getElem? found
    have started := sound.started holds member (allowed name version rfl rfl copy found)
    refine ⟨.claim copy .started, ⟨member, started⟩, ?_⟩
    exact claim_reconcile_obeys copy
  | .pool name, .pool pool =>
    obtain ⟨⟨named, unlabelled⟩, rfl⟩ := launch_pool server launched
    refine ⟨.pool pool.name none, named, ?_⟩
    exact pool_reconcile_obeys unlabelled
  | .claim _, .pool _ => simp [launch] at launched
  | .pool _, .copy _ => simp [launch] at launched

variable {next : Reply call → Program Call Reply (Except Error Action)} {choice : Server.Choice}
  (sound : knowledge.Sound guards)

include sound

variable (holds : knowledge.invariant server)

include holds

theorem Sound.served (granted : ∀ name, task = .claim name → guards.grant server name call)
    (asserted : knowledge.Asserts task (.await call next) server) : knowledge.invariant (server.serve choice call).2 ∧
      knowledge.Asserts task (next (server.serve choice call).1) (server.serve choice call).2 := by
  obtain ⟨stage, meant, permitted, rest⟩ := asserted
  have effect := server.serve_effect choice call
  have answer := server.serve_answer choice call
  obtain ⟨later, advanced, obeyed⟩ := rest _ (Server.expects_of_answer answer)
  match task, stage with
  | .claim name, .claim copy progress =>
    obtain ⟨member, known⟩ := meant
    obtain ⟨reached, rfl, moved⟩ := advanced
    obtain ⟨kept, knows⟩ := sound.own holds known ⟨member, permitted, granted name rfl, effect, answer⟩
    exact ⟨kept, .claim copy reached, ⟨effect.copies member, knows reached moved⟩, obeyed⟩
  | .pool _, .pool _ _ =>
    cases advanced
    have kept := sound.ambient holds (Server.disturbed_of_pool_call permitted effect)
    exact ⟨kept, _, meant, obeyed⟩
  | .claim _, .pool _ _ => exact meant.elim
  | .pool _, .claim _ _ => exact meant.elim

theorem Asserts.disturbed {after : Server} (disturbed : Server.Disturbed server after)
    (asserted : knowledge.Asserts task program server) : knowledge.Asserts task program after := by
  apply Machine.Disciplined.stable _ _ asserted
  intro stage meant
  match task, stage with
  | .claim name, .claim copy progress =>
    obtain ⟨member, known⟩ := meant
    exact ⟨disturbed.copies member, sound.stable holds member known disturbed⟩
  | .pool _, .pool _ _ => exact meant
  | .claim _, .pool _ _ => exact meant.elim
  | .pool _, .claim _ _ => exact meant.elim

theorem Sound.undisturbed {other : Task} (granted : ∀ name, task = .claim name → guards.grant server name call)
    (asserted : knowledge.Asserts task (.await call next) server) (different : other ≠ task)
    (standing : knowledge.Asserts other program server) :
    knowledge.Asserts other program (server.serve choice call).2 := by
  obtain ⟨stage, meant, permitted, -⟩ := asserted
  have effect := server.serve_effect choice call
  match task, stage with
  | .pool _, .pool _ _ =>
    exact Asserts.disturbed sound holds (Server.disturbed_of_pool_call permitted effect) standing
  | .claim name, .claim copy progress =>
    obtain ⟨member, known⟩ := meant
    apply Machine.Disciplined.stable _ _ standing
    intro stage meant
    match other, stage with
    | .claim otherName, .claim otherCopy otherProgress =>
      obtain ⟨otherMember, otherKnown⟩ := meant
      have apart : name ≠ otherName := fun same => different (by rw [same])
      exact ⟨effect.copies otherMember, sound.apart holds otherMember otherKnown apart known
          ⟨member, permitted, granted name rfl, effect, server.serve_answer choice call⟩⟩
    | .pool _, .pool _ _ => exact meant
    | .claim _, .pool _ _ => exact meant.elim
    | .pool _, .claim _ _ => exact meant.elim
  | .claim _, .pool _ _ => exact meant.elim
  | .pool _, .claim _ _ => exact meant.elim

omit holds

omit sound

theorem Guards.granted {state : controlPlane.State} (allowed : guards.Allows state (.serve task choice))
    (active : state.running task = some (.await call next)) (name : String)
    (same : task = .claim name) : guards.grant state.service name call := by
  subst same
  simp only [Guards.Allows] at allowed
  rw [active] at allowed
  exact allowed

theorem Sound.inductive (sound : knowledge.Sound guards) :
    Machine.Inductive guards.Allows knowledge.invariant knowledge.Asserts where
  launched := by
    intro state task input program holds allowed _ launched
    refine sound.launched holds.1 ?_ launched
    rintro name version rfl rfl
    exact allowed
  served := by
    intro state task choice call next holds allowed active
    exact sound.served holds.1 (Guards.granted allowed active) (holds.2 task _ active)
  undisturbed := by
    intro state task choice call next other program holds allowed active different standing
    exact sound.undisturbed holds.1 (Guards.granted allowed active) (holds.2 task _ active)
      different (holds.2 other program standing)
  disturbed := by
    intro state disturbance server holds _ changed
    have disturbed := Server.disturb_effect changed
    refine ⟨sound.ambient holds.1 disturbed, ?_⟩
    intro task program active
    exact Asserts.disturbed sound holds.1 disturbed (holds.2 task program active)

end Knowledge

end Banlieue.Controller
