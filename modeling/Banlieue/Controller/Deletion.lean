import Banlieue.Controller.Knowledge

namespace Banlieue.Controller

open Banlieue.Api Banlieue.Data

/-! # Claimed members are left to their claims

A pool's pass decides on a list and deletes one member after the other, without
another look.  A member it has decided to delete is doomed until the pass gets
there or ends.
-/

/-- The program may still delete the member without listing again. -/
inductive Doomed {α : Type} (member : String) : Program Call Reply α → Prop where
  | next {continuation : Reply (.deleteVm member) → Program Call Reply α} :
      Doomed member (.await (.deleteVm member) continuation)
  | later {call : Call} {continuation : Reply call → Program Call Reply α}
      (unlisted : ∀ pool, call ≠ .listVms pool) (reply : Reply call)
      (rest : Doomed member (continuation reply)) : Doomed member (.await call continuation)

section Pool

variable {name member : String} {listed : Option (List VirtualMachine)} {α : Type}
  {call : Call} {post : α → Stage → Prop}

theorem listedAfter_eq (unlisted : ∀ pool, call ≠ .listVms pool)
    (reply : Reply call) : ListedAfter listed call reply = listed := by
  cases call with
  | listVms pool => exact absurd rfl (unlisted pool)
  | now | getVm | patchVm | deleteVm | createVm | getPool | applyPoolStatus | getImage
  | patchFinalizers | patchClaimStatus | deleteClaim => rfl

theorem expects_of_pool (permitted : call.PermittedToPool name listed)
    (reply : Reply call) : discipline.expects (.pool name listed) call reply := by
  cases call with
  | getPool => exact permitted.elim
  | now | getVm | listVms | patchVm | deleteVm | createVm | applyPoolStatus | getImage
  | patchFinalizers | patchClaimStatus | deleteClaim => trivial

theorem Doomed.was_listed {program : Program Call Reply α}
    (doomed : Doomed member program) (obeyed : program.Obeys discipline post (.pool name listed)) :
    ∃ members ∈ listed, ∃ vm ∈ members, vm.name = member ∧ vm.claimLabel = none := by
  induction doomed with
  | next => exact obeyed.1
  | @later call continuation unlisted reply _ ih =>
    obtain ⟨_, rfl, rest⟩ := obeyed.2 reply (expects_of_pool obeyed.1 reply)
    rw [listedAfter_eq unlisted reply] at rest
    exact ih rest

/-- Every doomed member that still exists is a free member of the pool. -/
def Spared (name : String) (program : Program Call Reply α) (server : Server) : Prop :=
  ∀ member, Doomed member program → member ∈ server.machines.names ∧
    ∀ object, server.machines.get member = some object →
      object.value.claimLabel = none ∧ object.value.poolLabel = some name

variable {program : Program Call Reply α} {server after : Server}

theorem spared_of_listPool (obeyed : program.Obeys discipline post
      (.pool name (some (server.machines.listPool name)))) : Spared name program server := by
  intro member doomed
  obtain ⟨_, ⟨⟩, vm, inside, rfl, unlabelled⟩ := doomed.was_listed obeyed
  obtain ⟨object, stored, rfl, own⟩ := Machines.mem_listPool.mp inside
  refine ⟨Machines.mem_names stored, ?_⟩
  intro current present
  rw [stored] at present
  cases present
  exact ⟨unlabelled, own⟩

variable (spared : Spared name program server)

include spared

theorem Spared.quiet (quiet : server.machines.Quiet after.machines) : Spared name program after := by
  intro member doomed
  obtain ⟨given, free⟩ := spared member doomed
  refine ⟨quiet.names member given, ?_⟩
  intro object found
  rcases quiet.inherits member object found with ⟨-, fresh⟩ | ⟨old, stored, claim, pool, -⟩
  · exact absurd given fresh
  · obtain ⟨unlabelled, own⟩ := free old stored
    exact ⟨claim.trans unlabelled, pool.trans own⟩

theorem Spared.machines (same : after.machines = server.machines) : Spared name program after :=
  spared.quiet (same ▸ .refl _)

theorem Spared.disturbed (disturbed : Server.Disturbed server after) : Spared name program after := by
  cases disturbed with
  | quiet step => exact spared.quiet step.machines
  | newClaim claim machines => exact spared.machines machines
  | deleteClaim claim step => exact spared.machines step.machines

theorem Spared.bindStep {version : Nat} {patch : MemberPatch} (step : Server.BindStep member version patch server after)
    (undoomed : ∀ object, server.machines.get member = some object →
      object.value.poolLabel = some name → ¬ Doomed member program) : Spared name program after := by
  intro other doomed
  obtain ⟨given, free⟩ := spared other doomed
  refine ⟨step.names ▸ given, ?_⟩
  intro object found
  rcases step.get found with ⟨rfl, old, stored, -⟩ | ⟨-, stored⟩
  · exact absurd doomed (undoomed old stored (free old stored).2)
  · exact free object stored

omit spared

end Pool

/-! ## Runs without a bind of a doomed member -/

/-- A bind patch arrives only while no pass of the member's pool has decided to
delete the member. -/
def UndoomedBind (state : controlPlane.State) : Call → Prop
  | .patchVm member _ _ => ∀ object ∈ (Server.machines state.service).get member,
      ∀ pool ∈ object.value.poolLabel, ∀ program ∈ state.running (.pool pool),
        ¬ Doomed member program
  | _ => True

def Undoomed (state : controlPlane.State) : controlPlane.Event → Prop
  | .serve (.claim name) _ => Program.AtCall (UndoomedBind state) (state.running (.claim name))
  | _ => True

/-- All passes keep to the discipline; nothing more has to be known of claims. -/
def disciplined : Knowledge where
  invariant _ := True
  knows _ _ _ _ := True

theorem disciplined_sound : disciplined.Sound {} where
  started := fun _ _ _ => trivial
  own := fun _ _ _ => ⟨trivial, fun _ _ => trivial⟩
  ambient := fun _ _ => trivial
  stable := fun _ _ _ _ => trivial
  apart := fun _ _ _ _ _ _ => trivial

def PoolSpares (task : controlPlane.Task) (program : Program Call Reply controlPlane.Result)
    (server : controlPlane.Service) : Prop :=
  disciplined.Asserts task program server ∧
    match task with
    | .pool name => Spared name program server
    | .claim _ => True

section Steps

variable {server : Server} {choice : Server.Choice} {call : Call}
  {next : Reply call → Program Call Reply (Except Error Action)}
  {name : String} {program : Program Call Reply (Except Error Action)}

theorem spared_served (asserted : disciplined.Asserts (Task.pool name) (.await call next) server)
    (spared : Spared name (.await call next) server) :
    Spared name (next (server.serve choice call).1) (server.serve choice call).2 := by
  obtain ⟨stage, meant, permitted, rest⟩ := asserted
  match stage with
  | .claim _ _ => exact meant.elim
  | .pool listing listed =>
    cases meant
    have answer := server.serve_answer choice call
    have effect := server.serve_effect choice call
    obtain ⟨_, rfl, obeyed⟩ := rest _ (Server.expects_of_answer answer)
    by_cases listing : ∃ pool, call = .listVms pool
    · obtain ⟨pool, rfl⟩ := listing
      cases permitted
      generalize (server.serve choice (.listVms name)).1 = reply at answer obeyed
      match reply with
      | .error _ =>
        intro member doomed
        obtain ⟨members, nothing, -⟩ := doomed.was_listed obeyed
        contradiction
      | .ok members =>
        subst answer
        exact (spared_of_listPool obeyed).machines effect.machines
    · have unlisted : ∀ pool, call ≠ .listVms pool := fun pool same => listing ⟨pool, same⟩
      have before : Spared name (next (server.serve choice call).1) server :=
        fun member doomed => spared member (.later unlisted _ doomed)
      exact before.disturbed (Server.disturbed_of_pool_call permitted effect)

theorem spared_of_claim {claim : String} (asserted : disciplined.Asserts (Task.claim claim) (.await call next) server)
    (undoomed : ∀ member version patch, call = .patchVm member version patch →
      ∀ object, server.machines.get member = some object → object.value.poolLabel = some name → ¬ Doomed member program)
    (spared : Spared name program server) : Spared name program (server.serve choice call).2 := by
  obtain ⟨stage, meant, permitted, -⟩ := asserted
  match stage with
  | .pool _ _ => exact meant.elim
  | .claim copy progress =>
    cases (server.serve_effect choice call).change with
    | quiet step => exact spared.quiet step.machines
    | created => exact permitted.elim
    | bound step => exact spared.bindStep step (undoomed _ _ _ rfl)
    | finalizers step | status step | marked step => exact spared.machines step.machines

theorem spared_of_other {state : controlPlane.State} {task : Task} (allowed : Undoomed state (.serve task choice))
    (active : state.running task = some (.await call next))
    (asserted : disciplined.Asserts task (.await call next) state.service)
    (standing : state.running (.pool name) = some program) (spared : Spared name program state.service) :
    Spared name program (Server.serve state.service choice call).2 := by
  cases task with
  | pool other =>
    obtain ⟨stage, meant, permitted, -⟩ := asserted
    match stage with
    | .claim _ _ => exact meant.elim
    | .pool _ _ =>
      exact spared.disturbed (Server.disturbed_of_pool_call permitted (Server.serve_effect _ choice call))
  | claim claim =>
    simp only [Undoomed] at allowed
    rw [active] at allowed
    refine spared_of_claim asserted ?_ spared
    rintro member version patch rfl object found own
    exact allowed object found name own program standing

end Steps

theorem poolSpares_inductive : Machine.Inductive Undoomed (fun _ => True) PoolSpares where
  launched := by
    intro state task input program _ _ _ launched
    have asserted := disciplined_sound.launched trivial (fun _ _ _ _ _ _ => trivial) launched
    refine ⟨asserted, ?_⟩
    match task, input with
    | .claim name, _ => trivial
    | .pool name, .copy _ => cases launched
    | .pool name, .pool pool =>
      obtain ⟨⟨-, unlabelled⟩, rfl⟩ := launch_pool state.service launched
      intro member doomed
      obtain ⟨members, listed, -⟩ := doomed.was_listed (pool_reconcile_obeys unlabelled)
      contradiction
  served := by
    intro state task choice call next holds allowed active
    obtain ⟨asserted, spared⟩ := holds.2 task _ active
    refine ⟨trivial, (disciplined_sound.served trivial (fun _ _ => trivial) asserted).2, ?_⟩
    match task with
    | .claim name => trivial
    | .pool name => exact spared_served asserted spared
  undisturbed := by
    intro state task choice call next other program holds allowed active different standing
    obtain ⟨asserted, -⟩ := holds.2 task _ active
    obtain ⟨otherAsserted, spared⟩ := holds.2 other program standing
    refine ⟨disciplined_sound.undisturbed trivial (fun _ _ => trivial) asserted different otherAsserted, ?_⟩
    match other with
    | .claim name => trivial
    | .pool name => exact spared_of_other allowed active asserted standing spared
  disturbed := by
    intro state disturbance server holds _ changed
    have disturbed := Server.disturb_effect changed
    refine ⟨trivial, ?_⟩
    intro task program active
    obtain ⟨asserted, spared⟩ := holds.2 task program active
    refine ⟨Knowledge.Asserts.disturbed disciplined_sound trivial disturbed asserted, ?_⟩
    match task with
    | .claim name => trivial
    | .pool name => exact spared.disturbed disturbed

def pendingDelete (state : controlPlane.State) (pool : String) : Option String :=
  match state.running (.pool pool) with
  | some (.await (.deleteVm member) _) => some member
  | _ => none

theorem pendingDelete_eq {state : controlPlane.State} {pool member : String}
    (pending : pendingDelete state pool = some member) :
    ∃ next, state.running (.pool pool) = some (.await (.deleteVm member) next) := by
  unfold pendingDelete at pending
  split at pending
  · rename_i next running
    cases pending
    exact ⟨next, running⟩
  · contradiction

/-- In every run that binds no doomed member, no delete of a pool's pass reaches a
machine with a claim label. -/
theorem pool_deletes_unclaimed (start : Server) (events : List controlPlane.Event)
    (last : controlPlane.State)
    (run : Machine.Run Undoomed (Machine.State.idle start) events last)
    (pool member : String) (pending : pendingDelete last pool = some member)
    (object : Versioned VirtualMachine)
    (found : (Server.machines last.service).get member = some object) :
    object.value.claimLabel = none := by
  obtain ⟨next, running⟩ := pendingDelete_eq pending
  have holds := poolSpares_inductive.run run (Machine.holds_idle trivial)
  obtain ⟨-, spared⟩ := holds.2 (Task.pool pool) _ running
  exact ((spared member .next).2 object found).1

/-! ## A bind between the plan and the delete -/

structure DeleteView where
  pending : Option String
  label : Option String
  deleting : Option Bool
deriving DecidableEq

def deleteView (state : controlPlane.State) (member : String) : DeleteView where
  pending := pendingDelete state "web"
  label := (Server.machines state.service).get member |>.bind fun object => object.value.claimLabel
  deleting := (Server.machines state.service).get member |>.map fun object => object.value.deleting

/-- The pool has been scaled to nothing and its pass is about to delete the only
member when claim `a` binds it; the delete then marks the claimed machine. -/
theorem pool_deletes_claimed :
    ∃ middle last : controlPlane.State,
      Machine.Run (fun _ _ => True) (Machine.State.idle (webCluster 0))
        ([createClaim "a", startPool 0] ++ answer (.pool "web") 3 ++
          [startClaim "a" 0] ++ answer (.claim "a") 9) middle ∧
      Machine.Run (fun _ _ => True) middle (answer (.pool "web") 1) last ∧
      deleteView middle "web-1" = ⟨some "web-1", some "a", some false⟩ ∧
      deleteView last "web-1" = ⟨none, some "a", some true⟩ := by
  have seen : ((Machine.State.idle (webCluster 0) : controlPlane.State).exec
      ([createClaim "a", startPool 0] ++ answer (.pool "web") 3 ++
        [startClaim "a" 0] ++ answer (.claim "a") 9)).bind
      (fun middle => (middle.exec (answer (.pool "web") 1)).map fun last =>
        (deleteView middle "web-1", deleteView last "web-1")) =
      some (⟨some "web-1", some "a", some false⟩, ⟨none, some "a", some true⟩) := by
    decide +kernel
  simp only [Option.bind_eq_some_iff, Option.map_eq_some_iff] at seen
  obtain ⟨middle, first, last, second, views⟩ := seen
  rw [Prod.mk.injEq] at views
  exact ⟨middle, last, .of_exec first, .of_exec second, views.1, views.2⟩

/-- Binds that wait for the pool's pass to end. -/
def PatientBind (state : controlPlane.State) : Call → Prop
  | .patchVm member _ _ => ∀ object ∈ (Server.machines state.service).get member,
      ∀ pool ∈ object.value.poolLabel, (state.running (.pool pool)).isNone = true
  | _ => True

def Patient (state : controlPlane.State) : controlPlane.Event → Prop
  | .serve (.claim name) _ => Program.AtCall (PatientBind state) (state.running (.claim name))
  | _ => True

instance (state : controlPlane.State) : DecidablePred (PatientBind state)
  | .patchVm _ _ _ => inferInstanceAs (Decidable (∀ object ∈ _, ∀ pool ∈ _, _ = true))
  | .now | .listVms _ | .getVm _ | .deleteVm _ | .createVm _ | .getPool _
  | .applyPoolStatus _ _ | .getImage _ | .patchFinalizers _ _ | .patchClaimStatus _ _
  | .deleteClaim _ => .isTrue trivial

instance (state : controlPlane.State) : DecidablePred (Patient state)
  | .serve (.claim _) _ => inferInstanceAs (Decidable (Program.AtCall _ _))
  | .serve (.pool _) _ | .launch _ _ | .crash _ | .disturb _ => .isTrue trivial

theorem undoomed_of_patient (state : controlPlane.State) (event : controlPlane.Event)
    (patient : Patient state event) : Undoomed state event := by
  match event with
  | .serve (.claim name) choice =>
    simp only [Undoomed, Patient] at patient ⊢
    refine Program.AtCall.mono ?_ patient
    intro call waits
    cases call with
    | patchVm member version patch =>
      intro object found pool own program running
      have idle := waits object found pool own
      rw [Option.isNone_iff_eq_none.mp idle] at running
      contradiction
    | now | getVm | listVms | deleteVm | createVm | getPool | applyPoolStatus | getImage
    | patchFinalizers | patchClaimStatus | deleteClaim => trivial
  | .serve (.pool _) _ | .launch _ _ | .crash _ | .disturb _ => trivial

/-- Claim `a` binds `web-1` first; the pool's pass then only deletes `web-2`. -/
theorem pool_deletes_unclaimed_in_turn :
    ∃ (last : controlPlane.State) (object : Versioned VirtualMachine),
      Machine.Run Undoomed (Machine.State.idle (webCluster 0))
        ([.disturb (Server.Disturbance.createVm "web-2" webMember), createClaim "a",
          startClaim "a" 0] ++ answer (.claim "a") 9 ++ [startPool 0] ++ answer (.pool "web") 3)
        last ∧
      deleteView last "web-1" = ⟨some "web-2", some "a", some false⟩ ∧
      (Server.machines last.service).get "web-2" = some object ∧
      object.value.claimLabel = none := by
  have seen : ((Machine.State.idle (webCluster 0) : controlPlane.State).execIf Patient
      ([.disturb (Server.Disturbance.createVm "web-2" webMember), createClaim "a",
        startClaim "a" 0] ++ answer (.claim "a") 9 ++ [startPool 0] ++
        answer (.pool "web") 3)).map
      (fun last => (deleteView last "web-1",
        ((Server.machines last.service).get "web-2").isSome)) =
      some (⟨some "web-2", some "a", some false⟩, true) := by
    decide +kernel
  simp only [Option.map_eq_some_iff, Prod.mk.injEq] at seen
  obtain ⟨last, executed, view, present⟩ := seen
  obtain ⟨object, found⟩ := Option.isSome_iff_exists.mp present
  have run := (Machine.Run.of_execIf executed).mono undoomed_of_patient
  have pending : pendingDelete last "web" = some "web-2" := congrArg DeleteView.pending view
  exact ⟨last, object, run, view, found,
    pool_deletes_unclaimed (webCluster 0) _ last run "web" "web-2" pending object found⟩

end Banlieue.Controller
