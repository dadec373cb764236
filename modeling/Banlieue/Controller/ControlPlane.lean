import Banlieue.Controller.Discipline

namespace Banlieue.Controller

open Banlieue.Api Banlieue.Data Banlieue.Claim Banlieue.Pool

/-! # Pools and claims around one API server

Each claim and each pool has at most one pass at a time; passes of different
objects interleave at their calls, can be cut off at any of them, and start from
any copy a cache may show.
-/

inductive Task where
  | claim (name : String)
  | pool (name : String)
deriving DecidableEq

/-- The copy a pass starts from: a version of the claim, or some pool object. -/
inductive Input where
  | copy (version : Nat)
  | pool (pool : VirtualMachinePool)

/-- The claim label is left to claims: a pool's template does not set it. -/
def launch (server : Server) : Task → Input → Option (Program Call Reply (Except Error Action))
  | .claim name, .copy version =>
    ((server.claims.copies name)[version]?).map fun copy => (Claim.reconcile copy).run
  | .pool name, .pool pool =>
    if pool.name = name ∧ pool.spec.template.labels.get labelClaim = none then
      some (Pool.reconcile pool).run
    else none
  | _, _ => none

theorem launch_pool (server : Server) {name : String} {pool : VirtualMachinePool}
    {program : Program Call Reply (Except Error Action)}
    (launched : launch server (.pool name) (.pool pool) = some program) :
    (pool.name = name ∧ pool.spec.template.labels.get labelClaim = none) ∧ (Pool.reconcile pool).run = program := by
  simpa only [launch, Option.ite_none_right_eq_some, Option.some.injEq] using launched

def controlPlane : Machine Call Reply where
  Service := Server
  Task := Task
  taskEq := inferInstance
  Input := Input
  Choice := Server.Choice
  Disturbance := Server.Disturbance
  Result := Except Error Action
  launch := launch
  serve server _ choice call := server.serve choice call
  disturb := Server.disturb

/-! ## What one step does to the server -/

namespace Server

variable {server after : Server}

structure Same (before after : Server) : Prop where
  machines : after.machines = before.machines
  claims : after.claims = before.claims
  binds : after.binds = before.binds

theorem Same.refl (server : Server) : Same server server := ⟨rfl, rfl, rfl⟩

/-- Machines change without a bind. -/
structure QuietStep (before after : Server) : Prop where
  machines : before.machines.Quiet after.machines
  claims : after.claims = before.claims
  binds : after.binds = before.binds

theorem Same.quiet (same : Same server after) : QuietStep server after :=
  ⟨same.machines ▸ .refl _, same.claims, same.binds⟩

/-- The bind patch has been carried out on the version it names. -/
structure BindStep (name : String) (version : Nat) (patch : MemberPatch)
    (before after : Server) : Prop where
  written : ∃ object newVersion, before.machines.get name = some object ∧
    object.version = version ∧ after.machines.get name = some ⟨newVersion, patch.apply object.value⟩
  others : ∀ other, other ≠ name → after.machines.get other = before.machines.get other
  names : after.machines.names = before.machines.names
  remembers : ∀ key version seen, before.machines.store.Remembers key version seen →
    after.machines.store.Remembers key version seen
  claims : after.claims = before.claims
  binds : after.binds = before.binds ++ [(name, patch.claim)]

variable {name : String} {patch : MemberPatch} {object : Versioned VirtualMachine} {call : Call}

theorem BindStep.get {member : String} {version : Nat} (step : BindStep name version patch server after)
    (found : after.machines.get member = some object) :
    (member = name ∧ ∃ old, server.machines.get name = some old ∧ old.version = version ∧
      object.value = patch.apply old.value) ∨ member ≠ name ∧ server.machines.get member = some object := by
  by_cases same : member = name
  · subst same
    obtain ⟨old, _, stored, current, written⟩ := step.written
    rw [written] at found
    cases found
    exact .inl ⟨rfl, old, stored, current, rfl⟩
  · rw [step.others member same] at found
    exact .inr ⟨same, found⟩

theorem bindStep_patched (found : server.machines.get name = some object) :
    BindStep name object.version patch server { server with
      machines := server.machines.modify name patch.apply patch.apply_name
      binds := server.binds ++ [(name, patch.claim)] } where
  written := by
    obtain ⟨version, written⟩ := Machines.get_modify_self patch.apply_name found
    exact ⟨object, version, found, rfl, written⟩
  others := fun other different => Machines.get_modify_of_ne patch.apply_name different
  names := Machines.modify_names patch.apply_name
  remembers := fun _ _ _ => Machines.modify_remembers patch.apply_name
  claims := rfl
  binds := rfl

/-- A claim that exists has been replaced by what the change makes of it. -/
structure ClaimStep (name : String) (change : VirtualMachineClaim → VirtualMachineClaim)
    (before after : Server) : Prop where
  machines : after.machines = before.machines
  binds : after.binds = before.binds
  written : ∃ live, before.claims.live name = some live ∧
    after.claims.record = Function.update before.claims.record name
      ((before.claims.record name).put (change live))

def Effect (before after : Server) : Call → Prop
  | .now | .getVm _ | .listVms _ | .getPool _ | .getImage _ | .applyPoolStatus _ _ =>
    Same before after
  | .patchVm name version patch => Same before after ∨ BindStep name version patch before after
  | .deleteVm _ => QuietStep before after
  | .createVm vm =>
    (vm.claimLabel = none → before.machines.Quiet after.machines) ∧
      after.claims = before.claims ∧ after.binds = before.binds
  | .patchFinalizers claim finalizers =>
    Same before after ∨ ClaimStep claim (withFinalizers finalizers) before after
  | .patchClaimStatus claim patch => Same before after ∨ ClaimStep claim patch.apply before after
  | .deleteClaim claim => Same before after ∨ ClaimStep claim (markClaim before.now) before after

theorem effect_refl (server : Server) (call : Call) : Effect server server call := by
  have same := Same.refl server
  cases call with
  | now | getVm | listVms | getPool | getImage | applyPoolStatus => exact same
  | patchVm | patchFinalizers | patchClaimStatus | deleteClaim => exact .inl same
  | deleteVm => exact same.quiet
  | createVm => exact ⟨fun _ => same.quiet.machines, rfl, rfl⟩

theorem effect_request {α : Type} {choice : Choice} {carriedOut : Except KubeError α × Server}
    (changed : Effect server carriedOut.2 call) : Effect server (serve.request server choice carriedOut).2 call :=
  Delivery.outcome_state (P := (Effect server · call)) (effect_refl server call) fun _ => changed

theorem patchVm_effect (name : String) (version : Nat) (patch : MemberPatch) :
    Effect server (server.patchVm name version patch).2 (.patchVm name version patch) := by
  unfold patchVm
  split
  · exact .inl (.refl _)
  · rename_i object found
    split
    · rename_i current
      subst current
      exact .inr (bindStep_patched found)
    · exact .inl (.refl _)

theorem deleteVm_effect (name : String) : Effect server (server.deleteVm name).2 (.deleteVm name) := by
  unfold deleteVm
  split
  · exact (Same.refl _).quiet
  · rename_i machines deleted
    exact ⟨Machines.quiet_delete deleted, rfl, rfl⟩

theorem createVm_effect (suffix : String) (vm : VirtualMachine) :
    Effect server (server.createVm suffix vm).2 (.createVm vm) := by
  unfold createVm
  split
  · exact effect_refl _ _
  · rename_i machines created
    exact ⟨fun unlabelled => Machines.quiet_create unlabelled created, rfl, rfl⟩

theorem modify_record {claims written : Claims} {change : VirtualMachineClaim → VirtualMachineClaim}
    {keeps : ∀ claim, (change claim).name = claim.name ∧ (change claim).spec = claim.spec}
    (modified : claims.modify name change keeps = some written) : ∃ live, claims.live name = some live ∧
      written.record = Function.update claims.record name ((claims.record name).put (change live)) := by
  unfold Claims.modify at modified
  split at modified
  · contradiction
  · rename_i live found
    cases modified
    have own : (change live).name = name :=
      (keeps live).1.trans (claims.named name live (claims.current name live found))
    exact ⟨live, found, by simp only [Claims.put, own]⟩

theorem writeClaim_effect {change : VirtualMachineClaim → VirtualMachineClaim}
    {keeps : ∀ claim, (change claim).name = claim.name ∧ (change claim).spec = claim.spec} :
    Same server (server.writeClaim (server.claims.modify name change keeps)).2 ∨ ClaimStep name change server
        (server.writeClaim (server.claims.modify name change keeps)).2 := by
  cases modified : server.claims.modify name change keeps with
  | none => exact .inl (.refl _)
  | some written => exact .inr ⟨rfl, rfl, modify_record modified⟩

theorem patchFinalizers_effect (claim : String) (finalizers : List String) :
    Effect server (server.patchFinalizers claim finalizers).2 (.patchFinalizers claim finalizers) := by
  unfold patchFinalizers
  split
  · exact .inl (.refl _)
  · split
    · exact writeClaim_effect
    · exact .inl (.refl _)

theorem serve_effect (server : Server) (choice : Choice) (call : Call) :
    Effect server (server.serve choice call).2 call := by
  cases call with
  | now => exact .refl _
  | getVm | listVms | getPool => exact effect_request (Same.refl _)
  | getImage name =>
    apply effect_request
    split <;> exact Same.refl _
  | applyPoolStatus name status =>
    apply effect_request
    unfold applyPoolStatus
    split <;> exact ⟨rfl, rfl, rfl⟩
  | patchVm name version patch => exact effect_request (patchVm_effect name version patch)
  | deleteVm name => exact effect_request (deleteVm_effect name)
  | createVm vm => exact effect_request (createVm_effect choice.suffix vm)
  | patchFinalizers claim finalizers =>
    exact effect_request (patchFinalizers_effect claim finalizers)
  | patchClaimStatus claim patch => exact effect_request writeClaim_effect
  | deleteClaim claim => exact effect_request writeClaim_effect

/-- The ways a served call can change the server, one constructor for each. -/
inductive Change (before after : Server) : Call → Prop where
  | quiet {call : Call} (step : QuietStep before after) : Change before after call
  | created {vm : VirtualMachine}
      (machines : vm.claimLabel = none → before.machines.Quiet after.machines)
      (claims : after.claims = before.claims) (binds : after.binds = before.binds) :
      Change before after (.createVm vm)
  | bound {name : String} {version : Nat} {patch : MemberPatch}
      (step : BindStep name version patch before after) :
      Change before after (.patchVm name version patch)
  | finalizers {claim : String} {finalizers : List String}
      (step : ClaimStep claim (withFinalizers finalizers) before after) :
      Change before after (.patchFinalizers claim finalizers)
  | status {claim : String} {patch : ClaimStatusPatch}
      (step : ClaimStep claim patch.apply before after) :
      Change before after (.patchClaimStatus claim patch)
  | marked {claim : String} (step : ClaimStep claim (markClaim before.now) before after) :
      Change before after (.deleteClaim claim)

theorem Effect.change (effect : Effect server after call) : Change server after call := by
  cases call with
  | now | getVm | listVms | getPool | getImage | applyPoolStatus => exact .quiet (Same.quiet effect)
  | deleteVm => exact .quiet effect
  | createVm => exact .created effect.1 effect.2.1 effect.2.2
  | patchVm =>
    rcases effect with same | step
    · exact .quiet same.quiet
    · exact .bound step
  | patchFinalizers =>
    rcases effect with same | step
    · exact .quiet same.quiet
    · exact .finalizers step
  | patchClaimStatus =>
    rcases effect with same | step
    · exact .quiet same.quiet
    · exact .status step
  | deleteClaim =>
    rcases effect with same | step
    · exact .quiet same.quiet
    · exact .marked step

inductive Disturbed (before after : Server) : Prop where
  | quiet (step : QuietStep before after)
  | newClaim (claim : VirtualMachineClaim) (machines : after.machines = before.machines)
      (binds : after.binds = before.binds) (unused : before.claims.copies claim.name = [])
      (unbound : claim.status = none) (kept : claim.deleting = false)
      (written : after.claims.record = Function.update before.claims.record claim.name
        ((before.claims.record claim.name).put claim))
  | deleteClaim (name : String) (step : ClaimStep name (markClaim before.now) before after)

theorem editVm_quiet {vm : VirtualMachine} (edited : server.editVm vm = some after) : QuietStep server after := by
  simp only [editVm, Option.bind_eq_some_iff] at edited
  obtain ⟨object, found, edited⟩ := edited
  split at edited
  · rename_i kept
    split at edited
    · cases edited
      exact ⟨Machines.quiet_erase _ _, rfl, rfl⟩
    · cases edited
      refine ⟨?_, rfl, rfl⟩
      dsimp only
      apply Machines.quiet_modify
      intro stored present
      rw [present] at found
      cases found
      refine ⟨object, present, ?_⟩
      simp only [Machines.name_eq present, if_true]
      exact ⟨kept.1, kept.2.1, fun deleting => kept.2.2.trans deleting⟩
  · contradiction

theorem disturb_effect {disturbance : Disturbance}
    (disturbed : server.disturb disturbance = some after) : Disturbed server after := by
  cases disturbance with
  | tick time =>
    simp only [disturb, Option.ite_none_right_eq_some, Option.some.injEq] at disturbed
    obtain ⟨-, rfl⟩ := disturbed
    exact .quiet ⟨.refl _, rfl, rfl⟩
  | editVm vm => exact .quiet (editVm_quiet disturbed)
  | deleteVm name =>
    simp only [disturb, Option.map_eq_some_iff] at disturbed
    obtain ⟨machines, deleted, rfl⟩ := disturbed
    exact .quiet ⟨Machines.quiet_delete deleted, rfl, rfl⟩
  | createVm name vm =>
    simp only [disturb, Option.ite_none_right_eq_some, Option.map_eq_some_iff] at disturbed
    obtain ⟨unlabelled, machines, created, rfl⟩ := disturbed
    exact .quiet ⟨Machines.quiet_create unlabelled created, rfl, rfl⟩
  | createClaim claim =>
    simp only [disturb, Option.ite_none_right_eq_some, Option.map_eq_some_iff,
      Claims.create, Option.dite_none_right_eq_some, Option.some.injEq] at disturbed
    obtain ⟨⟨unbound, kept⟩, claims, ⟨unused, rfl⟩, rfl⟩ := disturbed
    exact .newClaim claim rfl rfl unused unbound kept rfl
  | deleteClaim name =>
    simp only [disturb, Option.map_eq_some_iff] at disturbed
    obtain ⟨claims, modified, rfl⟩ := disturbed
    exact .deleteClaim name ⟨rfl, rfl, modify_record modified⟩
  | setPool name pool =>
    simp only [disturb, setPool, Option.dite_none_right_eq_some, Option.some.injEq] at disturbed
    obtain ⟨-, rfl⟩ := disturbed
    exact .quiet ⟨.refl _, rfl, rfl⟩
  | setImage name image =>
    simp only [disturb, Option.some.injEq] at disturbed
    subst disturbed
    exact .quiet ⟨.refl _, rfl, rfl⟩

/-- No machine is labelled, no claim exists and nothing has been bound. -/
structure Unclaimed (server : Server) : Prop where
  unlabelled : ∀ name object, server.machines.get name = some object →
    object.value.claimLabel = none
  unused : ∀ name, server.claims.copies name = []
  unbound : server.binds = []

end Server

/-! ## A small cluster

One pool `web` and its one member, which has been Ready since the epoch.
-/

def webMember : VirtualMachine where
  metadata := {
    labels := .ofList [(labelPool, "web")]
    finalizers := ["banlieue.io/virtualmachine"] }
  spec := { classRef := ⟨"small"⟩, imageRef := ⟨"linux"⟩ }
  status := some { conditions := [{
    type := ConditionTypes.infrastructureReady
    status := "True"
    reason := "Ready"
    message := ""
    observedGeneration := none
    lastTransitionTime := ⟨0⟩ }] }

def webPool (warmReplicas : UInt32) : VirtualMachinePool where
  metadata := { name := "web", namespaceName := some "default", uid := some "pool-uid" }
  spec := {
    warmReplicas := warmReplicas
    maxReplicas := 2
    template := { spec := webMember.spec }
    readiness := .infrastructureReady }

def webClaim (name : String) : VirtualMachineClaim where
  metadata := { name := name, namespaceName := some "default", uid := some (name ++ "-uid") }
  spec := { poolRef := ⟨"web"⟩, subject := ⟨"issuer", name⟩, ttlSeconds := 3600 }

def webMachines : Machines := (Machines.empty.create "web-1" webMember).getD .empty

def webCluster (warmReplicas : UInt32) : Server where
  now := ⟨1000000000⟩
  machines := webMachines
  claims := .empty
  pools := fun name => if name = "web" then some (webPool warmReplicas) else none
  images := fun name => if name = "linux" then some { metadata := { name := "linux" } } else none
  poolsNamed := by
    intro name pool found
    split at found
    · cases found
      rename_i same
      exact same.symm
    · contradiction
  binds := []

theorem webCluster_unclaimed (warmReplicas : UInt32) : (webCluster warmReplicas).Unclaimed where
  unlabelled := by
    have listed : ∀ entry ∈ webMachines.store.list, entry.2.value.claimLabel = none := by decide
    intro name object found
    exact listed (name, object) (VersionedStore.mem_list.mpr found)
  unused := fun _ => rfl
  unbound := rfl

def createClaim (name : String) : controlPlane.Event :=
  .disturb (Server.Disturbance.createClaim (webClaim name))

def startClaim (name : String) (version : Nat) : controlPlane.Event :=
  .launch (Task.claim name) (Input.copy version)

def startPool (warmReplicas : UInt32) : controlPlane.Event :=
  .launch (Task.pool "web") (Input.pool (webPool warmReplicas))

/-- The next calls of a task are answered. -/
def answer (task : Task) (calls : Nat) : List controlPlane.Event :=
  List.replicate calls (.serve task { delivery := .answered : Server.Choice })

end Banlieue.Controller
