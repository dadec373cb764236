import Banlieue.Vm.Discipline

namespace Banlieue.Vm

open Banlieue.Api Banlieue.Data Banlieue.Data.Program Banlieue.Infra Banlieue.Sdk Banlieue.Scheduler
open Banlieue.Controller (Error Action)

/-! # Virtual machines around one API server

Each virtual machine has at most one pass at a time.  Passes of different machines
interleave at their calls, can be cut off at any of them, and start from any copy the
store may show.
-/

/-- What a user can change of a machine. -/
structure VmEdit where
  spec : VirtualMachineSpec
  labels : Labels
  annotations : SortedMap String String
  generation : Option Int

/-- What users, providers and the clock do. -/
inductive Disturbance where
  | surroundings (now : Timestamp) (classes : List VMClass) (images : List VMImage)
      (providers : List Provider) (secrets : List (KeyedData (List UInt8)))
      (configMaps : List (KeyedData String))
  | createVm (vm : VirtualMachine)
  | editVm (vm : VmKey) (edit : VmEdit)
  | deleteVm (vm : VmKey)
  | reportInfra (kind : InfraKind) (vm : VmKey) (status : InfraMachineStatus)
  | holdInfra (kind : InfraKind) (vm : VmKey) (finalizers : List String)
  | deleteInfra (kind : InfraKind) (vm : VmKey)

namespace Cluster

variable (cluster : Cluster)

def edited (edit : VmEdit) (vm : VirtualMachine) : VirtualMachine :=
  { vm with
    spec := edit.spec
    metadata :=
      { vm.metadata with
        labels := edit.labels
        annotations := edit.annotations
        generation := edit.generation } }

def marked (now : Timestamp) (vm : VirtualMachine) : VirtualMachine :=
  { vm with metadata := vm.metadata.markDeleted now }

theorem key_edited (edit : VmEdit) (vm : VirtualMachine) : key (edited edit vm) = key vm := rfl

theorem key_marked (now : Timestamp) (vm : VirtualMachine) : key (marked now vm) = key vm := by
  simp only [key, marked, VirtualMachine.name, ObjectMeta.markDeleted]

/-- The status is the controller's: a new machine has none. -/
def created (vm : VirtualMachine) : VirtualMachine :=
  { vm with
    status := none
    metadata :=
      { vm.metadata with
        finalizers := []
        creationTimestamp := some cluster.now
        deletionTimestamp := none } }

def deleteVm (vm : VmKey) : Option Cluster :=
  (cluster.vms.find vm).map fun stored =>
    if stored.metadata.finalizers.isEmpty then cluster.commit (cluster.vms.erase vm)
    else cluster.commit (cluster.vms.update vm (marked cluster.now) (key_marked cluster.now))

def reportedInfra (status : InfraMachineStatus) (applied : AppliedInfra) : AppliedInfra :=
  { applied with object.status := some status }

def heldInfra (finalizers : List String) (applied : AppliedInfra) : AppliedInfra :=
  { applied with
    object.machine := applied.object.machine.withMetadata
      { applied.object.machine.metadata with finalizers := finalizers } }

/-- An infra machine that is being deleted goes with its last finalizer. -/
def holdInfra (kind : InfraKind) (vm : VmKey) (finalizers : List String) : Option Cluster :=
  (cluster.infraAt kind vm).bind fun applied =>
    if Held.accepts ⟨applied.object.machine.metadata.finalizers, applied.object.deleting⟩ finalizers then
      if applied.object.deleting && finalizers.isEmpty then some (cluster.eraseInfra kind vm)
      else some (cluster.changeInfra kind vm (heldInfra finalizers))
    else none

def disturb : Disturbance → Option Cluster
  | .surroundings now classes images providers secrets configMaps =>
    some { cluster with now, classes, images, providers, secrets, configMaps }
  | .createVm vm => (cluster.vms.insert (cluster.created vm)).map cluster.commit
  | .editVm vm edit =>
    (cluster.vms.find vm).map fun _ =>
      cluster.commit (cluster.vms.update vm (edited edit) (key_edited edit))
  | .deleteVm vm => cluster.deleteVm vm
  | .reportInfra kind vm status =>
    (cluster.infraAt kind vm).map fun _ => cluster.changeInfra kind vm (reportedInfra status)
  | .holdInfra kind vm finalizers => cluster.holdInfra kind vm finalizers
  | .deleteInfra kind vm => some (cluster.deleteInfra kind vm).2

end Cluster

/-- A pass starts from the copy of that age. -/
def vmMachine (context : Context) : Machine Call Reply where
  Service := Cluster
  Task := VmKey
  taskEq := inferInstance
  Input := Nat
  Choice := Cluster.Choice
  Disturbance := Disturbance
  Result := Except Error Action
  launch cluster vm age :=
    ((cluster.store age).find vm).map fun copy => (reconcile context copy).run
  serve cluster _ choice call := cluster.serve choice call
  disturb := Cluster.disturb

section Launch

variable {context : Context} {cluster : Cluster} {vm : VmKey} {age : Nat}
  {program : Program Call Reply (Except Error Action)}

theorem launched_copy (launched : (vmMachine context).launch cluster vm age = some program) :
    ∃ copy, key copy = vm ∧ program = (reconcile context copy).run := by
  obtain ⟨copy, found, rfl⟩ := Option.map_eq_some_iff.mp launched
  exact ⟨copy, Snapshot.find_key found, rfl⟩

/-- A running pass knows something that its calls have told it. -/
abbrev Informed (context : Context) (means : VmKey → Learnt → Cluster → Prop) (vm : VmKey)
    (program : Program Call Reply (Except Error Action)) (cluster : Cluster) : Prop :=
  (vmMachine context).Disciplined (fun _ => discipline context) means vm program cluster

theorem informed_launched {means : VmKey → Learnt → Cluster → Prop}
    (started : ∀ copy, key copy = vm → means vm { copy := copy } cluster)
    (launched : (vmMachine context).launch cluster vm age = some program) :
    Informed context means vm program cluster := by
  obtain ⟨copy, own, rfl⟩ := launched_copy launched
  exact ⟨{ copy := copy }, started copy own, obeys_reconcile context copy⟩

end Launch

/-! ## What a step does to infra machines -/

namespace AppliedInfra

variable {before middle after : AppliedInfra}

/-- Of the same backend, for the same machine and with the same addresses. -/
structure SameLoad (before after : AppliedInfra) : Prop where
  key : after.key = before.key
  kind : after.kind = before.kind
  addresses : after.object.machine.staticAddresses = before.object.machine.staticAddresses
  networkClasses : after.networkClasses = before.networkClasses

theorem SameLoad.claims (same : SameLoad before after) (text : AddressText) :
    after.claims text = before.claims text := by
  simp only [AppliedInfra.claims, same.addresses, same.networkClasses]

/-- The same infra machine later on: deletion is not taken back. -/
structure Later (before after : AppliedInfra) : Prop extends SameLoad before after where
  deleting : before.object.deleting = true → after.object.deleting = true

theorem key_fresh {kind : InfraKind} {vm : VirtualMachine} {vmClass : VMClass} {decision : Decision}
    {machine : InfraMachine} (built : BuiltFrom kind vm vmClass decision machine)
    (networkClasses : List String) : (fresh machine networkClasses).key = Vm.key vm := by
  simp only [AppliedInfra.key, fresh, built.metadata]
  rfl

theorem Later.refl (applied : AppliedInfra) : Later applied applied :=
  ⟨⟨rfl, rfl, rfl, rfl⟩, id⟩

theorem sameLoad_withMetadata {metadata : ObjectMeta} {applied : AppliedInfra}
    (name : metadata.name = applied.object.machine.metadata.name)
    (namespaceName : metadata.namespaceName = applied.object.machine.metadata.namespaceName) :
    SameLoad applied
      { applied with object.machine := applied.object.machine.withMetadata metadata } where
  key := by
    simp only [AppliedInfra.key, InfraMachine.metadata_withMetadata, name, namespaceName]
  kind := InfraMachine.kind_withMetadata _ _
  addresses := by simp only [InfraMachine.staticAddresses, InfraMachine.interfaces_withMetadata]
  networkClasses := rfl

theorem later_powerInfra (power : PowerState) (applied : AppliedInfra) :
    Later applied (Cluster.powerInfra power applied) where
  key := by simp only [AppliedInfra.key, Cluster.powerInfra, InfraMachine.metadata_withDesiredPowerState]
  kind := InfraMachine.kind_withDesiredPowerState _ _
  addresses := by
    simp only [Cluster.powerInfra, InfraMachine.staticAddresses, InfraMachine.interfaces_withDesiredPowerState]
  networkClasses := rfl
  deleting := by
    simp only [InfraObject.deleting, Cluster.powerInfra, InfraMachine.metadata_withDesiredPowerState]
    exact id

theorem later_markInfra (now : Timestamp) (applied : AppliedInfra) :
    Later applied (Cluster.markInfra now applied) where
  toSameLoad := sameLoad_withMetadata rfl rfl
  deleting := by
    simp [InfraObject.deleting, Cluster.markInfra, ObjectMeta.markDeleted]

theorem later_heldInfra (finalizers : List String) (applied : AppliedInfra) :
    Later applied (Cluster.heldInfra finalizers applied) where
  toSameLoad := sameLoad_withMetadata rfl rfl
  deleting := by simp [InfraObject.deleting, Cluster.heldInfra]

end AppliedInfra

namespace Cluster

variable {before after : Cluster}

/-- Every infra machine was there before. -/
def Keeps (before after : Cluster) : Prop :=
  ∀ applied ∈ after.infra, ∃ old ∈ before.infra, old.Later applied

/-- Every infra machine was there before, or carries what was applied. -/
def Applies (fresh : AppliedInfra) (before after : Cluster) : Prop :=
  ∀ applied ∈ after.infra, (∃ old ∈ before.infra, old.Later applied) ∨ fresh.SameLoad applied

theorem keeps_of_infra_eq (same : after.infra = before.infra) : Keeps before after := by
  intro applied member
  rw [same] at member
  exact ⟨applied, member, .refl applied⟩

theorem keeps_changeInfra {kind : InfraKind} {vm : VmKey} {change : AppliedInfra → AppliedInfra}
    (later : ∀ applied : AppliedInfra, applied.Later (change applied)) (cluster : Cluster) :
    Keeps cluster (cluster.changeInfra kind vm change) := by
  intro applied member
  obtain ⟨old, stored, rfl⟩ := List.mem_map.mp member
  refine ⟨old, stored, ?_⟩
  split
  · exact later old
  · exact .refl old

theorem keeps_eraseInfra (kind : InfraKind) (vm : VmKey) (cluster : Cluster) :
    Keeps cluster (cluster.eraseInfra kind vm) :=
  fun applied member => ⟨applied, List.mem_of_mem_filter member, .refl applied⟩

theorem keeps_deleteInfra (cluster : Cluster) (kind : InfraKind) (vm : VmKey) :
    Keeps cluster (cluster.deleteInfra kind vm).2 := by
  unfold deleteInfra
  split
  · exact keeps_of_infra_eq rfl
  · split
    · exact keeps_eraseInfra kind vm cluster
    · exact keeps_changeInfra (AppliedInfra.later_markInfra cluster.now) cluster

theorem keeps_patchInfraPower (cluster : Cluster) (kind : InfraKind) (vm : VmKey) (power : PowerState) :
    Keeps cluster (cluster.patchInfraPower kind vm power).2 := by
  unfold patchInfraPower
  split
  · exact keeps_of_infra_eq rfl
  · exact keeps_changeInfra (AppliedInfra.later_powerInfra power) cluster

theorem applies_applyInfra (cluster : Cluster) (machine : InfraMachine) (networkClasses : List String) :
    Applies (.fresh machine networkClasses) cluster (cluster.applyInfra machine networkClasses).2 := by
  simp only [applyInfra]
  split
  · intro applied member
    obtain ⟨old, stored, rfl⟩ := List.mem_map.mp member
    split
    · rename_i own
      simp only [AppliedInfra.isFor, Bool.and_eq_true, beq_iff_eq] at own
      refine .inr ⟨?_, InfraMachine.kind_withMetadata _ _, ?_, rfl⟩
      · rw [← own.2]
        simp only [AppliedInfra.key, reapply, InfraMachine.metadata_withMetadata]
      · simp only [reapply, AppliedInfra.fresh, InfraMachine.staticAddresses, InfraMachine.interfaces_withMetadata]
    · exact .inl ⟨old, stored, .refl old⟩
  · intro applied member
    rcases List.mem_append.mp member with old | new
    · exact .inl ⟨applied, old, .refl applied⟩
    · rw [List.mem_singleton.mp new]
      exact .inr ⟨rfl, rfl, rfl, rfl⟩

/-- What a served call can do to infra machines. -/
def Effect (before after : Cluster) : Call → Prop
  | .applyInfra machine networkClasses => Applies (.fresh machine networkClasses) before after
  | _ => Keeps before after

theorem effect_refl (cluster : Cluster) (call : Call) : cluster.Effect cluster call := by
  cases call with
  | applyInfra => exact fun applied member => .inl ⟨applied, member, .refl applied⟩
  | now | patchFinalizers | getClass | getClassOpt | listClasses | getImage | listProviders | listVms
  | storeState | getInfra | deleteInfra | patchInfraPower | applyStatus | getSecret | getConfigMap =>
    exact keeps_of_infra_eq rfl

variable {α : Type} {cluster : Cluster} {choice : Choice} {call : Call}

theorem effect_request {carriedOut : Except KubeError α × Cluster} (effect : cluster.Effect carriedOut.2 call) :
    cluster.Effect (serve.request cluster choice carriedOut).2 call :=
  Delivery.outcome_state (P := (cluster.Effect · call)) (cluster.effect_refl call) fun _ => effect

theorem serve_effect (cluster : Cluster) (choice : Choice) (call : Call) :
    cluster.Effect (cluster.serve choice call).2 call := by
  cases call with
  | now => exact cluster.effect_refl _
  | getClass | getClassOpt | listClasses | getImage | listProviders | listVms | storeState | getInfra
  | getSecret | getConfigMap => exact effect_request (cluster.effect_refl _)
  | patchFinalizers vm finalizers =>
    refine effect_request (keeps_of_infra_eq ?_)
    unfold patchFinalizers
    split
    · rfl
    · split
      · split <;> rfl
      · rfl
  | applyStatus vm status =>
    refine effect_request (keeps_of_infra_eq ?_)
    unfold applyStatus
    split <;> rfl
  | applyInfra machine networkClasses =>
    exact effect_request (cluster.applies_applyInfra machine networkClasses)
  | deleteInfra kind vm => exact effect_request (cluster.keeps_deleteInfra kind vm)
  | patchInfraPower kind vm power => exact effect_request (cluster.keeps_patchInfraPower kind vm power)

theorem Effect.keeps (effect : before.Effect after call)
    (idle : ∀ machine networkClasses, call ≠ .applyInfra machine networkClasses) : before.Keeps after := by
  cases call with
  | applyInfra machine networkClasses => exact absurd rfl (idle machine networkClasses)
  | now | patchFinalizers | getClass | getClassOpt | listClasses | getImage | listProviders | listVms
  | storeState | getInfra | deleteInfra | patchInfraPower | applyStatus | getSecret | getConfigMap =>
    exact effect

theorem request_answered {shown given : α}
    (answered : (serve.request cluster choice (.ok shown, cluster)).1 = .ok given) : given = shown := by
  unfold serve.request at answered
  cases delivered : choice.delivery with
  | answered =>
    rw [delivered] at answered
    cases answered
    rfl
  | dropped | unanswered =>
    rw [delivered] at answered
    cases answered

theorem disturb_keeps {disturbance : Disturbance} (disturbed : before.disturb disturbance = some after) :
    Keeps before after := by
  cases disturbance with
  | surroundings =>
    cases disturbed
    exact keeps_of_infra_eq rfl
  | createVm vm =>
    obtain ⟨vms, -, rfl⟩ := Option.map_eq_some_iff.mp disturbed
    exact keeps_of_infra_eq rfl
  | editVm vm edit =>
    obtain ⟨stored, -, rfl⟩ := Option.map_eq_some_iff.mp disturbed
    exact keeps_of_infra_eq rfl
  | deleteVm vm =>
    obtain ⟨stored, -, rfl⟩ := Option.map_eq_some_iff.mp disturbed
    refine keeps_of_infra_eq ?_
    split <;> rfl
  | reportInfra kind vm status =>
    obtain ⟨applied, -, rfl⟩ := Option.map_eq_some_iff.mp disturbed
    refine keeps_changeInfra (fun applied => ?_) before
    exact ⟨⟨rfl, rfl, rfl, rfl⟩, id⟩
  | holdInfra kind vm finalizers =>
    obtain ⟨applied, -, held⟩ := Option.bind_eq_some_iff.mp disturbed
    split at held
    · split at held
      · cases held
        exact keeps_eraseInfra kind vm before
      · cases held
        exact keeps_changeInfra (AppliedInfra.later_heldInfra finalizers) before
    · contradiction
  | deleteInfra kind vm =>
    cases disturbed
    exact before.keeps_deleteInfra kind vm

end Cluster

/-- The machine that a call writes something of. -/
def Call.written : Call → Option VmKey
  | .patchFinalizers vm _ | .deleteInfra _ vm | .patchInfraPower _ vm _ | .applyStatus vm _ => some vm
  | .applyInfra machine networkClasses => some (AppliedInfra.fresh machine networkClasses).key
  | _ => none

/-- Whatever it is answered, a pass writes nothing of another machine. -/
theorem pass_writes_own (context : Context) (vm : VirtualMachine) :
    Makes (fun call => ∀ other ∈ call.written, other = key vm) (reconcile context vm).run := by
  refine (makes_reconcile context vm).mono ?_
  rintro call ⟨learnt, own, permitted⟩ other written
  cases call <;> cases written
  case applyInfra machine networkClasses =>
    obtain ⟨vmClass, providers, -, provider, -, decision, -, built, -⟩ := permitted
    exact (AppliedInfra.key_fresh built networkClasses).trans (congrArg key own)
  case applyStatus => exact permitted.1.trans (congrArg key own)
  all_goals exact permitted.trans (congrArg key own)

end Banlieue.Vm
