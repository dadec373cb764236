import Banlieue.ProviderCloudHypervisor.Status
import Banlieue.Sdk.Finalizer

namespace Banlieue.ProviderCloudHypervisor

open Banlieue.Api Banlieue.Data Banlieue.Data.Program Banlieue.Infra Banlieue.Sdk

/-! # Reconciling one machine -/

/-- What a reconcile asks for: of the host, of the API server, which goes by the name of an
object, and of the ledger of guest uids. -/
inductive ControlCall where
  | host (call : Call)
  | list
  | patchFinalizers (name : String) (finalizers : List String)
  | patchStatus (name : String) (status : CloudHypervisorMachineStatus)
  | patchProviderId (name id : String)
  | assign (machine : String) (recorded : List Nat)
  | release (machine : String)

abbrev ControlReply : ControlCall → Type
  | .host call => Reply call
  | .list => Except String (List HostMachine)
  | .patchFinalizers _ _ | .patchStatus _ _ | .patchProviderId _ _ => Except String Unit
  | .assign _ _ => Option Nat
  | .release _ => Unit

abbrev ControlPass := ExceptT Error (Program ControlCall ControlReply)

def onMachine {α : Type} (pass : Pass α) : ControlPass α := .mk (pass.run.embed .host fun _ reply => reply)

def listMachines : ControlPass (List HostMachine) := consult .list (Except.mapError .kube)

def patchStatus (name : String) (status : CloudHypervisorMachineStatus) : ControlPass Unit :=
  consult (.patchStatus name status) (Except.mapError .kube)

def patchProviderId (name id : String) : ControlPass Unit := consult (.patchProviderId name id) (Except.mapError .kube)

/-- Nothing is sent when the copy has the list already. -/
def patchFinalizers (name : String) (finalizers : Option (List String)) : ControlPass Unit :=
  finalizers.elim (pure ()) fun finalizers =>
    consult (.patchFinalizers name finalizers) (Except.mapError fun text => .io (.other text))

def clock : ControlPass Timestamp := onMachine (ask .clock)

def machineFinalizer : String := "banlieue.io/cloudhypervisormachine"

def HostMachine.uid (machine : HostMachine) : Option String := machine.metadata.uid

def HostMachine.hostUid (machine : HostMachine) : Option Nat :=
  machine.status.bind CloudHypervisorMachineStatus.hostUid

def ensureFinalizer (machine : HostMachine) : ControlPass Unit :=
  patchFinalizers machine.metadata.name (finalizerListWith machine.metadata.finalizers machineFinalizer)

def removeFinalizer (machine : HostMachine) : ControlPass Unit :=
  patchFinalizers machine.metadata.name (finalizerListWithout machine.metadata.finalizers machineFinalizer)

inductive Action where
  | requeue (seconds : Nat)
  | awaitChange
deriving DecidableEq

/-! ## Decisions -/

def isOurs (machine : HostMachine) (config : HostConfig) : Bool :=
  machine.spec.providerRef.name == config.provider.name &&
    machine.metadata.namespaceName == some config.provider.namespaceName

/-- The uids that other machines of this host have recorded. -/
def usedHostUids (machines : List HostMachine) (config : HostConfig) (except : String) : List Nat :=
  ((machines.filter (isOurs · config)).filter fun machine => machine.uid != some except).filterMap HostMachine.hostUid

def sealingReportDue (required : Option FirstBootSealing) (status : CloudHypervisorMachineStatus) (now : Timestamp) :
    Bool :=
  required.any fun required =>
    match sealingGate required status.sealedPartitions status.conditions now with
    | .pending _ => true
    | _ => false

def requeueFor (observed : Observed) (sealingDue : Bool) : Action :=
  match observed.phase with
  | .startingTpm | .startingVmm | .stopping => .requeue 1
  | .running => if observed.addresses.isEmpty || sealingDue then .requeue 30 else .requeue 300
  | .stopped => .requeue 300

def failureReason : Error → String
  | .plan (.unsupported _) => "Unsupported"
  | .plan _ => "InvalidSpec"
  | .vmm (.versionUnsupported _ _) => "VmmVersionUnsupported"
  | .vmm _ => "VmmError"
  | .vmmExited _ => "VmmExited"
  | .systemd _ => "SystemdError"
  | .uidRangeFull => "GuestUidRangeFull"
  | _ => "HostError"

def isPermanent : Error → Bool
  | .plan _ | .uidRangeFull => true
  | _ => false

/-! ## The passes -/

def reportFailure (machine : HostMachine) (error : Error) : ControlPass Unit := do
  let now ← clock
  patchStatus machine.metadata.name
    (failureStatus machine.status error.text (failureReason error) (machine.metadata.generation.getD 0) now)

/-- The guest's uid is recorded before anything is made for it. -/
def recordUid (config : HostConfig) (machine : HostMachine) (uid : String) : ControlPass Action := do
  let machines ← listMachines
  match ← consult (.assign uid (usedHostUids machines config uid)) .ok with
  | none =>
    reportFailure machine .uidRangeFull
    return .requeue 300
  | some hostUid =>
    patchStatus machine.metadata.name { machine.status.getD {} with hostUid := some hostUid }
    return .requeue 0

def publishProviderId (machine : HostMachine) (plan : MachinePlan) : ControlPass Unit :=
  if machine.spec.providerId = some plan.providerId then pure ()
  else patchProviderId machine.metadata.name plan.providerId

def publishObserved (config : HostConfig) (machine : HostMachine) (plan : MachinePlan) (observed : Observed) :
    ControlPass Action := do
  let readyAt ← clock
  let guestAt ← clock
  let status := buildStatus machine.status observed plan config.provider.name
    (machine.metadata.generation.getD 0) readyAt guestAt
  patchStatus machine.metadata.name status
  return requeueFor observed (sealingReportDue plan.firstBootSealing status observed.now)

def convergePlanned (provider : Provider) (config : HostConfig) (machine : HostMachine) (plan : MachinePlan) :
    ControlPass Action := do
  publishProviderId machine plan
  match ← (ExceptT.lift (onMachine (converge provider plan machine.metadata.name machine.spec.userData
      machine.spec.desiredPowerState)).run : ControlPass _) with
  | .ok observed => publishObserved config machine plan observed
  | .error error =>
    reportFailure machine error
    return if isPermanent error then .requeue 300 else .requeue 5

def convergeMachine (provider : Provider) (config : HostConfig) (machine : HostMachine) (uid : String)
    (hostUid : Nat) : ControlPass Action :=
  match planMachine uid machine.metadata.name config.provider.name machine.spec config hostUid with
  | .error error => do
    reportFailure machine (.plan error)
    return .requeue 300
  | .ok plan => convergePlanned provider config machine (effectivePlan plan machine.status)

/-- What is done on the host before a machine is let go. Of one that can no longer be
planned only the VMM's unit is known. -/
def tearDown (config : HostConfig) (machine : HostMachine) (uid : String) : ControlPass Unit :=
  machine.hostUid.elim (pure ()) fun hostUid =>
    match planMachine uid machine.metadata.name config.provider.name machine.spec config hostUid with
    | .ok plan => onMachine (teardown plan)
    | .error _ => onMachine (systemd (.stop (instanceUnit vmmTemplate (toString hostUid))))

def finalize (config : HostConfig) (machine : HostMachine) (uid : String) : ControlPass Action := do
  tearDown config machine uid
  removeFinalizer machine
  consult (.release uid) .ok
  return .awaitChange

def reconcileLive (provider : Provider) (config : HostConfig) (machine : HostMachine) (uid : String) :
    ControlPass Action := do
  ensureFinalizer machine
  match machine.hostUid with
  | none => recordUid config machine uid
  | some hostUid => convergeMachine provider config machine uid hostUid

def reconcile (provider : Provider) (config : HostConfig) (machine : HostMachine) : ControlPass Action :=
  if !isOurs machine config then return .awaitChange
  else
    -- a machine of this host is in the host's namespace
    match machine.uid with
    | none => throw (.missing "metadata.uid")
    | some uid =>
      if machine.metadata.deletionTimestamp.isSome then finalize config machine uid
      else reconcileLive provider config machine uid

end Banlieue.ProviderCloudHypervisor
