import Banlieue.Data.Machine
import Banlieue.ProviderCloudHypervisor.Reconciler

namespace Banlieue.ProviderCloudHypervisor

open Banlieue.Api Banlieue.Data Banlieue.Data.Program Banlieue.Infra Banlieue.Sdk

/-! # The machines of one host and the passes over them

The API server has at most one machine of each name.  The provider's cache gets every
version of a machine in order, but late; a provider that starts again lists anew and has an
empty ledger.  A pass works on the copy that was in the cache when it started.
-/

/-- The versions of what has a name: the one in the cache, and those it has not got yet. -/
structure Track where
  cached : Option HostMachine := none
  unseen : List (Option HostMachine) := []

namespace Track

def versions (track : Track) : List (Option HostMachine) := track.cached :: track.unseen

/-- What the API server has. -/
def current (track : Track) : Option HostMachine := track.unseen.getLastD track.cached

def write (track : Track) (version : Option HostMachine) : Track :=
  { track with unseen := track.unseen ++ [version] }

def deliver (track : Track) : Option Track :=
  match track.unseen with
  | [] => none
  | next :: rest => some ⟨next, rest⟩

def relist (track : Track) : Track := ⟨track.current, []⟩

variable (track : Track) (version : Option HostMachine)

theorem versions_eq : track.versions = track.versions.dropLast ++ [track.current] := by
  rw [current, ← List.getLast_eq_getLastD (List.cons_ne_nil _ _)]
  exact (List.dropLast_append_getLast _).symm

theorem current_mem_versions : track.current ∈ track.versions := List.getLastD_mem_cons

@[simp] theorem current_write : (track.write version).current = version := by
  exact List.getLastD_concat

@[simp] theorem versions_write : (track.write version).versions = track.versions ++ [version] := rfl

theorem mem_versions_relist {track : Track} {version : Option HostMachine} (member : version ∈ track.relist.versions) :
    version ∈ track.versions := by
  rw [List.mem_singleton.mp member]
  exact track.current_mem_versions

theorem deliver_eq_some {track after : Track} (delivered : track.deliver = some after) :
    after.current = track.current ∧ ∃ first, track.versions = first :: after.versions := by
  unfold deliver at delivered
  split at delivered
  · contradiction
  · rename_i next rest unseen
    cases delivered
    constructor
    · rw [current, current, unseen, List.getLastD_cons]
    · exact ⟨track.cached, by rw [versions, unseen]; rfl⟩

end Track

namespace HostMachine

def Held (machine : HostMachine) : Prop := machineFinalizer ∈ machine.metadata.finalizers

instance (machine : HostMachine) : Decidable machine.Held := inferInstanceAs (Decidable (_ ∈ _))

def deleting (machine : HostMachine) : Bool := machine.metadata.deletionTimestamp.isSome

def withFinalizers (machine : HostMachine) (finalizers : List String) : HostMachine :=
  { machine with metadata := { machine.metadata with finalizers := finalizers } }

def withStatus (machine : HostMachine) (status : CloudHypervisorMachineStatus) : HostMachine :=
  { machine with status := some status }

def withProviderId (machine : HostMachine) (id : String) : HostMachine :=
  { machine with spec := { machine.spec with providerId := some id } }

def withDeletion (machine : HostMachine) (now : Timestamp) : HostMachine :=
  { machine with metadata := machine.metadata.markDeleted now }

/-- A machine that is being deleted goes away with its last finalizer. -/
def settle (machine : HostMachine) : Option HostMachine :=
  if machine.deleting && machine.metadata.finalizers.isEmpty then none else some machine

/-- No finalizer is added to a machine that is being deleted. -/
def accepts (machine : HostMachine) (finalizers : List String) : Bool :=
  !machine.deleting || finalizers.all machine.metadata.finalizers.contains

theorem settle_eq_some {machine after : HostMachine} (settled : machine.settle = some after) : after = machine := by
  unfold settle at settled
  split at settled
  · contradiction
  · exact (Option.some.inj settled).symm

end HostMachine

structure Fleet where
  names : List String := []
  tracks : String → Track := fun _ => {}
  /-- The uids that machines have had; none is given twice. -/
  born : List String := []
  ledger : UidLedger := ⟨∅⟩
  /-- How often the provider was started. -/
  epoch : Nat := 0

namespace Fleet

def current (fleet : Fleet) (name : String) : Option HostMachine := (fleet.tracks name).current

def setTrack (fleet : Fleet) (name : String) (track : Track) : Fleet :=
  { fleet with tracks := fun other => if other = name then track else fleet.tracks other }

def write (fleet : Fleet) (name : String) (version : Option HostMachine) : Fleet :=
  fleet.setTrack name ((fleet.tracks name).write version)

def machines (fleet : Fleet) : List HostMachine := fleet.names.filterMap fleet.current

/-! ## Requests to the API server -/

/-- Change what has the name, if there is something and the change is accepted. -/
def patch (fleet : Fleet) (name : String) (change : HostMachine → Option (Option HostMachine)) :
    Except String Unit × Fleet :=
  match fleet.current name with
  | none => (.error "not found", fleet)
  | some machine =>
    match change machine with
    | none => (.error "invalid", fleet)
    | some version => (.ok (), fleet.write name version)

def finalizersChange (finalizers : List String) (machine : HostMachine) : Option (Option HostMachine) :=
  if machine.accepts finalizers then some (machine.withFinalizers finalizers).settle else none

def statusChange (status : CloudHypervisorMachineStatus) (machine : HostMachine) : Option (Option HostMachine) :=
  some (some (machine.withStatus status))

def providerIdChange (id : String) (machine : HostMachine) : Option (Option HostMachine) :=
  some (some (machine.withProviderId id))

end Fleet

/-- A pass over the machine with that uid, in a provider that was started so often. -/
structure PassTask where
  uid : String
  epoch : Nat
deriving DecidableEq

structure FleetChoice where
  delivery : Delivery := .answered
  host : (call : Call) → Reply call := smoothReply

inductive FleetDisturbance where
  | create (machine : HostMachine)
  | delete (name : String) (now : Timestamp)
  /-- Somebody else changes the machine. -/
  | edit (machine : HostMachine)
  | deliver (name : String)
  | restart

namespace Fleet

variable (config : HostConfig)

/-- The calls of a process that is gone reach nobody. -/
def unreachable : (call : ControlCall) → FleetChoice → ControlReply call
  | .host call, choice => choice.host call
  | .list, _ | .patchFinalizers _ _, _ | .patchStatus _ _, _ | .patchProviderId _ _, _ => .error "not sent"
  | .assign _ _, _ => none
  | .release _, _ => ()

def answer (fleet : Fleet) (choice : FleetChoice) : (call : ControlCall) → ControlReply call × Fleet
  | .host call => (choice.host call, fleet)
  | .list => choice.delivery.outcome fleet (.error "no answer") (.ok fleet.machines, fleet)
  | .patchFinalizers name finalizers =>
    choice.delivery.outcome fleet (.error "no answer") (fleet.patch name (finalizersChange finalizers))
  | .patchStatus name status =>
    choice.delivery.outcome fleet (.error "no answer") (fleet.patch name (statusChange status))
  | .patchProviderId name id =>
    choice.delivery.outcome fleet (.error "no answer") (fleet.patch name (providerIdChange id))
  | .assign machine recorded =>
    let assigned := fleet.ledger.assign machine recorded config.guests
    (assigned.1, { fleet with ledger := assigned.2 })
  | .release machine => ((), { fleet with ledger := fleet.ledger.release machine })

def serve (fleet : Fleet) (task : PassTask) (choice : FleetChoice) (call : ControlCall) :
    ControlReply call × Fleet :=
  if task.epoch = fleet.epoch then fleet.answer config choice call else (unreachable call choice, fleet)

/-- What others may do to a machine: they do not move it to or from this host, and leave
the status and the finalizer of this host's machines alone. -/
def mayEdit (machine edited : HostMachine) : Bool :=
  edited.metadata.namespaceName == machine.metadata.namespaceName && edited.uid == machine.uid &&
    edited.metadata.deletionTimestamp == machine.metadata.deletionTimestamp &&
    isOurs edited config == isOurs machine config &&
    (!isOurs machine config ||
      decide (edited.status = machine.status) && decide (edited.Held ↔ machine.Held))

/-- A machine that is made has no status, and a uid that none had before. -/
def mayCreate (fleet : Fleet) (machine : HostMachine) : Bool :=
  (fleet.current machine.metadata.name).isNone && machine.status.isNone && !machine.deleting &&
    machine.metadata.namespaceName == some config.provider.namespaceName &&
    machine.uid.any fun uid => !fleet.born.contains uid

def disturb (fleet : Fleet) : FleetDisturbance → Option Fleet
  | .create machine =>
    if fleet.mayCreate config machine then
      some { fleet.write machine.metadata.name (some machine) with
        names := machine.metadata.name :: fleet.names
        born := machine.uid.getD "" :: fleet.born }
    else none
  | .delete name now =>
    (fleet.current name).map fun machine => fleet.write name (machine.withDeletion now).settle
  | .edit machine =>
    (fleet.current machine.metadata.name).bind fun before =>
      if mayEdit config before machine then some (fleet.write machine.metadata.name machine.settle) else none
  | .deliver name => (fleet.tracks name).deliver.map (fleet.setTrack name)
  | .restart =>
    some { fleet with
      tracks := fun name => (fleet.tracks name).relist
      ledger := ⟨∅⟩
      epoch := fleet.epoch + 1 }

end Fleet

/-- Any number of passes at once, at most one for each machine. -/
def fleetMachine (provider : Provider) (config : HostConfig) : Machine ControlCall ControlReply where
  Service := Fleet
  Task := PassTask
  taskEq := inferInstance
  Input := String
  Choice := FleetChoice
  Disturbance := FleetDisturbance
  Result := Except Error Action
  launch fleet task name :=
    (fleet.tracks name).cached.bind fun copy =>
      if task.epoch = fleet.epoch ∧ copy.uid = some task.uid then some (reconcile provider config copy).run else none
  serve := Fleet.serve config
  disturb := Fleet.disturb config

end Banlieue.ProviderCloudHypervisor
