import Banlieue.Infra.VSphere
import Banlieue.Infra.Libvirt
import Banlieue.Infra.CloudHypervisor
import Banlieue.Infra.Proxmox

namespace Banlieue.Infra

open Banlieue.Data Banlieue.Api Banlieue.Scheduler

/-! # Infra machines of any backend -/

inductive InfraMachine where
  | vSphere (machine : VSphereMachine)
  | libvirt (machine : LibvirtMachine)
  | cloudHypervisor (machine : CloudHypervisorMachine)
  | proxmox (machine : ProxmoxMachine)
deriving DecidableEq

namespace InfraMachine

def kind : InfraMachine → InfraKind
  | .vSphere _ => .vSphere
  | .libvirt _ => .libvirt
  | .cloudHypervisor _ => .cloudHypervisor
  | .proxmox _ => .proxmox

def metadata : InfraMachine → ObjectMeta
  | .vSphere machine => machine.metadata
  | .libvirt machine => machine.metadata
  | .cloudHypervisor machine => machine.metadata
  | .proxmox machine => machine.metadata

def desiredPowerState : InfraMachine → PowerState
  | .vSphere machine => machine.spec.desiredPowerState
  | .libvirt machine => machine.spec.desiredPowerState
  | .cloudHypervisor machine => machine.spec.desiredPowerState
  | .proxmox machine => machine.spec.desiredPowerState

def providerRef : InfraMachine → LocalObjectReference
  | .vSphere machine => machine.spec.providerRef
  | .libvirt machine => machine.spec.providerRef
  | .cloudHypervisor machine => machine.spec.providerRef
  | .proxmox machine => machine.spec.providerRef

def failureDomain : InfraMachine → Option String
  | .vSphere machine => machine.spec.failureDomain
  | .libvirt machine => machine.spec.failureDomain
  | .cloudHypervisor machine => machine.spec.failureDomain
  | .proxmox machine => machine.spec.failureDomain

def interfaces : InfraMachine → List (String × IpamSpec)
  | .vSphere machine => machine.spec.network.map fun nic => (nic.name, nic.ipam)
  | .libvirt machine => machine.spec.network.map fun nic => (nic.name, nic.ipam)
  | .cloudHypervisor machine => machine.spec.nics.map fun nic => (nic.name, nic.ipam)
  | .proxmox machine => machine.spec.nics.map fun nic => (nic.name, nic.ipam)

def withMetadata (metadata : ObjectMeta) : InfraMachine → InfraMachine
  | .vSphere machine => .vSphere { machine with metadata := metadata }
  | .libvirt machine => .libvirt { machine with metadata := metadata }
  | .cloudHypervisor machine => .cloudHypervisor { machine with metadata := metadata }
  | .proxmox machine => .proxmox { machine with metadata := metadata }

def withDesiredPowerState (power : PowerState) : InfraMachine → InfraMachine
  | .vSphere machine => .vSphere { machine with spec.desiredPowerState := power }
  | .libvirt machine => .libvirt { machine with spec.desiredPowerState := power }
  | .cloudHypervisor machine => .cloudHypervisor { machine with spec.desiredPowerState := power }
  | .proxmox machine => .proxmox { machine with spec.desiredPowerState := power }

variable (metadata : ObjectMeta) (power : PowerState) (machine : InfraMachine)

@[simp] theorem kind_withMetadata : (machine.withMetadata metadata).kind = machine.kind := by
  cases machine <;> rfl

@[simp] theorem metadata_withMetadata : (machine.withMetadata metadata).metadata = metadata := by
  cases machine <;> rfl

@[simp] theorem interfaces_withMetadata : (machine.withMetadata metadata).interfaces = machine.interfaces := by
  cases machine <;> rfl

@[simp] theorem kind_withDesiredPowerState : (machine.withDesiredPowerState power).kind = machine.kind := by
  cases machine <;> rfl

@[simp] theorem metadata_withDesiredPowerState : (machine.withDesiredPowerState power).metadata = machine.metadata := by
  cases machine <;> rfl

@[simp] theorem interfaces_withDesiredPowerState :
    (machine.withDesiredPowerState power).interfaces = machine.interfaces := by
  cases machine <;> rfl

end InfraMachine

/-- What a provider reports of a machine, as far as it is read back. -/
structure InfraMachineStatus where
  initialization : InitializationStatus := {}
  addresses : List MachineAddress := []
  observedPowerState : Option PowerState := none
  tpmEndorsementCertificates : List String := []
  conditions : List Condition := []
deriving DecidableEq, Inhabited

structure InfraObject where
  machine : InfraMachine
  status : Option InfraMachineStatus := none
deriving DecidableEq

namespace InfraObject

def initialization (object : InfraObject) : InitializationStatus :=
  (object.status.map InfraMachineStatus.initialization).getD {}

def addresses (object : InfraObject) : List MachineAddress :=
  (object.status.map InfraMachineStatus.addresses).getD []

def conditions (object : InfraObject) : List Condition :=
  (object.status.map InfraMachineStatus.conditions).getD []

def observedPowerState (object : InfraObject) : Option PowerState :=
  object.status.bind InfraMachineStatus.observedPowerState

/-- Proxmox publishes no endorsement certificates. -/
def tpmEndorsementCertificates (object : InfraObject) : List String :=
  match object.machine.kind with
  | .proxmox => []
  | _ => (object.status.map InfraMachineStatus.tpmEndorsementCertificates).getD []

def deleting (object : InfraObject) : Bool := object.machine.metadata.deletionTimestamp.isSome

end InfraObject

/-! ## Building -/

def buildInfraMachine (kind : InfraKind) (vm : VirtualMachine) (vmClass : VMClass) (image : VMImage)
    (decision : Decision) (provider : Provider) (renderedUserData : Option String) :
    Except InfraBuildError InfraMachine :=
  match kind with
  | .vSphere =>
    (buildVSphereMachine vm vmClass image decision provider renderedUserData).map .vSphere
  | .libvirt =>
    (buildLibvirtMachine vm vmClass image decision provider renderedUserData).map .libvirt
  | .cloudHypervisor =>
    (buildCloudHypervisorMachine vm vmClass image decision provider renderedUserData).map
      .cloudHypervisor
  | .proxmox =>
    (buildProxmoxMachine vm vmClass image decision provider renderedUserData).map .proxmox

/-- Every interface with the static address it was given, if any. -/
def InfraMachine.staticAddresses (machine : InfraMachine) : List (String × Option String) :=
  machine.interfaces.map fun (name, ipam) => (name, ipam.static.map StaticIpamConfig.address)

/-- The addresses a machine asks for, by the interfaces of its class. -/
def requestedAddresses (vm : VirtualMachine) (vmClass : VMClass) (decision : Decision) :
    List (String × Option String) :=
  List.zipWith (fun nic _ => (nic.name, (staticFor vm nic).map StaticIpamConfig.address))
    vmClass.spec.network.interfaces decision.resolvedNetworks

/-- What the machines of all backends have in common. -/
structure BuiltFrom (kind : InfraKind) (vm : VirtualMachine) (vmClass : VMClass) (decision : Decision)
    (machine : InfraMachine) : Prop where
  kind : machine.kind = kind
  metadata : machine.metadata = infraMetadata vm
  providerRef : machine.providerRef = ⟨decision.providerName⟩
  failureDomain : machine.failureDomain = some decision.failureDomainName
  staticAddresses : machine.staticAddresses = requestedAddresses vm vmClass decision

section BuiltFrom

variable {vm : VirtualMachine} {vmClass : VMClass} {image : VMImage} {decision : Decision}
  {provider : Provider} {userData : Option String}

theorem staticAddresses_eq {ν : Type} {build : NetworkInterfaceSpec → ResolvedResource → ν}
    {view : ν → String × IpamSpec} (named : ∀ nic resolved, (view (build nic resolved)).1 = nic.name)
    (addressed : ∀ nic resolved, (view (build nic resolved)).2.static.map StaticIpamConfig.address =
        (staticFor vm nic).map StaticIpamConfig.address) :
    ((List.zipWith build vmClass.spec.network.interfaces decision.resolvedNetworks).map view).map
        (fun (name, ipam) => (name, ipam.static.map StaticIpamConfig.address)) =
      requestedAddresses vm vmClass decision := by
  simp only [requestedAddresses, List.map_zipWith, named, addressed]

theorem buildVSphereMachine_builtFrom {machine : VSphereMachine}
    (built : buildVSphereMachine vm vmClass image decision provider userData = .ok machine) :
    BuiltFrom .vSphere vm vmClass decision (.vSphere machine) := by
  obtain ⟨datacenter, -, built⟩ := exists_of_bind_eq_ok built
  obtain ⟨cluster, -, built⟩ := exists_of_bind_eq_ok built
  obtain ⟨osStorage, -, built⟩ := exists_of_bind_eq_ok built
  obtain ⟨⟨template, folder⟩, -, built⟩ := exists_of_bind_eq_ok built
  cases built
  exact ⟨rfl, rfl, rfl, rfl, staticAddresses_eq (fun _ _ => rfl) fun _ _ => mergeIpamOverride_address _ _ _⟩

theorem buildLibvirtMachine_builtFrom {machine : LibvirtMachine}
    (built : buildLibvirtMachine vm vmClass image decision provider userData = .ok machine) :
    BuiltFrom .libvirt vm vmClass decision (.libvirt machine) := by
  obtain ⟨osStorage, -, built⟩ := exists_of_bind_eq_ok built
  obtain ⟨⟨volume, folder⟩, -, built⟩ := exists_of_bind_eq_ok built
  cases built
  exact ⟨rfl, rfl, rfl, rfl, staticAddresses_eq (fun _ _ => rfl) fun _ _ => mergeIpamOverride_address _ _ _⟩

theorem buildCloudHypervisorMachine_builtFrom {machine : CloudHypervisorMachine}
    (built : buildCloudHypervisorMachine vm vmClass image decision provider userData = .ok machine) :
    BuiltFrom .cloudHypervisor vm vmClass decision (.cloudHypervisor machine) := by
  obtain ⟨osDisk, -, built⟩ := exists_of_bind_eq_ok built
  simp only at built
  split at built
  · contradiction
  obtain ⟨storage, -, built⟩ := exists_of_bind_eq_ok built
  obtain ⟨imageRef, -, built⟩ := exists_of_bind_eq_ok built
  cases built
  exact ⟨rfl, rfl, rfl, rfl, staticAddresses_eq (fun _ _ => rfl) fun _ _ => mergeIpamOverride_address _ _ _⟩

theorem proxmoxNics_ok {interfaces : List NetworkInterfaceSpec} {networks : List ResolvedResource}
    {nics : List ProxmoxNicSpec}
    (built : (interfaces.zip networks).mapM (fun entry => proxmoxNic vm provider entry.1 entry.2) = .ok nics) :
    nics.map (fun nic => (nic.name, nic.ipam.static.map StaticIpamConfig.address)) =
      List.zipWith (fun nic _ => (nic.name, (staticFor vm nic).map StaticIpamConfig.address)) interfaces networks := by
  induction interfaces generalizing networks nics with
  | nil =>
    cases built
    rfl
  | cons nic rest ih =>
    cases networks with
    | nil =>
      cases built
      rfl
    | cons resolved later =>
      rw [List.zip_cons_cons, List.mapM_cons] at built
      obtain ⟨spec, first, built⟩ := exists_of_bind_eq_ok built
      obtain ⟨specs, others, built⟩ := exists_of_bind_eq_ok built
      obtain ⟨vlan, -, first⟩ := exists_of_bind_eq_ok first
      cases built
      cases first
      rw [List.map_cons, List.zipWith_cons_cons, ih others, mergeIpamOverride_address]

theorem buildProxmoxMachine_builtFrom {machine : ProxmoxMachine}
    (built : buildProxmoxMachine vm vmClass image decision provider userData = .ok machine) :
    BuiltFrom .proxmox vm vmClass decision (.proxmox machine) := by
  obtain ⟨node, -, built⟩ := exists_of_bind_eq_ok built
  obtain ⟨osDisk, -, built⟩ := exists_of_bind_eq_ok built
  obtain ⟨osStorage, -, built⟩ := exists_of_bind_eq_ok built
  obtain ⟨⟨resolvedRef, folder⟩, -, built⟩ := exists_of_bind_eq_ok built
  obtain ⟨templateVmid, -, built⟩ := exists_of_bind_eq_ok built
  simp only at built
  split at built
  · contradiction
  obtain ⟨nics, wired, built⟩ := exists_of_bind_eq_ok built
  obtain ⟨isoStorage, -, built⟩ := exists_of_bind_eq_ok built
  split at built
  · contradiction
  cases built
  refine ⟨rfl, rfl, rfl, rfl, ?_⟩
  simp only [InfraMachine.staticAddresses, InfraMachine.interfaces, List.map_map, Function.comp_def]
  exact proxmoxNics_ok wired

theorem buildInfraMachine_builtFrom {kind : InfraKind} {machine : InfraMachine}
    (built : buildInfraMachine kind vm vmClass image decision provider userData = .ok machine) :
    BuiltFrom kind vm vmClass decision machine := by
  cases kind with
  | vSphere =>
    obtain ⟨own, ownBuilt, rfl⟩ := exists_of_map_eq_ok built
    exact buildVSphereMachine_builtFrom ownBuilt
  | libvirt =>
    obtain ⟨own, ownBuilt, rfl⟩ := exists_of_map_eq_ok built
    exact buildLibvirtMachine_builtFrom ownBuilt
  | cloudHypervisor =>
    obtain ⟨own, ownBuilt, rfl⟩ := exists_of_map_eq_ok built
    exact buildCloudHypervisorMachine_builtFrom ownBuilt
  | proxmox =>
    obtain ⟨own, ownBuilt, rfl⟩ := exists_of_map_eq_ok built
    exact buildProxmoxMachine_builtFrom ownBuilt

end BuiltFrom

end Banlieue.Infra
