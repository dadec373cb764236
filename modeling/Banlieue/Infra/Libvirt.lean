import Banlieue.Infra.Common

namespace Banlieue.Infra

open Banlieue.Data Banlieue.Api Banlieue.Scheduler

/-! # The libvirt machine built from a decision -/

def targetKeyLibvirtNetwork : String := "network"

def targetKeyLibvirtBridge : String := "bridge"

inductive LibvirtBootSourceKind where
  | backingVolume | installMedia
deriving DecidableEq

structure LibvirtBootSource where
  kind : LibvirtBootSourceKind
  volume : String
deriving DecidableEq

inductive LibvirtDiskBus where
  | virtio | scsi | sata
deriving DecidableEq

structure LibvirtDiskSpec where
  name : String
  sizeGiB : UInt32
  bus : LibvirtDiskBus
deriving DecidableEq

inductive LibvirtNicSourceKind where
  | network | bridge
deriving DecidableEq

structure LibvirtNicSource where
  kind : LibvirtNicSourceKind
  name : String
deriving DecidableEq

structure LibvirtNicSpec where
  name : String
  source : LibvirtNicSource
  model : Option String
  macAddress : Option String
  ipam : IpamSpec
deriving DecidableEq

structure LibvirtMachineSpec where
  providerId : Option String
  failureDomain : Option String
  providerRef : LocalObjectReference
  pool : String
  domainName : String
  bootSource : LibvirtBootSource
  vcpus : UInt32
  memoryMiB : UInt32
  firmware : Firmware
  machineType : Option String
  tpmEnabled : Bool
  disks : List LibvirtDiskSpec
  network : List LibvirtNicSpec
  userData : Option String
  desiredPowerState : PowerState
  firstBootSealing : Option FirstBootSealing
deriving DecidableEq

structure LibvirtMachine where
  metadata : ObjectMeta
  spec : LibvirtMachineSpec
deriving DecidableEq

/-- One host has one flat name space of domains, so the name is qualified. -/
def domainNameFor (vm : VirtualMachine) : String :=
  match vm.metadata.namespaceName with
  | some namespaceName => namespaceName ++ "-" ++ vm.name
  | none => vm.name

def bootSourceKind (image : VMImage) : LibvirtBootSourceKind :=
  match (image.spec.template.map VMImageTemplate.installMode).getD .immediate with
  | .immediate => .backingVolume
  | .deferred | .manual => .installMedia

/-- A class that names neither is taken for a managed network. -/
def nicSourceKind (mapping : Option NetworkClassMapping) : LibvirtNicSourceKind :=
  match mapping.bind fun found => found.targetFor "" "" with
  | some target => if target.containsKey targetKeyLibvirtBridge then .bridge else .network
  | none => .network

def libvirtDisk (vm : VirtualMachine) (disk : DiskSpec) : LibvirtDiskSpec where
  name := disk.name
  sizeGiB := mergeDiskSizeOverride disk vm.spec.hardwareOverride
  bus := .virtio

/-- A host has no zones, so the class's default subnet applies. -/
def libvirtNic (vm : VirtualMachine) (provider : Provider) (nic : NetworkInterfaceSpec)
    (resolved : ResolvedResource) : LibvirtNicSpec where
  name := nic.name
  source := { kind := nicSourceKind (networkMapping provider nic), name := resolved.backendId }
  model := none
  macAddress := none
  ipam := mergeIpamOverride nic.ipam (staticFor vm nic)
    ((networkMapping provider nic).bind fun mapping => mapping.subnetFor "" "")

def buildLibvirtMachine (vm : VirtualMachine) (vmClass : VMClass) (image : VMImage)
    (decision : Decision) (provider : Provider) (renderedUserData : Option String) :
    Except InfraBuildError LibvirtMachine := do
  let osStorage ← decision.resolvedStorage.head?.elim (.error (.unresolvedClass "(no disks)")) .ok
  let (volume, _) ←
    (resolveTemplateRef image decision.providerName decision.failureDomainName).elim
      (.error (.missingResolvedImageRef image.name decision.providerName decision.failureDomainName)) .ok
  return {
    metadata := infraMetadata vm
    spec :=
      { providerId := none
        failureDomain := some decision.failureDomainName
        providerRef := ⟨decision.providerName⟩
        pool := osStorage.backendId
        domainName := domainNameFor vm
        bootSource := { kind := bootSourceKind image, volume := volume }
        vcpus := cpusFor vm vmClass
        memoryMiB := memoryMiBFor vm vmClass
        firmware := vmClass.spec.firmware
        machineType := none
        tpmEnabled := vmClass.spec.tpmEnabled
        disks := vmClass.spec.hardware.disks.map (libvirtDisk vm)
        network := List.zipWith (libvirtNic vm provider)
          vmClass.spec.network.interfaces decision.resolvedNetworks
        userData := renderedUserData
        desiredPowerState := vm.spec.desiredPowerState
        firstBootSealing := firstBootSealingFor vmClass image } }

end Banlieue.Infra
