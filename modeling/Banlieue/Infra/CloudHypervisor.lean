import Banlieue.Infra.Common

namespace Banlieue.Infra

open Banlieue.Data Banlieue.Api Banlieue.Scheduler

/-! # The Cloud Hypervisor machine built from a decision -/

structure ChCpuSpec where
  boot : UInt32
  max : Option UInt32
deriving DecidableEq

structure ChMemorySpec where
  sizeMiB : UInt32
  hugepages : Bool
deriving DecidableEq

inductive ChBootSourceKind where
  | image | installMedia
deriving DecidableEq

structure ChBootSource where
  kind : ChBootSourceKind
  image : String
deriving DecidableEq

structure ChNicSpec where
  name : String
  networkClass : String
  macAddress : Option String
  ipam : IpamSpec
deriving DecidableEq

structure CloudHypervisorMachineSpec where
  providerId : Option String
  failureDomain : Option String
  providerRef : LocalObjectReference
  cpus : ChCpuSpec
  memory : ChMemorySpec
  storageClass : String
  bootSource : ChBootSource
  osDiskSizeGiB : UInt32
  nics : List ChNicSpec
  tpmEnabled : Bool
  userData : Option String
  desiredPowerState : PowerState
  firstBootSealing : Option FirstBootSealing
deriving DecidableEq

structure CloudHypervisorMachine where
  metadata : ObjectMeta
  spec : CloudHypervisorMachineSpec
deriving DecidableEq

def chBootSourceKind (image : VMImage) : ChBootSourceKind :=
  match (image.spec.template.map VMImageTemplate.installMode).getD .immediate with
  | .immediate => .image
  | .deferred | .manual => .installMedia

def chNic (vm : VirtualMachine) (provider : Provider) (nic : NetworkInterfaceSpec)
    (resolved : ResolvedResource) : ChNicSpec :=
  let override := (vm.spec.networkOverrides.find? fun entry => entry.name == nic.name).map
    NetworkInterfaceOverride.static
  let zoneSubnet := (provider.spec.capabilities.networkClasses.find? fun mapping =>
    mapping.name == nic.networkClass).bind fun mapping => mapping.subnetFor "" ""
  { name := nic.name
    networkClass := resolved.backendId
    macAddress := none
    ipam := mergeIpamOverride nic.ipam override zoneSubnet }

def buildCloudHypervisorMachine (vm : VirtualMachine) (vmClass : VMClass) (image : VMImage)
    (decision : Decision) (provider : Provider) (renderedUserData : Option String) :
    Except InfraBuildError CloudHypervisorMachine := do
  let disks := vmClass.spec.hardware.disks
  let osDisk ← disks.head?.elim (.error (.unresolvedClass "(no disks)")) .ok
  if disks.length > 1 then
    .error (.unsupported providerClassCloudHypervisor
      s!"data disks (class {vmClass.name} declares {disks.length})")
  let storage ← decision.resolvedStorage.head?.elim
    (.error (.unresolvedClass osDisk.storageClass)) .ok
  let imageRef ← (resolveTemplateRef image decision.providerName decision.failureDomainName).elim
    (.error (.missingResolvedImageRef image.name decision.providerName decision.failureDomainName)) .ok
  return {
    metadata :=
      { name := vm.name
        namespaceName := vm.metadata.namespaceName
        ownerReferences := [ownerReferenceFor vm]
        labels := propagateLabels vm }
    spec :=
      { providerId := none
        failureDomain := some decision.failureDomainName
        providerRef := ⟨decision.providerName⟩
        cpus := { boot := cpusFor vm vmClass, max := none }
        memory := { sizeMiB := memoryMiBFor vm vmClass, hugepages := false }
        storageClass := storage.backendId
        bootSource := { kind := chBootSourceKind image, image := imageRef.1 }
        osDiskSizeGiB := mergeDiskSizeOverride osDisk vm.spec.hardwareOverride
        nics := List.zipWith (chNic vm provider) vmClass.spec.network.interfaces decision.resolvedNetworks
        tpmEnabled := vmClass.spec.tpmEnabled
        userData := renderedUserData
        desiredPowerState := vm.spec.desiredPowerState
        firstBootSealing := firstBootSealingFor vmClass image } }

end Banlieue.Infra
