import Banlieue.Infra.Common

namespace Banlieue.Infra

open Banlieue.Data Banlieue.Api Banlieue.Scheduler

/-! # The vSphere machine built from a decision -/

def fdRawVSphereDatacenter : String := "datacenter"

def fdRawVSphereCluster : String := "cluster"

structure VSphereDiskSpec where
  name : String
  sizeGiB : UInt32
  provisioning : DiskProvisioning
deriving DecidableEq

structure VSphereNicSpec where
  name : String
  portGroup : String
  macAddress : Option String
  ipam : IpamSpec
deriving DecidableEq

structure VSphereMachineSpec where
  providerId : Option String
  failureDomain : Option String
  providerRef : LocalObjectReference
  template : String
  templateFolder : Option String
  datacenter : String
  cluster : String
  datastore : String
  folder : Option String
  resourcePool : Option String
  numCpus : UInt32
  memoryMiB : UInt32
  firmware : Firmware
  tpmEnabled : Bool
  disks : List VSphereDiskSpec
  network : List VSphereNicSpec
  userData : Option String
  desiredPowerState : PowerState
  createdBy : Option String
  firstBootSealing : Option FirstBootSealing
deriving DecidableEq

structure VSphereMachine where
  metadata : ObjectMeta
  spec : VSphereMachineSpec
deriving DecidableEq

/-- The text after the first `] `, if the reference starts with a bracket. -/
def bareTemplateName (resolvedRef : String) : String :=
  match resolvedRef.toList with
  | '[' :: rest => (afterBracket rest).elim resolvedRef String.ofList
  | _ => resolvedRef
where
  afterBracket : List Char → Option (List Char)
    | ']' :: ' ' :: name => some name
    | _ :: rest => afterBracket rest
    | [] => none

def vSphereDisk (vm : VirtualMachine) (disk : DiskSpec) : VSphereDiskSpec where
  name := disk.name
  sizeGiB := mergeDiskSizeOverride disk vm.spec.hardwareOverride
  provisioning := disk.provisioning

def vSphereNic (vm : VirtualMachine) (provider : Provider) (datacenter cluster : String)
    (nic : NetworkInterfaceSpec) (resolved : ResolvedResource) : VSphereNicSpec where
  name := nic.name
  portGroup := resolved.backendId
  macAddress := none
  ipam := mergeIpamOverride nic.ipam (staticFor vm nic)
    ((networkMapping provider nic).bind fun mapping => mapping.subnetFor datacenter cluster)

def buildVSphereMachine (vm : VirtualMachine) (vmClass : VMClass) (image : VMImage)
    (decision : Decision) (provider : Provider) (renderedUserData : Option String) :
    Except InfraBuildError VSphereMachine := do
  let datacenter ← failureDomainAttribute decision fdRawVSphereDatacenter
  let cluster ← failureDomainAttribute decision fdRawVSphereCluster
  let osStorage ← decision.resolvedStorage.head?.elim (.error (.unresolvedClass "(no disks)")) .ok
  let (template, templateFolder) ←
    (resolveTemplateRef image decision.providerName decision.failureDomainName).elim
      (.error (.missingResolvedImageRef image.name decision.providerName decision.failureDomainName)) .ok
  return {
    metadata := infraMetadata vm
    spec :=
      { providerId := none
        failureDomain := some decision.failureDomainName
        providerRef := ⟨decision.providerName⟩
        template := bareTemplateName template
        templateFolder := templateFolder
        datacenter := datacenter
        cluster := cluster
        datastore := osStorage.backendId
        folder := vm.spec.folder.or templateFolder
        resourcePool := none
        numCpus := cpusFor vm vmClass
        memoryMiB := memoryMiBFor vm vmClass
        firmware := vmClass.spec.firmware
        tpmEnabled := vmClass.spec.tpmEnabled
        disks := vmClass.spec.hardware.disks.map (vSphereDisk vm)
        network := List.zipWith (vSphereNic vm provider datacenter cluster)
          vmClass.spec.network.interfaces decision.resolvedNetworks
        userData := renderedUserData
        desiredPowerState := vm.spec.desiredPowerState
        createdBy := vm.metadata.annotations.get annotationCreatedBy
        firstBootSealing := firstBootSealingFor vmClass image } }

end Banlieue.Infra
