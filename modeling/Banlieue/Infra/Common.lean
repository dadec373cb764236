import Banlieue.Scheduler.Schedule
import Banlieue.Data.Basics

namespace Banlieue.Infra

open Banlieue.Data Banlieue.Api Banlieue.Scheduler

/-! # What the machine builders of all backends share -/

def providerClassVSphere : String := "vsphere"

def providerClassLibvirt : String := "libvirt"

def providerClassCloudHypervisor : String := "cloud-hypervisor"

def providerClassProxmox : String := "proxmox"

/-- The kind of infra machine a virtual machine becomes. -/
inductive InfraKind where
  | vSphere | libvirt | cloudHypervisor | proxmox
deriving DecidableEq

namespace InfraKind

/-- A provider class can be installed without there being a builder for it. -/
def fromProviderClass (providerClass : String) : Option InfraKind :=
  if providerClass = providerClassVSphere then some .vSphere
  else if providerClass = providerClassLibvirt then some .libvirt
  else if providerClass = providerClassCloudHypervisor then some .cloudHypervisor
  else if providerClass = providerClassProxmox then some .proxmox
  else none

def kindName : InfraKind → String
  | .vSphere => "VSphereMachine"
  | .libvirt => "LibvirtMachine"
  | .cloudHypervisor => "CloudHypervisorMachine"
  | .proxmox => "ProxmoxMachine"

/-- In the order in which the kinds are looked up. -/
def all : List InfraKind := [.vSphere, .libvirt, .cloudHypervisor, .proxmox]

end InfraKind

inductive InfraBuildError where
  | missingFdRaw (failureDomain key : String)
  | missingResolvedImageRef (image provider zone : String)
  | unresolvedClass (name : String)
  | unsupported (backend what : String)
  | invalidTemplateVmid (image resolvedRef : String)
  | invalidVlan (networkClass value : String)
  | invalidSpec (reason : String)
deriving DecidableEq

def InfraBuildError.message : InfraBuildError → String
  | .missingFdRaw failureDomain key =>
    "failure domain " ++ failureDomain ++ " missing raw attribute '" ++ key ++ "'"
  | .missingResolvedImageRef image provider zone =>
    "VMImage " ++ image ++ " has no resolved_ref for provider " ++ provider ++ " (zone " ++ zone ++ ")"
  | .unresolvedClass name =>
    "decision did not resolve class '" ++ name ++ "' to a backend identifier"
  | .unsupported backend what => backend ++ " does not support " ++ what ++ " yet"
  | .invalidTemplateVmid image resolvedRef =>
    "VMImage " ++ image ++ " resolvedRef " ++ resolvedRef.quote ++ " is not a Proxmox template VMID"
  | .invalidVlan networkClass value =>
    "network class " ++ networkClass ++ " has vlan " ++ value.quote ++ ", which is not a VLAN id"
  | .invalidSpec reason => "built spec is invalid: " ++ reason

/-! ## Overrides

The same expressions size the machine in the builders of every backend. -/

def memoryMiBFor (vm : VirtualMachine) (vmClass : VMClass) : UInt32 :=
  (vm.spec.hardwareOverride.bind HardwareOverride.memoryMiB).getD vmClass.spec.hardware.memoryMiB

def cpusFor (vm : VirtualMachine) (vmClass : VMClass) : UInt32 :=
  (vm.spec.hardwareOverride.bind HardwareOverride.cpus).getD vmClass.spec.hardware.cpus

def mergeDiskSizeOverride (disk : DiskSpec) (override : Option HardwareOverride) : UInt32 :=
  ((override.bind fun hardware => hardware.diskOverrides.find? fun entry => entry.name == disk.name).map
    DiskOverride.sizeGiB).getD disk.sizeGiB

/-- The address and its prefix length come from the machine; what else it leaves
unset is filled in from the zone's subnet. -/
def mergeIpamOverride (classIpam : IpamShape) (override : Option StaticIpamConfig)
    (zoneSubnet : Option SubnetShape) : IpamSpec :=
  match override with
  | some config =>
    { static := some
        { address := config.address
          prefixLen := config.prefixLen
          gateway := config.gateway.or (zoneSubnet.bind SubnetShape.gateway)
          nameservers :=
            if config.nameservers.isEmpty then (zoneSubnet.map SubnetShape.nameservers).getD []
            else config.nameservers
          domain := config.domain.or (zoneSubnet.bind SubnetShape.domain) }
      pool := none }
  | none => { static := none, pool := classIpam.pool }

theorem mergeIpamOverride_address (classIpam : IpamShape) (override : Option StaticIpamConfig)
    (zoneSubnet : Option SubnetShape) :
    (mergeIpamOverride classIpam override zoneSubnet).static.map StaticIpamConfig.address =
      override.map StaticIpamConfig.address := by
  cases override <;> rfl

/-! ## Image, ownership and labels -/

/-- A zone entry for the failure domain decides; without one the row's own
reference is used. -/
def resolveTemplateRef (image : VMImage) (providerName failureDomainName : String) :
    Option (String × Option String) :=
  image.status.bind fun status =>
    (status.perProvider.find? fun row => row.providerName == providerName).bind fun row =>
      match row.zones.find? fun zone => zone.name == failureDomainName with
      | some zone => zone.resolvedRef.map fun name => (name, zone.templateFolder)
      | none => row.resolvedRef.map fun name => (name, none)

def firstBootSealingFor (vmClass : VMClass) (image : VMImage) : Option FirstBootSealing :=
  if !vmClass.spec.tpmEnabled then none else image.spec.firstBootSealing

def ownerReferenceFor (vm : VirtualMachine) : OwnerReference :=
  { apiVersion := "banlieue.io/v1alpha1"
    kind := "VirtualMachine"
    name := vm.name
    uid := vm.metadata.uid.getD ""
    controller := some true
    blockOwnerDeletion := some true }

def propagateLabels (vm : VirtualMachine) : Labels :=
  vm.labels.insert "banlieue.io/owned-by" vm.name

/-- The machine's own settings for an interface of its class. -/
def staticFor (vm : VirtualMachine) (nic : NetworkInterfaceSpec) : Option StaticIpamConfig :=
  (vm.spec.networkOverrides.find? fun entry => entry.name == nic.name).map
    NetworkInterfaceOverride.static

def networkMapping (provider : Provider) (nic : NetworkInterfaceSpec) : Option NetworkClassMapping :=
  provider.spec.capabilities.networkClasses.find? fun mapping => mapping.name == nic.networkClass

def failureDomainAttribute (decision : Decision) (key : String) : Except InfraBuildError String :=
  (decision.failureDomainRaw.get key).elim
    (.error (.missingFdRaw decision.failureDomainName key)) .ok

/-- The name and namespace of the machine it is built for. -/
def infraMetadata (vm : VirtualMachine) : ObjectMeta where
  name := vm.name
  namespaceName := vm.metadata.namespaceName
  ownerReferences := [ownerReferenceFor vm]
  labels := propagateLabels vm

end Banlieue.Infra
