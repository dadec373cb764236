import Banlieue.Api.Common

namespace Banlieue.Api

open Banlieue.Data

/-! # Classes -/

inductive DiskProvisioning where
  | thin | thick | eagerZeroed
deriving DecidableEq

structure DiskSpec where
  name : String
  sizeGiB : UInt32
  storageClass : String
  provisioning : DiskProvisioning := .thin
deriving DecidableEq

structure HardwareSpec where
  cpus : UInt32
  memoryMiB : UInt32
  disks : List DiskSpec := []
deriving DecidableEq

structure NetworkInterfaceSpec where
  name : String
  networkClass : String
  ipam : IpamShape := {}
deriving DecidableEq

structure NetworkSpec where
  interfaces : List NetworkInterfaceSpec := []
deriving DecidableEq

structure VMClassSpec where
  hardware : HardwareSpec
  network : NetworkSpec := {}
  firmware : Firmware := .efi
  features : List String := []
  tpmEnabled : Bool := false
deriving DecidableEq

structure VMClass where
  metadata : ObjectMeta
  spec : VMClassSpec
deriving DecidableEq

def VMClass.name (vmClass : VMClass) : String := vmClass.metadata.name

/-! # Images -/

inductive ImageSourceKind where
  | template | backingFile | url
deriving DecidableEq

structure ImageSource where
  providerClass : String
  kind : ImageSourceKind
deriving DecidableEq

inductive InstallMode where
  | immediate | deferred | manual
deriving DecidableEq, Inhabited

structure VMImageTemplate where
  installMode : InstallMode := .immediate
deriving DecidableEq

structure VMImageSpec where
  sources : List ImageSource := []
  template : Option VMImageTemplate := none
  firstBootSealing : Option FirstBootSealing := none
deriving DecidableEq

structure ZoneImageStatus where
  name : String
  ready : Bool
  resolvedRef : Option String := none
  templateFolder : Option String := none
deriving DecidableEq

structure ImagePerProviderStatus where
  providerName : String
  ready : Bool
  resolvedRef : Option String := none
  zones : List ZoneImageStatus := []
  providerNamespace : String := ""
  reason : Option String := none
deriving DecidableEq

structure BuildArtifactStatus where
  osArtifactUid : Option String := none
  firstBootSealingLayer : Bool := false
deriving DecidableEq

/-- How it is known that an image seals itself on first boot. -/
inductive FirstBootSealingProvenance where
  | built | asserted
deriving DecidableEq

structure VMImageStatus where
  perProvider : List ImagePerProviderStatus := []
  buildArtifact : Option BuildArtifactStatus := none
  conditions : List Condition := []
  firstBootSealing : Option FirstBootSealingProvenance := none
deriving DecidableEq

structure VMImage where
  metadata : ObjectMeta
  spec : VMImageSpec := {}
  status : Option VMImageStatus := none
deriving DecidableEq

def VMImage.name (image : VMImage) : String := image.metadata.name

/-! # Virtual machines -/

inductive AffinityMode where
  | required | preferred
deriving DecidableEq, Inhabited

structure AntiAffinityRule where
  topologyKey : String
  labelSelector : LabelSelector
  mode : AffinityMode := .required
deriving DecidableEq

def AntiAffinityRule.modeIsRequired (rule : AntiAffinityRule) : Bool :=
  rule.mode == .required

structure PlacementSpec where
  providerSelector : Option LabelSelector := none
  failureDomainSelector : Option LabelSelector := none
  antiAffinity : List AntiAffinityRule := []
deriving DecidableEq

structure DiskOverride where
  name : String
  sizeGiB : UInt32
deriving DecidableEq

structure HardwareOverride where
  cpus : Option UInt32 := none
  memoryMiB : Option UInt32 := none
  diskOverrides : List DiskOverride := []
deriving DecidableEq

structure NetworkInterfaceOverride where
  name : String
  static : StaticIpamConfig
deriving DecidableEq

inductive MigrationPolicy where
  | automatic | manual | never
deriving DecidableEq, Inhabited

structure KeySelector where
  name : String
  key : Option String := none
deriving DecidableEq

def KeySelector.keyOr (selector : KeySelector) (default : String) : String :=
  selector.key.getD default

def defaultUserDataKey : String := "user-data"

/-- Guest bootstrap data, from a Secret or from a ConfigMap. -/
structure UserDataSpec where
  secretRef : Option KeySelector := none
  configMapRef : Option KeySelector := none
deriving DecidableEq

def UserDataSpec.sourceCount (source : UserDataSpec) : Nat :=
  source.secretRef.isSome.toNat + source.configMapRef.isSome.toNat

/-- Exactly one source must be set. -/
def UserDataSpec.validate (source : UserDataSpec) : Except String Unit :=
  match source.sourceCount with
  | 1 => .ok ()
  | 0 => .error "userData: exactly one of secretRef, configMapRef must be set (none were)"
  | _ => .error "userData: exactly one of secretRef, configMapRef must be set (more than one was)"

structure VirtualMachineSpec where
  classRef : LocalObjectReference
  imageRef : LocalObjectReference
  placement : PlacementSpec := {}
  desiredPowerState : PowerState := .poweredOn
  userData : Option UserDataSpec := none
  migrationPolicy : MigrationPolicy := .automatic
  paused : Bool := false
  networkOverrides : List NetworkInterfaceOverride := []
  hardwareOverride : Option HardwareOverride := none
  folder : Option String := none
deriving DecidableEq

structure ResolvedResource where
  className : String
  backendId : String
deriving DecidableEq

structure ScheduledPlacement where
  providerName : String
  providerClass : String
  failureDomain : String
  resolvedStorage : List ResolvedResource := []
  resolvedNetworks : List ResolvedResource := []
  scheduledAt : Option Timestamp := none
deriving DecidableEq

/-- A static address the infra machine was last applied with. -/
structure HeldAddress where
  interface : String
  networkClass : String
  address : String
deriving DecidableEq

structure VirtualMachineStatus where
  scheduled : Option ScheduledPlacement := none
  infrastructureRef : Option TypedObjectReference := none
  initialization : InitializationStatus := {}
  addresses : List MachineAddress := []
  observedPowerState : Option PowerState := none
  tpmEndorsementCertificates : List String := []
  heldAddresses : List HeldAddress := []
  conditions : List Condition := []
  observedGeneration : Option Int := none
deriving DecidableEq

structure VirtualMachine where
  metadata : ObjectMeta
  spec : VirtualMachineSpec
  status : Option VirtualMachineStatus := none
deriving DecidableEq

namespace VirtualMachine

def name (vm : VirtualMachine) : String := vm.metadata.name

def labels (vm : VirtualMachine) : Labels := vm.metadata.labels

def scheduled (vm : VirtualMachine) : Option ScheduledPlacement :=
  vm.status.bind VirtualMachineStatus.scheduled

end VirtualMachine

/-! # Pool labels -/

def annotationCreatedBy : String := "banlieue.io/created-by"

def labelPool : String := "banlieue.io/pool"

def labelPoolImageRevision : String := "banlieue.io/pool-image-revision"

def labelClaim : String := "banlieue.io/claim"

namespace VirtualMachine

def poolLabel (vm : VirtualMachine) : Option String := vm.labels.get labelPool

def claimLabel (vm : VirtualMachine) : Option String := vm.labels.get labelClaim

def deleting (vm : VirtualMachine) : Bool := vm.metadata.deletionTimestamp.isSome

end VirtualMachine

end Banlieue.Api
