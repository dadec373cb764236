import Mathlib.Data.Prod.Lex
import Mathlib.Order.Std
import Banlieue.Scheduler.Filters

namespace Banlieue.Scheduler

open Banlieue.Data Banlieue.Api

/-! # The placement function -/

/-- The arguments of one scheduling pass. -/
structure Inputs where
  vm : VirtualMachine
  vmClass : VMClass
  image : VMImage
  providers : List Provider
  existingVms : List VirtualMachine
  classes : List VMClass

abbrev Candidate := Provider × FailureDomain

structure Decision where
  providerName : String
  providerNamespace : String
  providerClass : String
  failureDomainName : String
  resolvedStorage : List ResolvedResource
  resolvedNetworks : List ResolvedResource
  failureDomainRaw : SortedMap String String
  failureDomainLabels : Labels
deriving DecidableEq

inductive ScheduleError where
  | noProviderMatched
  | noFailureDomainMatched (reasons : String)
  | imageNotReady
  | firmwareUnsupported
  | tpmUnsupported
  | antiAffinityUnsatisfied (topologyKey : String)
  | providerNotAlive
deriving DecidableEq

namespace ScheduleError

def reason : ScheduleError → String
  | .noProviderMatched => "NoProviderMatched"
  | .noFailureDomainMatched _ => "NoFailureDomainMatched"
  | .imageNotReady => "ImageNotReady"
  | .firmwareUnsupported => "FirmwareUnsupported"
  | .tpmUnsupported => "TpmUnsupported"
  | .antiAffinityUnsatisfied _ => "AntiAffinityUnsatisfied"
  | .providerNotAlive => "ProviderNotAlive"

def message : ScheduleError → String
  | .noProviderMatched => "no providers matched providerSelector"
  | .noFailureDomainMatched reasons => "no failure domain matched all constraints: " ++ reasons
  | .imageNotReady => "image not ready on any candidate provider"
  | .firmwareUnsupported =>
    "efi-secure firmware requires the efiSecureBoot feature; none of the candidate failure " ++
      "domains advertise it"
  | .tpmUnsupported =>
    "tpmEnabled requires the vtpm feature; none of the candidate failure domains advertise it"
  | .antiAffinityUnsatisfied topologyKey =>
    "required anti-affinity rule on topologyKey=" ++ topologyKey ++ " left no candidates"
  | .providerNotAlive => "every matching provider has stopped renewing its Lease"

end ScheduleError

/-! ## Reject reasons -/

def maxRejectReasons : Nat := 10

/-- The first reasons, and how many more were dropped. -/
structure RejectReasons where
  kept : List String := []
  omitted : Nat := 0
deriving DecidableEq

namespace RejectReasons

def push (reasons : RejectReasons) (reason : String) : RejectReasons :=
  if reasons.kept.length < maxRejectReasons then
    { reasons with kept := reasons.kept ++ [reason] }
  else { reasons with omitted := reasons.omitted + 1 }

def render (reasons : RejectReasons) : String :=
  let message := "; ".intercalate reasons.kept
  if reasons.omitted > 0 then message ++ s!"; … and {reasons.omitted} more" else message

end RejectReasons

/-! ## One candidate -/

def Inputs.classesByName (inputs : Inputs) : SortedMap String VMClass :=
  SortedMap.ofList (inputs.classes.map fun vmClass => (vmClass.name, vmClass))

/-- The domain's capacity check; a domain that publishes no capacity is not
checked. -/
def Inputs.insufficientCapacity (inputs : Inputs) (provider : Provider) (fd : FailureDomain) :
    Option String :=
  fd.attributes.capacity.bind fun capacity =>
    let overhead := capacity.memoryOverheadMiBPerVm.getD 0
    let used := usageOn inputs.vm inputs.existingVms inputs.classesByName provider.name fd.name overhead
    let ratio := (provider.spec.scheduling.map ProviderScheduling.ratio).getD defaultCpuOvercommitRatio
    capacityShortfall inputs.vmClass.spec.hardware.cpus
      (inputs.vmClass.spec.hardware.memoryMiB.toUInt64 + overhead) used capacity ratio

/-- A rejected candidate: its reason, and whether it fell to the firmware or the
vTPM check. -/
structure Rejection where
  reason : String
  firmwareUnsupported : Bool := false
  tpmUnsupported : Bool := false
deriving DecidableEq

/-- The first of the per-candidate checks that fails. -/
def Inputs.rejection (inputs : Inputs) (provider : Provider) (fd : FailureDomain) : Option Rejection :=
  let hardware := inputs.vmClass.spec.hardware
  if !selectorMatches inputs.vm.spec.placement.failureDomainSelector fd.labels then
    some { reason := s!"{provider.name}/{fd.name}: failureDomainSelector did not match" }
  else if !imageReadyOnProvider inputs.image provider.name then
    some { reason := s!"{provider.name}/{fd.name}: image {inputs.image.name} not ready on this provider" }
  else if !imageReadyInZone inputs.image provider fd.name then
    some { reason :=
      s!"{provider.name}/{fd.name}: image {inputs.image.name} has no ready template in this zone" }
  else
    match firstMissing (hardware.disks.map DiskSpec.storageClass) fd.attributes.availableStorageClasses with
    | some missing =>
      some { reason := s!"{provider.name}/{fd.name}: storage class '{missing}' not available" }
    | none =>
    match firstMissing (inputs.vmClass.spec.network.interfaces.map NetworkInterfaceSpec.networkClass)
        fd.attributes.availableNetworkClasses with
    | some missing =>
      some { reason := s!"{provider.name}/{fd.name}: network class '{missing}' not available" }
    | none =>
    match firstMissing inputs.vmClass.spec.features fd.attributes.features with
    | some missing =>
      some { reason := s!"{provider.name}/{fd.name}: feature '{missing}' not available" }
    | none =>
    if inputs.vmClass.spec.firmware = .efiSecure ∧ featureEfiSecureBoot ∉ fd.attributes.features then
      some {
        reason := s!"{provider.name}/{fd.name}: efi-secure firmware requested but '{featureEfiSecureBoot}' feature absent"
        firmwareUnsupported := true }
    else if inputs.vmClass.spec.tpmEnabled ∧ featureVtpm ∉ fd.attributes.features then
      some {
        reason := s!"{provider.name}/{fd.name}: tpmEnabled requested but '{featureVtpm}' feature absent"
        tpmUnsupported := true }
    else
      (inputs.insufficientCapacity provider fd).map fun short =>
        { reason := s!"{provider.name}/{fd.name}: insufficient capacity: {short}" }

/-! ## The walk over all candidates -/

structure Walk where
  rejectReasons : RejectReasons := {}
  imageReadySeen : Bool := false
  firmwareUnsupportedSeen : Bool := false
  tpmUnsupportedSeen : Bool := false
  survivors : List Candidate := []

def Inputs.visitFailureDomain (inputs : Inputs) (provider : Provider) (walk : Walk)
    (fd : FailureDomain) : Walk :=
  match inputs.rejection provider fd with
  | none => { walk with survivors := walk.survivors ++ [(provider, fd)] }
  | some rejected =>
    { walk with
      rejectReasons := walk.rejectReasons.push rejected.reason
      firmwareUnsupportedSeen := walk.firmwareUnsupportedSeen || rejected.firmwareUnsupported
      tpmUnsupportedSeen := walk.tpmUnsupportedSeen || rejected.tpmUnsupported }

def Inputs.visitProvider (inputs : Inputs) (walk : Walk) (provider : Provider) : Walk :=
  let walk :=
    { walk with
      imageReadySeen := walk.imageReadySeen || imageReadyOnProvider inputs.image provider.name }
  provider.failureDomains.foldl (inputs.visitFailureDomain provider) walk

def Inputs.walk (inputs : Inputs) (providers : List Provider) : Walk :=
  providers.foldl inputs.visitProvider {}

/-! ## Anti-affinity, spread and the decision -/

/-- A candidate without the label is never blocked. -/
def keptByRule (rule : AntiAffinityRule) (existingVms : List VirtualMachine) (candidate : Candidate) :
    Bool :=
  (candidate.2.labels.get rule.topologyKey).all fun value =>
    !(blockedTopologyValues rule existingVms).contains value

/-- Applies the rules in order; the first one that leaves nothing is reported. -/
def applyAntiAffinity (existingVms : List VirtualMachine) :
    List AntiAffinityRule → List Candidate → Except String (List Candidate)
  | [], survivors => .ok survivors
  | rule :: rules, survivors =>
    let kept := survivors.filter (keptByRule rule existingVms)
    if kept.isEmpty then .error rule.topologyKey else applyAntiAffinity existingVms rules kept

def Inputs.requiredRules (inputs : Inputs) : List AntiAffinityRule :=
  inputs.vm.spec.placement.antiAffinity.filter AntiAffinityRule.modeIsRequired

def Inputs.rendezvous (inputs : Inputs) (candidate : Candidate) : UInt64 :=
  fnv1a [inputs.vm.name, candidate.1.name, candidate.2.name]

/-- Group load, then total load, then the highest rendezvous hash. -/
def Inputs.spreadKey (inputs : Inputs) (candidate : Candidate) : ℕ ×ₗ ℕ ×ₗ ℕᵒᵈ :=
  let load := placementLoad inputs.vm inputs.existingVms candidate.1.name candidate.2.name
  toLex (load.1, toLex (load.2, OrderDual.toDual (inputs.rendezvous candidate).toNat))

inductive StorageOrNetwork where
  | storage | network

/-- The value of the first key of the class's target in that zone. -/
def firstTargetValue (caps : ProviderCapabilities) (className : String) (kind : StorageOrNetwork)
    (datacenter cluster : String) : Option String :=
  match kind with
  | .storage =>
    ((caps.storageClasses.find? fun mapping => mapping.name == className).bind fun mapping =>
      mapping.targetFor datacenter cluster).bind SortedMap.firstValue
  | .network =>
    ((caps.networkClasses.find? fun mapping => mapping.name == className).bind fun mapping =>
      mapping.targetFor datacenter cluster).bind SortedMap.firstValue

def buildDecision (vmClass : VMClass) (provider : Provider) (fd : FailureDomain) : Decision :=
  let datacenter := (fd.attributes.raw.get "datacenter").getD ""
  let cluster := (fd.attributes.raw.get "cluster").getD ""
  let resolve (kind : StorageOrNetwork) (className : String) : ResolvedResource :=
    { className
      backendId :=
        (firstTargetValue provider.spec.capabilities className kind datacenter cluster).getD className }
  { providerName := provider.name
    providerNamespace := provider.metadata.namespaceName.getD "default"
    providerClass := provider.spec.providerClassRef.name
    failureDomainName := fd.name
    resolvedStorage :=
      vmClass.spec.hardware.disks.map fun disk => resolve .storage disk.storageClass
    resolvedNetworks :=
      vmClass.spec.network.interfaces.map fun nic => resolve .network nic.networkClass
    failureDomainRaw := fd.attributes.raw
    failureDomainLabels := fd.labels }

/-- What an empty walk reports. -/
def Walk.failure (walk : Walk) : ScheduleError :=
  if !walk.imageReadySeen then .imageNotReady
  else if walk.firmwareUnsupportedSeen then .firmwareUnsupported
  else if walk.tpmUnsupportedSeen then .tpmUnsupported
  else .noFailureDomainMatched walk.rejectReasons.render

def schedule (inputs : Inputs) : Except ScheduleError Decision :=
  let matching := inputs.providers.filter fun provider =>
    selectorMatches inputs.vm.spec.placement.providerSelector provider.labels
  if matching.isEmpty then .error .noProviderMatched
  else
    let alive := matching.filter fun provider => !isStale provider
    if alive.isEmpty then .error .providerNotAlive
    else
      let walk := inputs.walk alive
      if walk.survivors.isEmpty then .error walk.failure
      else
        match applyAntiAffinity inputs.existingVms inputs.requiredRules walk.survivors with
        | .error topologyKey => .error (.antiAffinityUnsatisfied topologyKey)
        | .ok survivors =>
          match survivors.minOn? inputs.spreadKey with
          | none => .error (.antiAffinityUnsatisfied "")
          | some (provider, fd) => .ok (buildDecision inputs.vmClass provider fd)

/-- The placement a decision records in a machine's status. -/
def Decision.toScheduledPlacement (decision : Decision) (now : Timestamp) : ScheduledPlacement :=
  { providerName := decision.providerName
    providerClass := decision.providerClass
    failureDomain := decision.failureDomainName
    resolvedStorage := decision.resolvedStorage
    resolvedNetworks := decision.resolvedNetworks
    scheduledAt := some now }

end Banlieue.Scheduler
