import Banlieue.Api.Provider
import Banlieue.Api.VirtualMachine

namespace Banlieue.Scheduler

open Banlieue.Data Banlieue.Api

/-! # What the scheduler measures and filters on -/

def featureEfiSecureBoot : String := "efiSecureBoot"

def featureVtpm : String := "vtpm"

/-! ## Label selectors -/

def requirementHolds (labels : Labels) (requirement : LabelSelectorRequirement) : Bool :=
  let present := labels.get requirement.key
  match requirement.operator with
  | .In => present.any fun value => requirement.values.contains value
  | .NotIn => present.all fun value => !requirement.values.contains value
  | .Exists => present.isSome
  | .DoesNotExist => present.isNone

/-- An absent selector matches everything. -/
def selectorMatches (selector : Option LabelSelector) (labels : Labels) : Bool :=
  match selector with
  | none => true
  | some selector =>
    selector.matchLabels.entries.all (fun entry => labels.get entry.1 == some entry.2) &&
      selector.matchExpressions.all (requirementHolds labels)

/-! ## Liveness, images and classes -/

def isStale (provider : Provider) : Bool :=
  (provider.status.bind fun status => status.workload.bind ProviderWorkloadStatus.heartbeat) ==
    some Heartbeat.stale

def imageReadyOnProvider (image : VMImage) (providerName : String) : Bool :=
  image.status.any fun status =>
    status.perProvider.any fun row => row.providerName == providerName && row.ready

/-- A zone entry decides only for a template source whose row lists zones; every
other image is left to the provider-level check. -/
def imageReadyInZone (image : VMImage) (provider : Provider) (zone : String) : Bool :=
  let templateSourced := image.spec.sources.any fun source =>
    source.providerClass == provider.spec.providerClassRef.name && source.kind == .template
  if !templateSourced then true
  else
    match image.status.bind fun status =>
        status.perProvider.find? fun row => row.providerName == provider.name with
    | none => true
    | some row =>
      if row.zones.isEmpty then true
      else row.zones.any fun entry => entry.name == zone && entry.ready

def firstMissing (requested available : List String) : Option String :=
  requested.find? fun wanted => !available.contains wanted

/-! ## Rendezvous hash -/

def fnvOffsetBasis : UInt64 := 0xcbf29ce484222325

def fnvPrime : UInt64 := 0x00000100000001b3

def utf8Bytes (text : String) : List UInt8 := text.toList.flatMap String.utf8EncodeChar

/-- Each part is followed by a NUL, so that no two splits of a text collide by
construction. -/
def fnv1a (parts : List String) : UInt64 :=
  parts.foldl
    (fun hash part =>
      (utf8Bytes part ++ [0]).foldl (fun hash (byte : UInt8) => (hash ^^^ byte.toUInt64) * fnvPrime) hash)
    fnvOffsetBasis

/-! ## Load and usage -/

def isScheduledOn (provider failureDomain : String) (other : VirtualMachine) : Bool :=
  other.scheduled.any fun placement =>
    placement.providerName == provider && placement.failureDomain == failureDomain

/-- The machines other than `vm` that are recorded on a failure domain. -/
def othersScheduledOn (vm : VirtualMachine) (existingVms : List VirtualMachine)
    (provider failureDomain : String) : List VirtualMachine :=
  (existingVms.filter fun other => other.name != vm.name).filter
    (isScheduledOn provider failureDomain)

/-- The machines of the spread group, then all of them. -/
def placementLoad (vm : VirtualMachine) (existingVms : List VirtualMachine)
    (provider failureDomain : String) : Nat × Nat :=
  let pool := vm.labels.get labelPool
  (othersScheduledOn vm existingVms provider failureDomain).foldl
    (fun load other =>
      let sameGroup := pool.isNone || other.labels.get labelPool == pool
      (load.1 + sameGroup.toNat, load.2 + 1))
    (0, 0)

structure Usage where
  cpus : UInt64 := 0
  memoryMiB : UInt64 := 0
deriving DecidableEq

/-- A machine whose class is unknown counts at zero. -/
def Usage.count (classes : SortedMap String VMClass) (overheadMiB : UInt64) (used : Usage)
    (other : VirtualMachine) : Usage :=
  match classes.get other.spec.classRef.name with
  | none => used
  | some vmClass =>
    { cpus := used.cpus + vmClass.spec.hardware.cpus.toUInt64
      memoryMiB := used.memoryMiB + vmClass.spec.hardware.memoryMiB.toUInt64 + overheadMiB }

def usageOn (vm : VirtualMachine) (existingVms : List VirtualMachine)
    (classes : SortedMap String VMClass) (provider failureDomain : String) (overheadMiB : UInt64) :
    Usage :=
  (othersScheduledOn vm existingVms provider failureDomain).foldl (Usage.count classes overheadMiB) {}

def memoryShortfall (memoryMiB : UInt64) (used : Usage) (capacity : FailureDomainCapacity) :
    Option String :=
  capacity.memoryMiB.bind fun available =>
    let needed := used.memoryMiB + memoryMiB
    if needed > available then some s!"memory {needed} MiB > {available} MiB" else none

def cpuShortfall (cpus : UInt32) (used : Usage) (capacity : FailureDomainCapacity)
    (cpuOvercommitRatio : UInt32) : Option String :=
  capacity.cpus.bind fun hostCpus =>
    let needed := used.cpus + cpus.toUInt64
    let allowed := hostCpus.toUInt64 * cpuOvercommitRatio.toUInt64
    if needed > allowed then some s!"vCPUs {needed} > {hostCpus} CPUs x {cpuOvercommitRatio}" else none

/-- Why a machine does not fit beside `used`, memory first. -/
def capacityShortfall (cpus : UInt32) (memoryMiB : UInt64) (used : Usage)
    (capacity : FailureDomainCapacity) (cpuOvercommitRatio : UInt32) : Option String :=
  (memoryShortfall memoryMiB used capacity).or (cpuShortfall cpus used capacity cpuOvercommitRatio)

/-! ## Anti-affinity -/

/-- The recorded failure-domain names of the machines the rule selects. -/
def blockedTopologyValues (rule : AntiAffinityRule) (existingVms : List VirtualMachine) : List String :=
  (existingVms.filter fun vm => selectorMatches (some rule.labelSelector) vm.labels).filterMap
    fun vm => vm.scheduled.map ScheduledPlacement.failureDomain

end Banlieue.Scheduler
