import Banlieue.Api.Common

namespace Banlieue.Api

open Banlieue.Data

/-! # Providers and their failure domains -/

structure ScopedTarget where
  datacenter : String
  cluster : String
  target : SortedMap String String
deriving DecidableEq

structure SubnetShape where
  gateway : Option String := none
  nameservers : List String := []
  domain : Option String := none
deriving DecidableEq

structure ScopedSubnet where
  datacenter : String
  cluster : String
  subnet : SubnetShape
deriving DecidableEq

/-- An exact zone match wins, else the default target. -/
def scopedTargetFor (perZone : List ScopedTarget) (target : Option (SortedMap String String))
    (datacenter cluster : String) : Option (SortedMap String String) :=
  ((perZone.find? fun zone => zone.datacenter == datacenter && zone.cluster == cluster).map
    ScopedTarget.target).or target

structure StorageClassMapping where
  name : String
  target : Option (SortedMap String String) := none
  perZone : List ScopedTarget := []
deriving DecidableEq

def StorageClassMapping.targetFor (mapping : StorageClassMapping) (datacenter cluster : String) :
    Option (SortedMap String String) :=
  scopedTargetFor mapping.perZone mapping.target datacenter cluster

structure NetworkClassMapping where
  name : String
  target : Option (SortedMap String String) := none
  perZone : List ScopedTarget := []
  subnet : Option SubnetShape := none
  perZoneSubnet : List ScopedSubnet := []
deriving DecidableEq

namespace NetworkClassMapping

def targetFor (mapping : NetworkClassMapping) (datacenter cluster : String) :
    Option (SortedMap String String) :=
  scopedTargetFor mapping.perZone mapping.target datacenter cluster

def subnetFor (mapping : NetworkClassMapping) (datacenter cluster : String) : Option SubnetShape :=
  ((mapping.perZoneSubnet.find? fun zone =>
    zone.datacenter == datacenter && zone.cluster == cluster).map ScopedSubnet.subnet).or mapping.subnet

end NetworkClassMapping

structure ProviderCapabilities where
  storageClasses : List StorageClassMapping := []
  networkClasses : List NetworkClassMapping := []
deriving DecidableEq

def defaultCpuOvercommitRatio : UInt32 := 4

structure ProviderScheduling where
  cpuOvercommitRatio : Option UInt32 := none
deriving DecidableEq

def ProviderScheduling.ratio (scheduling : ProviderScheduling) : UInt32 :=
  scheduling.cpuOvercommitRatio.getD defaultCpuOvercommitRatio

structure ProviderSpec where
  providerClassRef : LocalObjectReference
  capabilities : ProviderCapabilities := {}
  scheduling : Option ProviderScheduling := none
deriving DecidableEq

/-- What guests may use in a failure domain; a figure that is absent is not
checked. -/
structure FailureDomainCapacity where
  cpus : Option UInt32 := none
  memoryMiB : Option UInt64 := none
  memoryOverheadMiBPerVm : Option UInt64 := none
deriving DecidableEq

structure FailureDomainAttributes where
  availableStorageClasses : List String := []
  availableNetworkClasses : List String := []
  features : List String := []
  raw : SortedMap String String := SortedMap.empty
  capacity : Option FailureDomainCapacity := none
deriving DecidableEq

structure FailureDomain where
  name : String
  labels : Labels := SortedMap.empty
  attributes : FailureDomainAttributes := {}
deriving DecidableEq

inductive Heartbeat where
  | alive | stale | absent
deriving DecidableEq

structure ProviderWorkloadStatus where
  heartbeat : Option Heartbeat := none
deriving DecidableEq

structure ProviderStatus where
  failureDomains : List FailureDomain := []
  workload : Option ProviderWorkloadStatus := none
deriving DecidableEq

structure Provider where
  metadata : ObjectMeta
  spec : ProviderSpec
  status : Option ProviderStatus := none
deriving DecidableEq

namespace Provider

def name (provider : Provider) : String := provider.metadata.name

def labels (provider : Provider) : Labels := provider.metadata.labels

def failureDomains (provider : Provider) : List FailureDomain :=
  (provider.status.map ProviderStatus.failureDomains).getD []

end Provider

end Banlieue.Api
