import Banlieue.Data.SortedMap

namespace Banlieue.Api

open Banlieue.Data

/-- An instant, in nanoseconds since the epoch. -/
structure Timestamp where
  nanoseconds : Int
deriving DecidableEq, Inhabited

namespace Timestamp

def nanosecondsPerSecond : Int := 1000000000

/-- Whole seconds, rounded towards the epoch. -/
def asSecond (time : Timestamp) : Int := time.nanoseconds.tdiv nanosecondsPerSecond

def minSecond : Int := -377705023201

def maxSecond : Int := 253402207200

def max : Timestamp := ⟨maxSecond * nanosecondsPerSecond + 999999999⟩

def fromSecond (second : Int) : Option Timestamp :=
  if minSecond ≤ second ∧ second ≤ maxSecond then some ⟨second * nanosecondsPerSecond⟩ else none

instance : LE Timestamp := ⟨fun first second => first.nanoseconds ≤ second.nanoseconds⟩

instance (first second : Timestamp) : Decidable (first ≤ second) :=
  inferInstanceAs (Decidable (first.nanoseconds ≤ second.nanoseconds))

end Timestamp

abbrev Labels := SortedMap String String

structure OwnerReference where
  apiVersion : String
  kind : String
  name : String
  uid : String
  controller : Option Bool
  blockOwnerDeletion : Option Bool
deriving DecidableEq, Inhabited

/-- The metadata the controllers read.  An object that asks the API server to
generate its name has `generateName` set and an empty `name`. -/
structure ObjectMeta where
  name : String := ""
  generateName : Option String := none
  namespaceName : Option String := none
  uid : Option String := none
  generation : Option Int := none
  labels : Labels := SortedMap.empty
  annotations : SortedMap String String := SortedMap.empty
  finalizers : List String := []
  ownerReferences : List OwnerReference := []
  creationTimestamp : Option Timestamp := none
  deletionTimestamp : Option Timestamp := none
deriving DecidableEq, Inhabited

structure LocalObjectReference where
  name : String
deriving DecidableEq, Inhabited

structure TypedObjectReference where
  apiGroup : String
  kind : String
  name : String
  namespaceName : Option String := none
deriving DecidableEq, Inhabited

structure ApiEndpoint where
  host : String
  port : Int
deriving DecidableEq

structure ClusterFailureDomain where
  name : String
  controlPlane : Option Bool := none
  attributes : SortedMap String String := SortedMap.empty
deriving DecidableEq

/-- Whether the infrastructure is fully provisioned. -/
structure InitializationStatus where
  provisioned : Option Bool := none
deriving DecidableEq, Inhabited

structure Condition where
  type : String
  status : String
  reason : String
  message : String
  observedGeneration : Option Int
  lastTransitionTime : Timestamp
deriving DecidableEq, Inhabited

/-- An error of a request: the HTTP status the API server answers with, or no
answer at all. -/
inductive KubeError where
  | api (code : Nat)
  | transport
deriving DecidableEq

namespace KubeError

def notFound : KubeError := .api 404

def conflict : KubeError := .api 409

def invalid : KubeError := .api 422

end KubeError

namespace ConditionTypes

def ready : String := "Ready"

def infrastructureReady : String := "InfrastructureReady"

def guestReady : String := "GuestReady"

def scheduled : String := "Scheduled"

def placementValid : String := "PlacementValid"

theorem ready_ne_guestReady : ready ≠ guestReady := by
  decide

end ConditionTypes

inductive MachineAddressType where
  | hostname | externalIP | internalIP | externalDNS | internalDNS
deriving DecidableEq

structure MachineAddress where
  addressType : MachineAddressType
  address : String
deriving DecidableEq

inductive PowerState where
  | poweredOn | poweredOff | suspended
deriving DecidableEq, Inhabited

inductive Firmware where
  | bios | efi | efiSecure
deriving DecidableEq, Inhabited

/-! ## Metadata -/

namespace ObjectMeta

/-- The owner reference of a controller, for an object the API server has given
a UID. -/
def controllerOwnerRef (metadata : ObjectMeta) (kind : String) : Option OwnerReference :=
  metadata.uid.map fun uid =>
    { apiVersion := "banlieue.io/v1alpha1", kind := kind, name := metadata.name, uid := uid,
      controller := some true, blockOwnerDeletion := none }

/-- An object is deleted at once unless a finalizer holds it: then it is marked,
at the first request only. -/
def markDeleted (metadata : ObjectMeta) (now : Timestamp) : ObjectMeta :=
  { metadata with
    deletionTimestamp := metadata.deletionTimestamp.or (some now)
    generation :=
      if metadata.deletionTimestamp.isSome then metadata.generation
      else metadata.generation.map (· + 1) }

end ObjectMeta

/-! ## Label selectors -/

inductive LabelSelectorOperator where
  | In | NotIn | Exists | DoesNotExist
deriving DecidableEq

structure LabelSelectorRequirement where
  key : String
  operator : LabelSelectorOperator
  values : List String := []
deriving DecidableEq

structure LabelSelector where
  matchLabels : SortedMap String String := SortedMap.empty
  matchExpressions : List LabelSelectorRequirement := []
deriving DecidableEq

/-! ## Address management -/

structure StaticIpamConfig where
  address : String
  prefixLen : UInt8
  gateway : Option String := none
  nameservers : List String := []
  domain : Option String := none
deriving DecidableEq

structure PoolIpamConfig where
  poolRef : TypedObjectReference
deriving DecidableEq

/-- A class never carries a per-VM address, so only its pool is carried over. -/
structure IpamShape where
  pool : Option PoolIpamConfig := none
deriving DecidableEq

structure IpamSpec where
  static : Option StaticIpamConfig
  pool : Option PoolIpamConfig
deriving DecidableEq

structure FirstBootSealing where
  partitions : List String
  timeoutSeconds : UInt32
deriving DecidableEq

end Banlieue.Api
