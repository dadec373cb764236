import Banlieue.Api.VirtualMachine

namespace Banlieue.Api

open Banlieue.Data

/-! # Pools -/

namespace PoolConditionTypes

def warm : String := "Warm"

def capacity : String := "Capacity"

def bound : String := "Bound"

end PoolConditionTypes

namespace PoolConditionReasons

def filling : String := "Filling"

def warm : String := "Warm"

def maxReplicasReached : String := "MaxReplicasReached"

def addressRangeExhausted : String := "AddressRangeExhausted"

def readinessSignalAbsent : String := "ReadinessSignalAbsent"

def noMemberAvailable : String := "NoMemberAvailable"

def poolNotFound : String := "PoolNotFound"

def expired : String := "Expired"

def released : String := "Released"

def memberLost : String := "MemberLost"

end PoolConditionReasons

structure VirtualMachineTemplate where
  labels : Labels := SortedMap.empty
  annotations : SortedMap String String := SortedMap.empty
  spec : VirtualMachineSpec
deriving DecidableEq

inductive PoolReadiness where
  | guestReady | infrastructureReady
deriving DecidableEq

structure PoolAddressing where
  interface : String
  pool : List String
  prefixLen : UInt8
  gateway : Option String := none
  nameservers : List String := []
  domain : Option String := none
deriving DecidableEq

structure VirtualMachinePoolSpec where
  warmReplicas : UInt32
  maxReplicas : UInt32
  maxSurge : UInt32 := 2
  template : VirtualMachineTemplate
  addressing : Option PoolAddressing := none
  readiness : PoolReadiness
  provisioningTimeoutSeconds : UInt64 := 1800
  maxIdleSeconds : Option UInt64 := none
  recycleOnImageChange : Bool := true
deriving DecidableEq

structure VirtualMachinePoolStatus where
  replicas : Nat := 0
  available : Nat := 0
  provisioning : Nat := 0
  claimed : Nat := 0
  imageRevision : Option String := none
  conditions : List Condition := []
  observedGeneration : Option Int := none
deriving DecidableEq

structure VirtualMachinePool where
  metadata : ObjectMeta
  spec : VirtualMachinePoolSpec
  status : Option VirtualMachinePoolStatus := none
deriving DecidableEq

def VirtualMachinePool.name (pool : VirtualMachinePool) : String := pool.metadata.name

/-! # Claims -/

def claimFinalizer : String := "banlieue.io/claim-protection"

def annotationSubjectIssuer : String := "banlieue.io/claim-subject-issuer"

def annotationSubjectId : String := "banlieue.io/claim-subject-id"

structure ClaimSubject where
  issuer : String
  id : String
deriving DecidableEq

structure VirtualMachineClaimSpec where
  poolRef : LocalObjectReference
  subject : ClaimSubject
  ttlSeconds : UInt64
deriving DecidableEq

inductive ClaimPhase where
  | pending | bound | releasing | failed
deriving DecidableEq, Inhabited

structure VirtualMachineClaimStatus where
  phase : ClaimPhase := .pending
  virtualMachineRef : Option LocalObjectReference := none
  addresses : List MachineAddress := []
  tpmEndorsementCertificates : List String := []
  boundAt : Option Timestamp := none
  expiresAt : Option Timestamp := none
  conditions : List Condition := []
  observedGeneration : Option Int := none
deriving DecidableEq

structure VirtualMachineClaim where
  metadata : ObjectMeta
  spec : VirtualMachineClaimSpec
  status : Option VirtualMachineClaimStatus := none
deriving DecidableEq

namespace VirtualMachineClaim

def name (claim : VirtualMachineClaim) : String := claim.metadata.name

/-- The member `status.virtualMachineRef` names. -/
def boundName (claim : VirtualMachineClaim) : Option String :=
  (claim.status.bind VirtualMachineClaimStatus.virtualMachineRef).map LocalObjectReference.name

def deleting (claim : VirtualMachineClaim) : Bool := claim.metadata.deletionTimestamp.isSome

end VirtualMachineClaim

end Banlieue.Api
