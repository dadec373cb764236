import Banlieue.Claim.Plan
import Banlieue.Controller.Server

namespace Banlieue.Claim

open Banlieue.Api Banlieue.Data Banlieue.Pool Banlieue.Sdk Banlieue.Controller

/-! # A reconcile pass of a claim -/

def pendingRetrySecs : Nat := 3

def bindRaceRetrySecs : Nat := 1

/-- What a status patch adds to the phase and the condition. -/
structure StatusExtra where
  virtualMachineRef : Option LocalObjectReference := none
  boundAt : Option Timestamp := none
  expiresAt : Option Timestamp := none
  addresses : Option (List MachineAddress) := none
  tpmEndorsementCertificates : Option (List String) := none
deriving DecidableEq

/-- The condition list is built anew, so it reads the clock each time. -/
def patchStatus (name : String) (phase : ClaimPhase) (reason message : String) (generation : Int)
    (extra : StatusExtra) : Pass Unit := do
  let status := if phase = .bound then ConditionStatus.true else ConditionStatus.false
  let now ← Pass.timestampNow
  let patch : ClaimStatusPatch := {
    phase := phase
    conditions := setCondition [] PoolConditionTypes.bound status reason message generation now
    observedGeneration := generation
    virtualMachineRef := extra.virtualMachineRef
    boundAt := extra.boundAt
    expiresAt := extra.expiresAt
    addresses := extra.addresses
    tpmEndorsementCertificates := extra.tpmEndorsementCertificates }
  Pass.require .kube (.patchClaimStatus name patch) id

/-- Choose a member of the claim's pool, after a fresh look for one it already has. -/
def pick (claim : VirtualMachineClaim) : Pass (Option String × Option VirtualMachinePool) := do
  match ← Pass.getPool claim.spec.poolRef.name with
  | none => return (none, none)
  | some pool =>
    let members ← Pass.listVms pool.name
    match memberBoundTo (labelled members) claim.name with
    | some ours => return (some ours, some pool)
    | none =>
      let now ← Pass.timestampNow
      let views := members.map fun vm => memberView vm pool.spec.readiness now
      let currentRevision :=
        (pool.status.bind VirtualMachinePoolStatus.imageRevision).getD ""
      return (pickMember views currentRevision, some pool)

def boundStatus (member : String) (boundAt expiresAt : Timestamp) : StatusExtra where
  virtualMachineRef := some ⟨member⟩
  boundAt := some boundAt
  expiresAt := some expiresAt

/-- Take a member: the patch names the version this pass has just read. -/
def bind (claim : VirtualMachineClaim) (member : String) (now : Timestamp) (generation : Int) :
    Pass Action := do
  match ← Pass.getVm member with
  | none => throw (.missing "member")
  | some vm =>
    match claim.metadata.controllerOwnerRef "VirtualMachineClaim" with
    | none => throw (.missing "metadata.uid")
    | some owner =>
      let patch : MemberPatch := {
        claim := claim.name, subject := claim.spec.subject, owner := owner }
      match ← Pass.ask (.patchVm member vm.version patch) with
      | .error reason =>
        if reason = .conflict then return .requeue bindRaceRetrySecs
        else throw (.kube reason)
      | .ok () =>
        let (boundAt, expiresAt) := expiry now claim.spec.ttlSeconds
        patchStatus claim.name .bound PoolConditionTypes.bound ("bound to " ++ member)
          generation (boundStatus member boundAt expiresAt)
        return .requeueDefault

/-- Mirror the member's observable state onto the claim. -/
def hold (claim : VirtualMachineClaim) (member : String) (vm : VirtualMachine)
    (generation : Int) : Pass Action := do
  let mirrored := mirroredMemberState vm
  patchStatus claim.name .bound PoolConditionTypes.bound ("bound to " ++ member) generation {
    addresses := some mirrored.addresses
    tpmEndorsementCertificates := some mirrored.tpmEndorsementCertificates }
  return .requeueDefault

/-- Let the claim go, once its member is gone. -/
def letGo (claim : VirtualMachineClaim) (deleting : Bool) : Pass Action := do
  if deleting then
    Pass.removeFinalizer claim claimFinalizer
    return .awaitChange
  else
    match ← Pass.ask (.deleteClaim claim.name) with
    | .ok () => return .requeueLong
    | .error reason =>
      if reason = .notFound then return .requeueLong else throw (.kube reason)

/-- Destroy the member the claim's status names, and let the claim go only when
there is none (left). -/
def release (claim : VirtualMachineClaim) (member : Option String) (deleting : Bool)
    (generation : Int) : Pass Action := do
  match member with
  | none => letGo claim deleting
  | some vm =>
    match ← Pass.deleteVm vm with
    | .ok () =>
      patchStatus claim.name .releasing
        (if deleting then PoolConditionReasons.released else PoolConditionReasons.expired)
        ("destroying member " ++ vm) generation {}
      return .requeueDefault
    | .error reason =>
      if reason = .notFound then letGo claim deleting else throw (.kube reason)

def apply (claim : VirtualMachineClaim) (boundVm : Option (Versioned VirtualMachine))
    (pool : Option VirtualMachinePool) (now : Timestamp) (generation : Int) :
    ClaimStep → Pass Action
  | .release member deleting => release claim member deleting generation
  | .hold member => do
    Pass.ensureFinalizer claim claimFinalizer
    match boundVm with
    | none => throw (.missing "bound member")
    | some vm => hold claim member vm.value generation
  | .fail member => do
    Pass.ensureFinalizer claim claimFinalizer
    patchStatus claim.name .failed PoolConditionReasons.memberLost
      ("bound member " ++ member ++ " no longer exists; claims are never rebound") generation {}
    return .awaitChange
  | .bind member => do
    Pass.ensureFinalizer claim claimFinalizer
    bind claim member now generation
  | .wait => do
    Pass.ensureFinalizer claim claimFinalizer
    let (reason, message) := waitReason {
      poolName := claim.spec.poolRef.name
      poolExists := pool.isSome
      warm := pool.bind warmCondition }
    patchStatus claim.name .pending reason message generation {}
    return .requeue pendingRetrySecs

/-- What the pass knows of its claim before it picks. -/
def claimInputs (claim : VirtualMachineClaim) (boundVm : Option (Versioned VirtualMachine))
    (now : Timestamp) : ClaimInputs where
  deleting := claim.deleting
  expired := (claim.status.bind VirtualMachineClaimStatus.expiresAt).any (isExpired · now)
  bound := claim.boundName.map fun name => { name := name, «exists» := boundVm.isSome }

/-- One lookup for the existence of the bound member and for what `hold` mirrors. -/
def boundMember (claim : VirtualMachineClaim) : Pass (Option (Versioned VirtualMachine)) :=
  match claim.boundName with
  | some vm => Pass.getVm vm
  | none => return none

def reconcile (claim : VirtualMachineClaim) : Pass Action := do
  match claim.metadata.namespaceName with
  | none => throw (.missing "namespace")
  | some _ =>
    let generation := claim.metadata.generation.getD 0
    let boundVm ← boundMember claim
    let now ← Pass.timestampNow
    let inputs := claimInputs claim boundVm now
    match nextStep inputs none with
    | .wait =>
      let (candidate, pool) ← pick claim
      apply claim boundVm pool now generation (nextStep inputs candidate)
    | step => apply claim boundVm none now generation step

end Banlieue.Claim
