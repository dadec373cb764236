import Banlieue.Controller.Machines
import Banlieue.Controller.Claims
import Banlieue.Data.Machine

namespace Banlieue.Controller

open Banlieue.Api Banlieue.Data Banlieue.Sdk

/-! # The API server as the pool and claim controllers use it -/

structure MemberPatch where
  claim : String
  subject : ClaimSubject
  owner : OwnerReference
deriving DecidableEq

def MemberPatch.apply (patch : MemberPatch) (vm : VirtualMachine) : VirtualMachine :=
  { vm with
    metadata := { vm.metadata with
      labels := vm.metadata.labels.insert labelClaim patch.claim
      annotations :=
        (vm.metadata.annotations.insert annotationSubjectIssuer patch.subject.issuer).insert
          annotationSubjectId patch.subject.id
      ownerReferences := [patch.owner] } }

variable (patch : MemberPatch) (vm : VirtualMachine)

theorem MemberPatch.apply_name : (patch.apply vm).name = vm.name := rfl

theorem MemberPatch.apply_claimLabel : (patch.apply vm).claimLabel = some patch.claim := by
  simp only [VirtualMachine.claimLabel, VirtualMachine.labels, MemberPatch.apply, SortedMap.get_insert_self]

theorem MemberPatch.apply_poolLabel : (patch.apply vm).poolLabel = vm.poolLabel := by
  simp only [VirtualMachine.poolLabel, VirtualMachine.labels, MemberPatch.apply]
  exact SortedMap.get_insert_of_ne _ _ (by decide)

/-- What is merged into a claim's status; a field that is `none` is left as it is. -/
structure ClaimStatusPatch where
  phase : ClaimPhase
  conditions : List Condition
  observedGeneration : Int
  virtualMachineRef : Option LocalObjectReference := none
  boundAt : Option Timestamp := none
  expiresAt : Option Timestamp := none
  addresses : Option (List MachineAddress) := none
  tpmEndorsementCertificates : Option (List String) := none
deriving DecidableEq

def ClaimStatusPatch.apply (patch : ClaimStatusPatch) (claim : VirtualMachineClaim) :
    VirtualMachineClaim :=
  let status := claim.status.getD {}
  { claim with
    status := some { status with
      phase := patch.phase
      conditions := patch.conditions
      observedGeneration := some patch.observedGeneration
      virtualMachineRef := patch.virtualMachineRef.or status.virtualMachineRef
      boundAt := patch.boundAt.or status.boundAt
      expiresAt := patch.expiresAt.or status.expiresAt
      addresses := patch.addresses.getD status.addresses
      tpmEndorsementCertificates :=
        patch.tpmEndorsementCertificates.getD status.tpmEndorsementCertificates } }

inductive Call where
  | now
  | getVm (name : String)
  | listVms (pool : String)
  | patchVm (name : String) (resourceVersion : Nat) (patch : MemberPatch)
  | deleteVm (name : String)
  | createVm (vm : VirtualMachine)
  | getPool (name : String)
  | applyPoolStatus (name : String) (status : VirtualMachinePoolStatus)
  | getImage (name : String)
  | patchFinalizers (claim : String) (finalizers : List String)
  | patchClaimStatus (claim : String) (patch : ClaimStatusPatch)
  | deleteClaim (claim : String)

abbrev Reply : Call → Type
  | .now => Timestamp
  | .getVm _ => Except KubeError (Option (Versioned VirtualMachine))
  | .listVms _ => Except KubeError (List VirtualMachine)
  | .getPool _ => Except KubeError (Option VirtualMachinePool)
  | .getImage _ => Except KubeError VMImage
  | .patchVm _ _ _ | .deleteVm _ | .createVm _ | .applyPoolStatus _ _ | .patchFinalizers _ _
  | .patchClaimStatus _ _ | .deleteClaim _ => Except KubeError Unit

structure Server where
  now : Timestamp
  machines : Machines
  claims : Claims
  pools : String → Option VirtualMachinePool
  images : String → Option VMImage
  poolsNamed : ∀ name, ∀ pool ∈ pools name, pool.name = name
  /-- The binds that have been carried out: member and claim. -/
  binds : List (String × String)

namespace Server

variable (server : Server)

/-- The patch is carried out only on the version it names. -/
def patchVm (name : String) (resourceVersion : Nat) (patch : MemberPatch) :
    Except KubeError Unit × Server :=
  match server.machines.get name with
  | none => (.error .notFound, server)
  | some object =>
    if object.version = resourceVersion then
      (.ok (), { server with
        machines := server.machines.modify name patch.apply patch.apply_name
        binds := server.binds ++ [(name, patch.claim)] })
    else (.error .conflict, server)

def deleteVm (name : String) : Except KubeError Unit × Server :=
  match server.machines.delete name server.now with
  | none => (.error .notFound, server)
  | some machines => (.ok (), { server with machines := machines })

/-- The name is generated; `suffix` is what the API server comes up with. -/
def createVm (suffix : String) (vm : VirtualMachine) : Except KubeError Unit × Server :=
  match server.machines.create (vm.metadata.generateName.getD "" ++ suffix) vm with
  | none => (.error .conflict, server)
  | some machines => (.ok (), { server with machines := machines })

/-- Carry out a write of a claim that exists. -/
def writeClaim (claims : Option Claims) : Except KubeError Unit × Server :=
  match claims with
  | none => (.error .notFound, server)
  | some claims => (.ok (), { server with claims := claims })

def withFinalizers (finalizers : List String) (claim : VirtualMachineClaim) : VirtualMachineClaim :=
  { claim with metadata := { claim.metadata with finalizers := finalizers } }

def markClaim (now : Timestamp) (claim : VirtualMachineClaim) : VirtualMachineClaim :=
  { claim with metadata := claim.metadata.markDeleted now }

/-- A merge patch replaces the list; an object that is being deleted takes no new
finalizer. -/
def patchFinalizers (claim : String) (finalizers : List String) : Except KubeError Unit × Server :=
  match server.claims.live claim with
  | none => (.error .notFound, server)
  | some live =>
    if Held.accepts ⟨live.metadata.finalizers, live.deleting⟩ finalizers then
      server.writeClaim (server.claims.modify claim (withFinalizers finalizers)
        fun _ => ⟨rfl, rfl⟩)
    else (.error .invalid, server)

def patchClaimStatus (claim : String) (patch : ClaimStatusPatch) : Except KubeError Unit × Server :=
  server.writeClaim (server.claims.modify claim patch.apply fun _ => ⟨rfl, rfl⟩)

def deleteClaim (claim : String) : Except KubeError Unit × Server :=
  server.writeClaim (server.claims.modify claim (markClaim server.now) fun _ => ⟨rfl, rfl⟩)

def applyPoolStatus (name : String) (status : VirtualMachinePoolStatus) :
    Except KubeError Unit × Server :=
  match found : server.pools name with
  | none => (.error .notFound, server)
  | some pool =>
    (.ok (), { server with
      pools := Function.update server.pools name (some { pool with status := some status })
      poolsNamed := by
        intro key stored
        by_cases same : key = name
        · subst same
          rw [Function.update_self]
          rintro ⟨⟩
          exact server.poolsNamed key pool found
        · rw [Function.update_of_ne same]
          exact server.poolsNamed key stored })

/-- What the network does with a call, and the name a create comes out under. -/
structure Choice where
  delivery : Delivery
  suffix : String := ""
deriving DecidableEq

def serve (choice : Choice) : (call : Call) → Reply call × Server
  | .now => (server.now, server)
  | .getVm name => request (.ok (server.machines.get name), server)
  | .listVms pool => request (.ok (server.machines.listPool pool), server)
  | .getPool name => request (.ok (server.pools name), server)
  | .getImage name =>
    request (match server.images name with
      | some image => (.ok image, server)
      | none => (.error .notFound, server))
  | .patchVm name resourceVersion patch => request (server.patchVm name resourceVersion patch)
  | .deleteVm name => request (server.deleteVm name)
  | .createVm vm => request (server.createVm choice.suffix vm)
  | .applyPoolStatus name status => request (server.applyPoolStatus name status)
  | .patchFinalizers claim finalizers => request (server.patchFinalizers claim finalizers)
  | .patchClaimStatus claim patch => request (server.patchClaimStatus claim patch)
  | .deleteClaim claim => request (server.deleteClaim claim)
where
  request {α : Type} (carriedOut : Except KubeError α × Server) : Except KubeError α × Server :=
    choice.delivery.outcome server (.error .transport) carriedOut

/-! ## What else happens in the cluster

Users, other controllers and the garbage collector act at any time.  The labels
of a member are left to its pool and its claim.
-/

inductive Disturbance where
  | tick (time : Timestamp)
  | editVm (vm : VirtualMachine)
  | deleteVm (name : String)
  | createVm (name : String) (vm : VirtualMachine)
  | createClaim (claim : VirtualMachineClaim)
  | deleteClaim (name : String)
  | setPool (name : String) (pool : Option VirtualMachinePool)
  | setImage (name : String) (image : Option VMImage)

/-- A write that neither relabels nor deletes the machine; one that takes the last
finalizer off a deleted machine lets it go. -/
def editVm (vm : VirtualMachine) : Option Server :=
  (server.machines.get vm.name).bind fun object =>
    if vm.claimLabel = object.value.claimLabel ∧ vm.poolLabel = object.value.poolLabel ∧
        vm.deleting = object.value.deleting then
      if vm.deleting && vm.metadata.finalizers.isEmpty then
        some { server with machines := server.machines.erase vm.name }
      else
        some { server with
          machines := server.machines.modify vm.name
            (fun old => if old.name = vm.name then vm else old)
            (by intro old; split <;> simp_all) }
    else none

def setPool (name : String) (pool : Option VirtualMachinePool) : Option Server :=
  if named : ∀ found ∈ pool, found.name = name then
    some { server with
      pools := Function.update server.pools name pool
      poolsNamed := by
        intro key found
        by_cases same : key = name
        · subst same
          rw [Function.update_self]
          exact named found
        · rw [Function.update_of_ne same]
          exact server.poolsNamed key found }
  else none

def disturb : Disturbance → Option Server
  | .tick time => if server.now ≤ time then some { server with now := time } else none
  | .editVm vm => server.editVm vm
  | .deleteVm name =>
    (server.machines.delete name server.now).map fun machines =>
      { server with machines := machines }
  | .createVm name vm =>
    if vm.claimLabel = none then
      (server.machines.create name vm).map fun machines => { server with machines := machines }
    else none
  | .createClaim claim =>
    if claim.status = none ∧ claim.deleting = false then
      (server.claims.create claim).map fun claims => { server with claims := claims }
    else none
  | .deleteClaim name =>
    (server.claims.modify name (markClaim server.now) fun _ => ⟨rfl, rfl⟩).map fun claims =>
      { server with claims := claims }
  | .setPool name pool => server.setPool name pool
  | .setImage name image =>
    some { server with images := Function.update server.images name image }

end Server

/-! ## Requests of a reconcile pass -/

inductive Error where
  | sdk (reason : KubeError)
  | kube (reason : KubeError)
  | missing (field : String)
deriving DecidableEq

inductive Action where
  | requeue (seconds : Nat)
  | awaitChange
deriving DecidableEq

namespace Action

def requeueDefault : Action := .requeue 30

def requeueLong : Action := .requeue 300

end Action

abbrev Pass := ExceptT Error (Program Call Reply)

namespace Pass

def ask (call : Call) : Pass (Reply call) := ExceptT.lift (.request call)

def require {α : Type} (wrap : KubeError → Error) (call : Call)
    (reply : Reply call → Except KubeError α) : Pass α := do
  match reply (← ask call) with
  | .ok value => return value
  | .error reason => throw (wrap reason)

def timestampNow : Pass Timestamp := ask .now

def getVm (name : String) : Pass (Option (Versioned VirtualMachine)) :=
  require .kube (.getVm name) id

def listVms (pool : String) : Pass (List VirtualMachine) := require .kube (.listVms pool) id

def getPool (name : String) : Pass (Option VirtualMachinePool) := require .kube (.getPool name) id

def getImage (name : String) : Pass VMImage := require .kube (.getImage name) id

def deleteVm (name : String) : Pass (Except KubeError Unit) := ask (.deleteVm name)

/-- Patch the finalizers if the cached copy asks for it. -/
def patchFinalizers (claim : VirtualMachineClaim) (next : Option (List String)) : Pass Unit :=
  match next with
  | none => return ()
  | some finalizers => require .sdk (.patchFinalizers claim.name finalizers) id

def ensureFinalizer (claim : VirtualMachineClaim) (finalizer : String) : Pass Unit :=
  patchFinalizers claim (finalizerListWith claim.metadata.finalizers finalizer)

def removeFinalizer (claim : VirtualMachineClaim) (finalizer : String) : Pass Unit :=
  patchFinalizers claim (finalizerListWithout claim.metadata.finalizers finalizer)

end Pass

end Banlieue.Controller
