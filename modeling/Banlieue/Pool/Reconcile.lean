import Banlieue.Pool.Members
import Banlieue.Controller.Server

namespace Banlieue.Pool

open Banlieue.Api Banlieue.Data Banlieue.Controller

/-! # A reconcile pass of a pool -/

def publish (pool : VirtualMachinePool) (generation : Int) (views : List MemberView)
    (revision : String) (blocked : Option (String × String)) : Pass Unit := do
  let warmAt ← Pass.timestampNow
  let capacityAt ← Pass.timestampNow
  let status := publishedStatus pool generation views revision blocked warmAt capacityAt
  Pass.require .kube (.applyPoolStatus pool.name status) id

/-- Delete the planned members one by one; one that is already gone is fine. -/
def deleteMembers : List (String × DeleteReason) → Pass Unit
  | [] => return ()
  | (member, _) :: rest => do
    match ← Pass.deleteVm member with
    | .ok () => deleteMembers rest
    | .error reason => if reason = .notFound then deleteMembers rest else throw (.kube reason)

def createMembers (pool : VirtualMachinePool) (revision : String) : List NewMember → Pass Unit
  | [] => return ()
  | new :: rest => do
    match buildMember pool revision new with
    | none => throw (.missing "metadata.uid")
    | some vm =>
      Pass.require .kube (.createVm vm) id
      createMembers pool revision rest

/-- What a pass does once it has listed the members. -/
def applyPlan (pool : VirtualMachinePool) (revision : String) (members : List VirtualMachine)
    (now : Timestamp) : Pass Action := do
  let generation := pool.metadata.generation.getD 0
  let views := members.map fun vm => memberView vm pool.spec.readiness now
  match poolInputs pool revision with
  | .error message =>
    publish pool generation views revision
      (some (PoolConditionReasons.addressRangeExhausted, message))
    return .requeueLong
  | .ok inputs =>
    let decided := plan inputs views
    deleteMembers decided.delete
    createMembers pool revision decided.create
    publish pool generation views revision (blockedOn pool members decided)
    return if decided.create.isEmpty && decided.delete.isEmpty then .requeueLong
      else .requeueDefault

def reconcile (pool : VirtualMachinePool) : Pass Action := do
  match pool.metadata.namespaceName with
  | none => throw (.missing "namespace")
  | some _ =>
    if pool.metadata.deletionTimestamp.isSome then return .requeueLong
    else
      let image ← Pass.getImage pool.spec.template.spec.imageRef.name
      let revision := imageRevision image
      let members ← Pass.listVms pool.name
      let now ← Pass.timestampNow
      applyPlan pool revision members now

end Banlieue.Pool
