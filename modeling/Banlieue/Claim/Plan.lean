import Mathlib.Data.String.Basic
import Mathlib.Algebra.Group.Int.Defs
import Mathlib.Data.Prod.Lex
import Mathlib.Order.OrderDual
import Banlieue.Pool.Members
import Banlieue.Data.FirstLeast

namespace Banlieue.Claim

open Banlieue.Api Banlieue.Data Banlieue.Pool

/-! # The decisions behind a claim -/

structure BoundMember where
  name : String
  «exists» : Bool
deriving DecidableEq

structure ClaimInputs where
  deleting : Bool
  expired : Bool
  bound : Option BoundMember
deriving DecidableEq

inductive ClaimStep where
  | release (member : Option String) (deleting : Bool)
  | hold (member : String)
  | fail (member : String)
  | bind (member : String)
  | wait
deriving DecidableEq

/-- Release outranks a healthy binding, and a vanished member is never replaced. -/
def nextStep (inputs : ClaimInputs) (candidate : Option String) : ClaimStep :=
  if inputs.deleting || inputs.expired then
    .release (inputs.bound.map BoundMember.name) inputs.deleting
  else
    match inputs.bound with
    | some bound => if bound.exists then .hold bound.name else .fail bound.name
    | none =>
      match candidate with
      | some member => .bind member
      | none => .wait

variable {inputs : ClaimInputs} {candidate : Option String} {members : List VirtualMachine}
  {claim name currentRevision : String}

theorem nextStep_eq_release {member : Option String}
    {deleting : Bool} (released : nextStep inputs candidate = .release member deleting) :
    member = inputs.bound.map BoundMember.name ∧ deleting = inputs.deleting := by
  simp only [nextStep] at released
  split at released
  · cases released
    exact ⟨rfl, rfl⟩
  · split at released <;> split at released <;> contradiction

theorem nextStep_eq_bind {member : String} (binds : nextStep inputs candidate = .bind member) :
    inputs.deleting = false ∧ inputs.bound = none ∧ candidate = some member := by
  simp only [nextStep] at binds
  split at binds
  · contradiction
  · rename_i kept
    split at binds
    · split at binds <;> contradiction
    · rename_i unbound
      split at binds
      · cases binds
        exact ⟨by simp_all, unbound, rfl⟩
      · contradiction

/-- The first member that carries the claim's label, in a list of names and labels. -/
def memberBoundTo (members : List (String × Option String)) (claim : String) : Option String :=
  (members.find? fun member => member.2 == some claim).map Prod.fst

/-- Current image revision first, then longest Ready, then by name. -/
def pickKey (currentRevision : String) (view : MemberView) : ℕ ×ₗ ℕᵒᵈ ×ₗ String :=
  toLex (if view.imageRevision = currentRevision then 0 else 1,
    toLex (OrderDual.toDual view.readyForSecs, view.name))

def pickMember (views : List MemberView) (currentRevision : String) : Option String :=
  ((views.filter (·.phase == .ready)).minOn? (pickKey currentRevision)).map MemberView.name

def maxI64 : Int := 2 ^ 63 - 1

/-- When a claim that binds now was bound, and when it expires. -/
def expiry (now : Timestamp) (ttlSeconds : UInt64) : Timestamp × Timestamp :=
  let ttl := min (ttlSeconds.toNat : Int) maxI64
  let finish := (Timestamp.fromSecond (min (now.asSecond + ttl) maxI64)).getD Timestamp.max
  (now, finish)

structure PoolWaitState where
  poolName : String
  poolExists : Bool
  warm : Option (String × String)
deriving DecidableEq

/-- Why a claim could not bind, as the reason and message of its condition. -/
def waitReason (state : PoolWaitState) : String × String :=
  if !state.poolExists then
    (PoolConditionReasons.poolNotFound, "pool " ++ state.poolName ++ " does not exist")
  else
    let detail :=
      match state.warm with
      | some (reason, message) => " (pool: " ++ reason ++ ": " ++ message ++ ")"
      | none => " (pool has not published a Warm condition yet)"
    (PoolConditionReasons.noMemberAvailable,
      "no Ready, unclaimed member in pool " ++ state.poolName ++ detail)

def isExpired (expiresAt now : Timestamp) : Bool := decide (expiresAt ≤ now)

structure MirroredMemberState where
  addresses : List MachineAddress := []
  tpmEndorsementCertificates : List String := []
deriving DecidableEq

def mirroredMemberState (vm : VirtualMachine) : MirroredMemberState :=
  match vm.status with
  | none => {}
  | some status =>
    { addresses := status.addresses
      tpmEndorsementCertificates := status.tpmEndorsementCertificates }

/-- The pool's own diagnosis, for a claim that waits. -/
def warmCondition (pool : VirtualMachinePool) : Option (String × String) :=
  ((pool.status.map VirtualMachinePoolStatus.conditions).getD []).find?
    (·.type == PoolConditionTypes.warm) |>.map fun condition =>
      (condition.reason, condition.message)

/-! ## Whom a claim picks -/

def labelled (members : List VirtualMachine) : List (String × Option String) :=
  members.map fun vm => (vm.name, vm.claimLabel)

/-- A listed member the claim may take: its own, or any while none is its own. -/
def Candidate (claim : String) (members : List VirtualMachine) (name : String) : Prop :=
  ∃ vm ∈ members, vm.name = name ∧
    (vm.claimLabel = some claim ∨ ∀ other ∈ members, other.claimLabel ≠ some claim)

theorem candidate_of_memberBoundTo (found : memberBoundTo (labelled members) claim = some name) :
    Candidate claim members name := by
  simp only [memberBoundTo, Option.map_eq_some_iff, Prod.exists] at found
  obtain ⟨_, label, first, rfl⟩ := found
  have member := List.mem_of_find?_eq_some first
  have own := List.find?_some first
  obtain ⟨vm, listed, same⟩ := List.mem_map.mp member
  cases same
  exact ⟨vm, listed, rfl, .inl (by simpa using own)⟩

theorem mem_of_pickMember {views : List MemberView} (picked : pickMember views currentRevision = some name) :
    ∃ view ∈ views, view.name = name := by
  simp only [pickMember, Option.map_eq_some_iff] at picked
  obtain ⟨view, least, rfl⟩ := picked
  exact ⟨view, (minOn?_filter_isFirstLeast least).mem, rfl⟩

theorem candidate_of_pickMember {readiness : PoolReadiness} {now : Timestamp}
    (missing : memberBoundTo (labelled members) claim = none)
    (picked : pickMember (members.map fun vm => memberView vm readiness now) currentRevision = some name) :
    Candidate claim members name := by
  obtain ⟨view, listed, named⟩ := mem_of_pickMember picked
  obtain ⟨vm, member, rfl⟩ := List.mem_map.mp listed
  refine ⟨vm, member, named, .inr ?_⟩
  simpa only [memberBoundTo, Option.map_eq_none_iff, List.find?_eq_none, labelled,
    List.forall_mem_map, beq_iff_eq] using missing

end Banlieue.Claim
