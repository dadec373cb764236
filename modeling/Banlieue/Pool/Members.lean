import Banlieue.Api.Pool
import Banlieue.Pool.Address
import Banlieue.Sdk.Status

namespace Banlieue.Pool

open Banlieue.Api Banlieue.Data Banlieue.Sdk

/-! # Members of a pool -/

/-- The build a member is made from: the artifact's UID, or the image's own
generation when it has no managed build. -/
def imageRevision (image : VMImage) : String :=
  match image.status.bind VMImageStatus.buildArtifact |>.bind BuildArtifactStatus.osArtifactUid with
  | some uid => uid
  | none => "gen-" ++ toString (image.metadata.generation.getD 0)

def readinessConditionType : PoolReadiness → String
  | .guestReady => "GuestReady"
  | .infrastructureReady => ConditionTypes.infrastructureReady

/-- No member has published the condition the pool waits for. -/
def readinessSignalAbsent (type : String) (memberConditions : List (List Condition)) : Bool :=
  !memberConditions.isEmpty && !memberConditions.any (·.any (·.type == type))

def conditionsOf (vm : VirtualMachine) : List Condition :=
  (vm.status.map VirtualMachineStatus.conditions).getD []

def secsSince (now time : Timestamp) : Nat := (now.asSecond - time.asSecond).toNat

def memberPhase (vm : VirtualMachine) (readySince : Option Timestamp) : MemberPhase :=
  if vm.metadata.deletionTimestamp.isSome then .deleting
  else if vm.labels.containsKey labelClaim then .claimed
  else if readySince.isSome then .ready
  else .provisioning

def memberView (vm : VirtualMachine) (readiness : PoolReadiness) (now : Timestamp) : MemberView :=
  let wanted :=
    match readiness with
    | .guestReady => ConditionTypes.guestReady
    | .infrastructureReady => ConditionTypes.infrastructureReady
  let readySince :=
    ((conditionsOf vm).find? fun condition =>
      condition.type == wanted && condition.status == ConditionStatus.true).map
        Condition.lastTransitionTime
  { name := vm.name
    phase := memberPhase vm readySince
    ageSecs := (vm.metadata.creationTimestamp.map (secsSince now)).getD 0
    readyForSecs := (readySince.map (secsSince now)).getD 0
    imageRevision := (vm.labels.get labelPoolImageRevision).getD ""
    address :=
      vm.spec.networkOverrides.head?.bind fun entry =>
        (Ipv4Addr.parse entry.static.address.toList).toOption }

def poolInputs (pool : VirtualMachinePool) (revision : String) : Except String PoolInputs := do
  let addressRanges ←
    match pool.spec.addressing with
    | none => .ok []
    | some addressing =>
      addressing.pool.mapM fun entry =>
        (parseAddressPoolEntry entry).mapError ("addressing.pool: " ++ ·)
  return {
    warmReplicas := pool.spec.warmReplicas.toNat
    maxReplicas := pool.spec.maxReplicas.toNat
    maxSurge := pool.spec.maxSurge.toNat
    provisioningTimeoutSecs := pool.spec.provisioningTimeoutSeconds.toNat
    maxIdleSecs := pool.spec.maxIdleSeconds.map UInt64.toNat
    recycleOnImageChange := pool.spec.recycleOnImageChange
    currentImageRevision := revision
    addressRanges := addressRanges }

def stampAddress (addressing : PoolAddressing) (address : Ipv4Addr) : NetworkInterfaceOverride where
  name := addressing.interface
  static := {
    address := address.toText
    prefixLen := addressing.prefixLen
    gateway := addressing.gateway
    nameservers := addressing.nameservers
    domain := addressing.domain }

/-- The member's spec: the template's, with the drawn address in front. -/
def memberSpec (pool : VirtualMachinePool) (new : NewMember) : VirtualMachineSpec :=
  let spec := pool.spec.template.spec
  match pool.spec.addressing, new.address with
  | some addressing, some address =>
    { spec with
      networkOverrides :=
        stampAddress addressing address ::
          spec.networkOverrides.filter (·.name != addressing.interface) }
  | _, _ => spec

def buildMember (pool : VirtualMachinePool) (revision : String) (new : NewMember) :
    Option VirtualMachine := do
  let owner ← pool.metadata.controllerOwnerRef "VirtualMachinePool"
  return {
    metadata := {
      generateName := some (pool.name ++ "-")
      namespaceName := pool.metadata.namespaceName
      labels := (pool.spec.template.labels.insert labelPool pool.name).insert
        labelPoolImageRevision revision
      annotations := pool.spec.template.annotations
      ownerReferences := [owner] }
    spec := memberSpec pool new }

/-- The planner sees a member it has made with the address it drew for it, and as fresh. -/
theorem built_member_recognised (pool : VirtualMachinePool) (addressing : PoolAddressing) (revision : String)
    (address : Ipv4Addr) (readiness : PoolReadiness) (now : Timestamp) :
    (buildMember { pool with spec.addressing := some addressing } revision ⟨some address⟩).map
        (fun vm => ((memberView vm readiness now).address, (memberView vm readiness now).imageRevision)) =
      (pool.metadata.controllerOwnerRef "VirtualMachinePool").map fun _ => (some address, revision) := by
  cases owner : pool.metadata.controllerOwnerRef "VirtualMachinePool" with
  | none => simp [buildMember, owner]
  | some reference =>
    simp [buildMember, owner, memberView, memberSpec, stampAddress, Ipv4Addr.parse_toText, VirtualMachine.labels,
      Except.toOption]

/-! ## What a pool reports -/

def warmReason (warm : Bool) (blockedReason : Option String) : String :=
  if warm then PoolConditionReasons.warm
  else if blockedReason = some PoolConditionReasons.readinessSignalAbsent then
    PoolConditionReasons.readinessSignalAbsent
  else PoolConditionReasons.filling

/-- Why nothing (more) was created, as the reason and message of a condition. -/
def blockedOn (pool : VirtualMachinePool) (members : List VirtualMachine) (decided : PoolPlan) :
    Option (String × String) :=
  let want := readinessConditionType pool.spec.readiness
  if readinessSignalAbsent want (members.map conditionsOf) then
    some (PoolConditionReasons.readinessSignalAbsent,
      "no member has published the " ++ debugText want.toList ++
        " condition; spec.readiness selects a signal nothing is setting")
  else if 0 < decided.blockedOnAddresses then
    some (PoolConditionReasons.addressRangeExhausted,
      toString decided.blockedOnAddresses ++
        " member(s) not created: address range exhausted")
  else if 0 < decided.blockedOnCapacity then
    some (PoolConditionReasons.maxReplicasReached,
      toString decided.blockedOnCapacity ++ " member(s) not created: maxReplicas reached")
  else none

def existingConditions (pool : VirtualMachinePool) : List Condition :=
  (pool.status.map VirtualMachinePoolStatus.conditions).getD []

/-- The published status; each of the two conditions reads the clock itself. -/
def publishedStatus (pool : VirtualMachinePool) (generation : Int) (views : List MemberView)
    (revision : String) (blocked : Option (String × String)) (warmAt capacityAt : Timestamp) :
    VirtualMachinePoolStatus :=
  let available := count views .ready
  let provisioning := count views .provisioning
  let claimed := count views .claimed
  let warm := decide (pool.spec.warmReplicas.toNat ≤ available)
  let conditions :=
    setCondition (existingConditions pool) PoolConditionTypes.warm
      (if warm then ConditionStatus.true else ConditionStatus.false)
      (warmReason warm (blocked.map Prod.fst))
      (toString available ++ "/" ++ toString pool.spec.warmReplicas.toNat ++
        " warm member(s) available") generation warmAt
  let conditions :=
    match blocked with
    | some (reason, message) =>
      setCondition conditions PoolConditionTypes.capacity ConditionStatus.false reason message
        generation capacityAt
    | none =>
      setCondition conditions PoolConditionTypes.capacity ConditionStatus.true
        PoolConditionReasons.warm "no creation blocked" generation capacityAt
  { replicas := available + provisioning + claimed
    available := available
    provisioning := provisioning
    claimed := claimed
    imageRevision := some revision
    conditions := conditions
    observedGeneration := some generation }

/-! ## A labelled member is no candidate for deletion -/

variable {readiness : PoolReadiness} {now : Timestamp}

theorem unlabelled_of_phase {vm : VirtualMachine} (phase : (memberView vm readiness now).phase = .ready ∨
      (memberView vm readiness now).phase = .provisioning) : vm.claimLabel = none := by
  simp only [memberView, memberPhase] at phase
  split at phase
  · simp at phase
  · split at phase
    · simp at phase
    · rename_i unlabelled
      simpa [SortedMap.containsKey, VirtualMachine.claimLabel] using unlabelled

theorem mem_plan_delete_unlabelled {inputs : PoolInputs} {members : List VirtualMachine}
    {name : String} {reason : DeleteReason} (planned : (name, reason) ∈
      (plan inputs (members.map fun vm => memberView vm readiness now)).delete) :
    ∃ vm ∈ members, vm.name = name ∧ vm.claimLabel = none := by
  obtain ⟨view, listed, named, phase⟩ := mem_plan_delete planned
  obtain ⟨vm, member, rfl⟩ := List.mem_map.mp listed
  exact ⟨vm, member, named, unlabelled_of_phase phase⟩

end Banlieue.Pool
