import Banlieue.Infra.Machine
import Banlieue.Sdk.Status

namespace Banlieue.Vm

open Banlieue.Api Banlieue.Infra Banlieue.Sdk

/-! # Mirroring an infra machine's status -/

/-- `Ready` is the conjunction of three things: the machine is scheduled, its
placement is not reported invalid, and its infra machine is ready. -/
def aggregateReady (conditions : List Condition) (infraReady : Bool) : String × String × String :=
  let scheduled := isConditionTrue conditions ConditionTypes.scheduled
  let placementValid :=
    !((findCondition conditions ConditionTypes.placementValid).map fun condition =>
      condition.status == ConditionStatus.false).getD false
  if scheduled && placementValid && infraReady then
    (ConditionStatus.true, "Reconciled", "VirtualMachine reconciled successfully")
  else if !scheduled then (ConditionStatus.false, "Scheduling", "scheduling not yet successful")
  else if !placementValid then
    (ConditionStatus.false, "PlacementInvalid", "current placement no longer satisfies the spec")
  else
    (ConditionStatus.false, "InfrastructureNotReady",
      "waiting for the infrastructure CR to report Ready")

/-- The conditions `Ready` is computed from: those the mirror does not set are carried
forward. -/
def mirroredConditions (current : List Condition) (infra : InfraObject) (generation : Int)
    (now : Timestamp) : List Condition :=
  let infraReady := isConditionTrue infra.conditions ConditionTypes.ready
  let (infraReason, infraMessage) :=
    match findCondition infra.conditions ConditionTypes.ready with
    | some condition => (condition.reason, condition.message)
    | none => ("Pending", "infrastructure has not reported a Ready condition yet")
  let withInfra :=
    setCondition current ConditionTypes.infrastructureReady
      (if infraReady then ConditionStatus.true else ConditionStatus.false) infraReason infraMessage
      generation now
  -- absence is meaningful, so the signal is mirrored only when it is published
  match findCondition infra.conditions ConditionTypes.guestReady with
  | some guest =>
    setCondition withInfra ConditionTypes.guestReady guest.status guest.reason guest.message
      generation now
  | none => withInfra

def mirrorStatusFromInfra (current : VirtualMachineStatus) (infra : InfraObject) (generation : Int)
    (now : Timestamp) : VirtualMachineStatus :=
  let mirrored := mirroredConditions current.conditions infra generation now
  let (status, reason, message) :=
    aggregateReady mirrored (isConditionTrue infra.conditions ConditionTypes.ready)
  { current with
    initialization := infra.initialization
    addresses := infra.addresses
    observedPowerState := infra.observedPowerState
    tpmEndorsementCertificates := infra.tpmEndorsementCertificates
    conditions := setCondition mirrored ConditionTypes.ready status reason message generation now
    observedGeneration := some generation }

def mirrorOntoVm (vm : VirtualMachine) (infra : InfraObject) (now : Timestamp) :
    VirtualMachineStatus :=
  mirrorStatusFromInfra (vm.status.getD {}) infra (vm.metadata.generation.getD 0) now

/-! ## What the mirror carries forward -/

/-- The placement is reported invalid. -/
def PlacementInvalid (conditions : List Condition) : Prop :=
  (findCondition conditions ConditionTypes.placementValid).map Condition.status =
    some ConditionStatus.false

instance (conditions : List Condition) : Decidable (PlacementInvalid conditions) :=
  inferInstanceAs (Decidable (_ = _))

section

variable {current : VirtualMachineStatus} {infra : InfraObject} {generation : Int} {now : Timestamp}
  {conditions : List Condition}

theorem findCondition_mirrored {type : String} (notInfra : type ≠ ConditionTypes.infrastructureReady)
    (notGuest : type ≠ ConditionTypes.guestReady) :
    findCondition (mirroredConditions conditions infra generation now) type = findCondition conditions type := by
  simp only [mirroredConditions]
  split
  · rw [findCondition_setCondition_of_ne notGuest, findCondition_setCondition_of_ne notInfra]
  · rw [findCondition_setCondition_of_ne notInfra]

theorem findCondition_mirror {type : String} (notInfra : type ≠ ConditionTypes.infrastructureReady)
    (notGuest : type ≠ ConditionTypes.guestReady) (notReady : type ≠ ConditionTypes.ready) :
    findCondition (mirrorStatusFromInfra current infra generation now).conditions type =
      findCondition current.conditions type := by
  simp only [mirrorStatusFromInfra]
  rw [findCondition_setCondition_of_ne notReady, findCondition_mirrored notInfra notGuest]

theorem placementInvalid_congr {others : List Condition}
    (same : findCondition conditions ConditionTypes.placementValid =
      findCondition others ConditionTypes.placementValid) : PlacementInvalid conditions ↔ PlacementInvalid others := by
  rw [PlacementInvalid, PlacementInvalid, same]

theorem placementInvalid_mirror : PlacementInvalid (mirrorStatusFromInfra current infra generation now).conditions ↔
      PlacementInvalid current.conditions :=
  placementInvalid_congr (findCondition_mirror (by decide) (by decide) (by decide))

theorem placementInvalid_setCondition {type status reason message : String}
    (different : ConditionTypes.placementValid ≠ type) :
    PlacementInvalid (setCondition conditions type status reason message generation now) ↔
      PlacementInvalid conditions :=
  placementInvalid_congr (findCondition_setCondition_of_ne different)

/-! ## When the mirror says ready -/

theorem aggregateReady_iff (scheduled : isConditionTrue conditions ConditionTypes.scheduled = true) :
    (aggregateReady conditions true).1 = ConditionStatus.true ↔ ¬ PlacementInvalid conditions := by
  simp only [aggregateReady, scheduled, PlacementInvalid]
  cases findCondition conditions ConditionTypes.placementValid with
  | none => simp
  | some condition =>
    by_cases reported : condition.status = ConditionStatus.false
    · simp [reported, ConditionStatus.true, ConditionStatus.false]
    · simp [reported]

/-- A scheduled machine whose infra machine is ready is ready, unless its placement is
reported invalid. -/
theorem ready_mirror_iff (scheduled : (findCondition current.conditions ConditionTypes.scheduled).map Condition.status =
      some ConditionStatus.true) (infraReady : isConditionTrue infra.conditions ConditionTypes.ready = true) :
    (findCondition (mirrorStatusFromInfra current infra generation now).conditions
        ConditionTypes.ready).map Condition.status = some ConditionStatus.true ↔
      ¬ PlacementInvalid current.conditions := by
  have carried : isConditionTrue (mirroredConditions current.conditions infra generation now)
      ConditionTypes.scheduled = true := by
    refine isConditionTrue_of_findCondition ?_
    rw [findCondition_mirrored (by decide) (by decide)]
    exact scheduled
  have same : PlacementInvalid (mirroredConditions current.conditions infra generation now) ↔
      PlacementInvalid current.conditions :=
    placementInvalid_congr (findCondition_mirrored (by decide) (by decide))
  simp only [mirrorStatusFromInfra, infraReady]
  rw [status_findCondition_setCondition_self, Option.some.injEq, aggregateReady_iff carried, same]

/-! ## Whether the guest is ready -/

/-- The status says of the guest what the infra machine publishes, unless that publishes
nothing and an earlier status said something. -/
theorem guestReady_mirror_iff (current : VirtualMachineStatus) (infra : InfraObject) (generation : Int)
    (now : Timestamp) :
    (findCondition (mirrorStatusFromInfra current infra generation now).conditions
        ConditionTypes.guestReady).map Condition.status =
        (findCondition infra.conditions ConditionTypes.guestReady).map Condition.status ↔
      findCondition infra.conditions ConditionTypes.guestReady = none →
        findCondition current.conditions ConditionTypes.guestReady = none := by
  simp only [mirrorStatusFromInfra]
  rw [findCondition_setCondition_of_ne (by decide)]
  simp only [mirroredConditions]
  cases findCondition infra.conditions ConditionTypes.guestReady with
  | none =>
    rw [findCondition_setCondition_of_ne (by decide)]
    simp
  | some guest => simp [status_findCondition_setCondition_self]

/-- The guest was ready once, and nothing is published yet of the infra machine that
replaces the one it ran on. -/
theorem guestReady_outlives_infra :
    ∃ before : VirtualMachineStatus, ∀ replaced : InfraMachine,
      findCondition (InfraObject.conditions ⟨replaced, none⟩) ConditionTypes.guestReady = none ∧
        isConditionTrue (mirrorStatusFromInfra before ⟨replaced, none⟩ 1 ⟨1⟩).conditions
          ConditionTypes.guestReady = true :=
  ⟨{ conditions := setCondition [] ConditionTypes.guestReady ConditionStatus.true "GuestAnnounced" "" 1 ⟨0⟩ },
    fun _ => ⟨rfl, by simp +decide [mirrorStatusFromInfra, mirroredConditions, InfraObject.conditions, setCondition]⟩⟩

end

end Banlieue.Vm
