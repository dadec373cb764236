import Mathlib.Data.List.Chain
import Banlieue.Claim.Reconcile
import Banlieue.Image.Readiness
import Banlieue.Cluster.Aggregation

namespace Banlieue.Controller

open Banlieue.Api Banlieue.Sdk Banlieue.Claim

/-! # Transition times of published conditions

The claim, image and cluster reconcilers each build the condition list of a status
write from an empty list.  A condition they publish again therefore carries the
clock of the write, whether or not its status moved.
-/

/-- The status body of a claim pass, by what the pass read off the clock. -/
def claimStatusPatch (phase : ClaimPhase) (reason message : String) (generation : Int)
    (extra : StatusExtra) (now : Timestamp) : ClaimStatusPatch where
  phase := phase
  conditions :=
    setCondition [] PoolConditionTypes.bound
      (if phase = .bound then ConditionStatus.true else ConditionStatus.false) reason message
      generation now
  observedGeneration := generation
  virtualMachineRef := extra.virtualMachineRef
  boundAt := extra.boundAt
  expiresAt := extra.expiresAt
  addresses := extra.addresses
  tpmEndorsementCertificates := extra.tpmEndorsementCertificates

inductive ObjectKind where
  | claim | image | cluster
deriving DecidableEq

/-- A status write of one object: what its reconciler read, and the clock. -/
inductive StatusWrite : ObjectKind → Type where
  | claim (phase : ClaimPhase) (reason message : String) (generation : Int) (extra : StatusExtra)
      (now : Timestamp) : StatusWrite .claim
  | image (read : VMImage) (now : Timestamp) : StatusWrite .image
  | cluster (read : Cluster.VSphereCluster) (providers : List Provider)
      (now later : Timestamp) : StatusWrite .cluster

namespace StatusWrite

variable {kind : ObjectKind}

/-- The list the object has after the write.  A merge patch replaces a list as a
whole, and an apply by the only manager of a list leaves the entries it names. -/
def conditions : StatusWrite kind → List Condition
  | .claim phase reason message generation extra now =>
    (claimStatusPatch phase reason message generation extra now).conditions
  | .image read now => ((Image.reconcilePatch read now).applyTo read.status).conditions
  | .cluster read providers now later =>
    (Cluster.reconcileStatus read providers now later).conditions

/-- What the inputs of a write say of each condition, with the clock it reads for it. -/
def verdicts : StatusWrite kind → List (String × String × Timestamp)
  | .claim phase _ _ _ _ now =>
    [(PoolConditionTypes.bound,
      if phase = .bound then ConditionStatus.true else ConditionStatus.false, now)]
  | .image read now =>
    [(Image.conditionReady, (Image.aggregateReady (Image.rows read)).status, now)]
  | .cluster read providers now later =>
    if read.spec.paused then
      [(Cluster.conditionPaused, ConditionStatus.true, now),
        (ConditionTypes.ready, ConditionStatus.false, later)]
    else
      let failureDomains :=
        Cluster.aggregateFailureDomains (Cluster.selectProviders providers read.spec)
          read.spec.controlPlaneFailureDomainSelector
      [(ConditionTypes.ready,
        if failureDomains.isEmpty then ConditionStatus.false else ConditionStatus.true, now)]

/-- What a condition says and since when. -/
def stamp (condition : Condition) : String × String × Timestamp :=
  (condition.type, condition.status, condition.lastTransitionTime)

theorem stamps_perm_verdicts (write : StatusWrite kind) : (write.conditions.map stamp).Perm write.verdicts := by
  cases write with
  | claim phase reason message generation extra now => exact .refl _
  | image read now => exact .refl _
  | cluster read providers now later =>
    simp only [conditions, verdicts, Cluster.reconcileStatus]
    split
    · simp only [Cluster.pausedConditions, setCondition_nil]
      refine ((setCondition_perm_of_missing ?_).map stamp).trans (.refl _)
      simp [Cluster.conditionPaused, ConditionTypes.ready]
    · simp only [Cluster.buildStatus, setCondition_nil]
      cases (Cluster.aggregateFailureDomains _ _).isEmpty <;> exact .refl _

theorem verdicts_nodup (write : StatusWrite kind) : (write.verdicts.map Prod.fst).Nodup := by
  cases write with
  | claim | image => exact List.nodup_singleton _
  | cluster read providers now later =>
    simp only [verdicts]
    split
    · simp [Cluster.conditionPaused, ConditionTypes.ready]
    · exact List.nodup_singleton _

theorem uniqueTypes_conditions (write : StatusWrite kind) : UniqueTypes write.conditions := by
  have types : write.conditions.map Condition.type = (write.conditions.map stamp).map Prod.fst := by
    rw [List.map_map]
    rfl
  rw [UniqueTypes, types, (write.stamps_perm_verdicts.map Prod.fst).nodup_iff]
  exact write.verdicts_nodup

/-- Where two writes come to the same verdict on a condition, they read the same clock
for it. -/
def SameVerdictSameClock (earlier later : StatusWrite kind) : Prop :=
  ∀ type status before after, (type, status, before) ∈ earlier.verdicts →
    (type, status, after) ∈ later.verdicts → before = after

end StatusWrite

/-- A condition that is in both lists with one status has one transition time. -/
def KeepsTransitionTimes (earlier later : List Condition) : Prop :=
  ∀ before ∈ earlier, ∀ after ∈ later, before.type = after.type →
    before.lastTransitionTime ≠ after.lastTransitionTime → before.status ≠ after.status

instance (earlier later : List Condition) : Decidable (KeepsTransitionTimes earlier later) :=
  inferInstanceAs (Decidable (∀ before ∈ earlier, ∀ after ∈ later, _))

/-- The lists an object has had, from its creation without a status on. -/
def history {kind : ObjectKind} (writes : List (StatusWrite kind)) : List (List Condition) :=
  [] :: writes.map StatusWrite.conditions

structure LawfulHistory (published : List (List Condition)) : Prop where
  unique : ∀ conditions ∈ published, UniqueTypes conditions
  transitions : published.IsChain KeepsTransitionTimes

theorem keepsTransitionTimes_iff {kind : ObjectKind} (earlier later : StatusWrite kind) :
    KeepsTransitionTimes earlier.conditions later.conditions ↔ earlier.SameVerdictSameClock later := by
  constructor
  · intro kept type status before after earlierVerdict laterVerdict
    rw [← earlier.stamps_perm_verdicts.mem_iff] at earlierVerdict
    rw [← later.stamps_perm_verdicts.mem_iff] at laterVerdict
    obtain ⟨old, oldMember, oldStamp⟩ := List.mem_map.mp earlierVerdict
    obtain ⟨new, newMember, newStamp⟩ := List.mem_map.mp laterVerdict
    by_contra moved
    simp only [StatusWrite.stamp, Prod.mk.injEq] at oldStamp newStamp
    obtain ⟨oldType, oldStatus, rfl⟩ := oldStamp
    obtain ⟨newType, newStatus, rfl⟩ := newStamp
    exact kept old oldMember new newMember (oldType.trans newType.symm) moved (oldStatus.trans newStatus.symm)
  · intro agree old oldMember new newMember sameType moved sameStatus
    have oldVerdict := earlier.stamps_perm_verdicts.mem_iff.mp (List.mem_map_of_mem (f := StatusWrite.stamp) oldMember)
    have newVerdict := later.stamps_perm_verdicts.mem_iff.mp (List.mem_map_of_mem (f := StatusWrite.stamp) newMember)
    rw [StatusWrite.stamp, sameType, sameStatus] at oldVerdict
    exact moved (agree _ _ _ _ oldVerdict newVerdict)

/-- An object's conditions keep their transition times exactly when no two consecutive
writes come to the same verdict at different instants. -/
theorem lawfulHistory_iff_sameClock {kind : ObjectKind} (writes : List (StatusWrite kind)) :
    LawfulHistory (history writes) ↔ writes.IsChain StatusWrite.SameVerdictSameClock := by
  have chain : (history writes).IsChain KeepsTransitionTimes ↔
      writes.IsChain StatusWrite.SameVerdictSameClock := by
    rw [history, List.isChain_cons]
    simp only [List.isChain_map, keepsTransitionTimes_iff]
    refine and_iff_right fun first _ => ?_
    simp [KeepsTransitionTimes]
  refine ⟨fun lawful => chain.mp lawful.transitions, fun agree => ⟨?_, chain.mpr agree⟩⟩
  intro conditions member
  rcases List.mem_cons.mp member with rfl | written
  · exact List.nodup_nil
  · obtain ⟨write, _, rfl⟩ := List.mem_map.mp written
    exact write.uniqueTypes_conditions

/-- Two passes that hold the same member, half a minute apart. -/
def heldTwice : List (StatusWrite .claim) :=
  [.claim .bound PoolConditionTypes.bound "bound to pool-0" 1 {} ⟨0⟩,
    .claim .bound PoolConditionTypes.bound "bound to pool-0" 1 {} ⟨30000000000⟩]

theorem history_heldTwice_unlawful : ¬ LawfulHistory (history heldTwice) := by
  intro lawful
  exact absurd lawful.transitions (by decide +kernel)

end Banlieue.Controller
