import Banlieue.Sdk.Status

namespace Banlieue.Sdk

open Banlieue.Api

/-! # First-boot sealing -/

def reasonFirstBootSealingUnverified : String := "FirstBootSealingUnverified"

def reasonFirstBootSealingTimeout : String := "FirstBootSealingTimeout"

/-- What a machine's sealing report means for its readiness. -/
inductive SealingGate where
  | satisfied
  | pending (missing : List String)
  | timedOut (missing : List String)
deriving DecidableEq

/-- What was reported before keeps its order; what is new follows. -/
def stickySealedPartitions (previous observed : List String) : List String :=
  observed.foldl (fun out partition => if out.contains partition then out else out ++ [partition]) previous

def missingPartitions (required : FirstBootSealing) (sealed : List String) : List String :=
  required.partitions.filter fun partition => !sealed.contains partition

/-- When the machine became ready, which is when it was switched on. -/
def readySince (conditions : List Condition) : Option Timestamp :=
  (conditions.find? fun condition =>
    condition.type == ConditionTypes.ready && condition.status == ConditionStatus.true).map
    Condition.lastTransitionTime

def sealingGate (required : FirstBootSealing) (sealed : List String) (conditions : List Condition)
    (now : Timestamp) : SealingGate :=
  let missing := missingPartitions required sealed
  if missing.isEmpty then .satisfied
  else
    match readySince conditions with
    | none => .pending missing
    | some since =>
      let deadline := since.asSecond + required.timeoutSeconds.toNat
      if now.asSecond > deadline then .timedOut missing else .pending missing

theorem mem_stickySealedPartitions {previous observed : List String} {partition : String} :
    partition ∈ stickySealedPartitions previous observed ↔ partition ∈ previous ∨ partition ∈ observed := by
  induction observed generalizing previous with
  | nil => simp [stickySealedPartitions]
  | cons first rest ih =>
    have folded : stickySealedPartitions previous (first :: rest) =
        stickySealedPartitions (if previous.contains first then previous else previous ++ [first]) rest := rfl
    rw [folded, ih, List.mem_cons]
    by_cases known : first ∈ previous
    · rw [if_pos (List.contains_iff_mem.mpr known)]
      constructor
      · exact fun reported => reported.imp id Or.inr
      · rintro (before | rfl | later)
        exacts [.inl before, .inl known, .inr later]
    · rw [if_neg fun found => known (List.contains_iff_mem.mp found), List.mem_append, List.mem_singleton, or_assoc]

variable {required : FirstBootSealing} {sealed : List String} {conditions : List Condition} {now : Timestamp}

theorem mem_of_sealingGate (inTime : ∀ missing, sealingGate required sealed conditions now ≠ .timedOut missing)
    (ended : ∀ missing, sealingGate required sealed conditions now ≠ .pending missing) :
    ∀ partition ∈ required.partitions, partition ∈ sealed := by
  have none : missingPartitions required sealed = [] := by
    by_contra lacking
    cases since : readySince conditions with
    | none => exact ended _ (by simp [sealingGate, lacking, since]; rfl)
    | some time =>
      by_cases late : now.asSecond > time.asSecond + required.timeoutSeconds.toNat
      · exact inTime _ (by simp [sealingGate, lacking, since, late]; rfl)
      · exact ended _ (by simp [sealingGate, lacking, since, late]; rfl)
  intro partition member
  simpa using List.filter_eq_nil_iff.mp none partition member

theorem sealingGate_eq_satisfied (reported : ∀ partition ∈ required.partitions, partition ∈ sealed) :
    sealingGate required sealed conditions now = .satisfied := by
  have none : missingPartitions required sealed = [] := by
    refine List.filter_eq_nil_iff.mpr fun partition member => ?_
    simpa using reported partition member
  rw [sealingGate, none]
  rfl

end Banlieue.Sdk
