import Mathlib.Data.Prod.Lex
import Banlieue.Api.VirtualMachine
import Banlieue.Data.FirstLeast
import Banlieue.Sdk.Status

namespace Banlieue.Image

open Banlieue.Api Banlieue.Sdk

/-! # Readiness of an image over all providers

Each provider publishes its own row on the image.  The controller reads the rows
and publishes the one condition that speaks for all of them.
-/

def conditionReady : String := "Ready"

namespace Reasons

def reconciled : String := "Reconciled"

def notReady : String := "NotReady"

def noProviders : String := "NoProviders"

end Reasons

structure AggregateReady where
  status : String
  reason : String
  message : String
deriving DecidableEq

/-- Providers are told apart by namespace and name, not by their place in the list. -/
def providerKey (row : Api.ImagePerProviderStatus) : String ×ₗ String :=
  toLex (row.providerNamespace, row.providerName)

def aggregateReady (rows : List Api.ImagePerProviderStatus) : AggregateReady :=
  if rows.isEmpty then
    -- nothing has reported, which is not a problem reported
    { status := ConditionStatus.unknown
      reason := Reasons.noProviders
      message := "no provider has reported on this image yet" }
  else
    let unready := rows.filter fun row => !row.ready
    match unready.minOn? providerKey with
    | none =>
      { status := ConditionStatus.true
        reason := Reasons.reconciled
        message := "image available on " ++ toString rows.length ++ " provider(s)" }
    | some first =>
      { status := ConditionStatus.false
        reason := first.reason.getD Reasons.notReady
        message := toString unready.length ++ " of " ++ toString rows.length ++
          " provider(s) do not have this image" }

/-- The verdict does not depend on the order in which the providers have reported. -/
theorem aggregateReady_perm {rows others : List Api.ImagePerProviderStatus} (same : rows.Perm others)
    (distinct : (rows.map providerKey).Nodup) : aggregateReady rows = aggregateReady others := by
  have unready := same.filter fun row => !row.ready
  have least := Data.minOn?_map_eq_of_perm id providerKey providerKey _ _ (fun _ => rfl) (unready.map id)
    fun first member second member' =>
      List.inj_on_of_nodup_map distinct (List.mem_of_mem_filter member) (List.mem_of_mem_filter member')
  simp only [Option.map_id, id] at least
  have empty : rows.isEmpty = others.isEmpty := by cases rows <;> cases others <;> simp_all
  simp only [aggregateReady, empty, least, same.length_eq, unready.length_eq]

theorem aggregateReady_perm_two : aggregateReady [⟨"a", true, none, [], "", none⟩, ⟨"b", false, none, [], "", none⟩] =
    aggregateReady [⟨"b", false, none, [], "", none⟩, ⟨"a", true, none, [], "", none⟩] :=
  aggregateReady_perm (.swap _ _ _) (by decide)

/-- An image with a URL source seals itself only once its build says so; any
other image is taken at the operator's word. -/
def firstBootSealingProvenance (spec : VMImageSpec) (status : Option VMImageStatus) :
    Option FirstBootSealingProvenance :=
  spec.firstBootSealing.bind fun _ =>
    let builtByBanlieue := spec.sources.any fun source => source.kind == .url
    if !builtByBanlieue then some .asserted
    else
      ((status.bind VMImageStatus.buildArtifact).filter
        BuildArtifactStatus.firstBootSealingLayer).map fun _ => .built

/-- What the controller applies: its condition and the provenance, and nothing of
the providers' rows. -/
structure ImageStatusPatch where
  name : String
  conditions : List Condition
  firstBootSealing : Option FirstBootSealingProvenance
deriving DecidableEq

def buildStatusPatch (name : String) (aggregate : AggregateReady) (generation : Int)
    (firstBootSealing : Option FirstBootSealingProvenance) (now : Timestamp) : ImageStatusPatch where
  name := name
  conditions :=
    setCondition [] conditionReady aggregate.status aggregate.reason aggregate.message generation now
  firstBootSealing := firstBootSealing

def rows (image : VMImage) : List Api.ImagePerProviderStatus :=
  (image.status.map VMImageStatus.perProvider).getD []

def reconcilePatch (image : VMImage) (now : Timestamp) : ImageStatusPatch :=
  buildStatusPatch image.name (aggregateReady (rows image)) (image.metadata.generation.getD 0)
    (firstBootSealingProvenance image.spec image.status) now

/-- The controller is the only manager of both fields, so applying leaves exactly
what the patch says of them. -/
def ImageStatusPatch.applyTo (patch : ImageStatusPatch) (status : Option VMImageStatus) :
    VMImageStatus :=
  { status.getD {} with
    conditions := patch.conditions
    firstBootSealing := patch.firstBootSealing }

end Banlieue.Image
