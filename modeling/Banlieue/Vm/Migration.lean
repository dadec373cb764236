import Banlieue.Scheduler.Schedule

namespace Banlieue.Vm

open Banlieue.Api Banlieue.Scheduler

/-! # Drift of the placement

The scheduler runs on every pass.  Where its decision differs from the recorded
placement, the machine's policy decides what is done about it.
-/

def annotationMigrate : String := "banlieue.io/migrate"

def annotationMigrateTrue : String := "true"

inductive PlacementDriftReason where
  | providerChanged (old new : String)
  | failureDomainChanged (provider old new : String)
  | storageChanged
  | networkChanged
deriving DecidableEq

namespace PlacementDriftReason

def reason : PlacementDriftReason → String
  | .providerChanged _ _ => "ProviderChanged"
  | .failureDomainChanged _ _ _ => "FailureDomainChanged"
  | .storageChanged => "StorageMappingChanged"
  | .networkChanged => "NetworkMappingChanged"

def message : PlacementDriftReason → String
  | .providerChanged old new =>
    "scheduler now prefers provider '" ++ new ++ "' over the previously scheduled '" ++ old ++ "'"
  | .failureDomainChanged provider old new =>
    "scheduler now prefers failure domain '" ++ new ++ "' on provider '" ++ provider ++
      "' (was '" ++ old ++ "')"
  | .storageChanged =>
    "scheduler resolved storage classes to different backends than the recorded placement"
  | .networkChanged =>
    "scheduler resolved network classes to different backends than the recorded placement"

end PlacementDriftReason

inductive MigrationAction where
  | inPlace
  | stickToOld
  | surfaceOnly (reason : PlacementDriftReason)
  | recreate (reason : PlacementDriftReason)
deriving DecidableEq

/-- The first of the four differences. -/
def detectDrift (current : ScheduledPlacement) (decision : Decision) : Option PlacementDriftReason :=
  if current.providerName ≠ decision.providerName then
    some (.providerChanged current.providerName decision.providerName)
  else if current.failureDomain ≠ decision.failureDomainName then
    some (.failureDomainChanged current.providerName current.failureDomain decision.failureDomainName)
  else if current.resolvedStorage ≠ decision.resolvedStorage then some .storageChanged
  else if current.resolvedNetworks ≠ decision.resolvedNetworks then some .networkChanged
  else none

def migrateAnnotationSet (vm : VirtualMachine) : Bool :=
  vm.metadata.annotations.get annotationMigrate == some annotationMigrateTrue

/-- A machine without a recorded placement is scheduled for the first time. -/
def evaluate (vm : VirtualMachine) (decision : Decision) : MigrationAction :=
  match vm.scheduled with
  | none => .inPlace
  | some current =>
    match detectDrift current decision with
    | none => .inPlace
    | some drift =>
      match vm.spec.migrationPolicy with
      | .never => .stickToOld
      | .manual => if migrateAnnotationSet vm then .recreate drift else .surfaceOnly drift
      | .automatic => .recreate drift

/-! ## When nothing has drifted -/

/-- The decision is the recorded placement, in all that is compared. -/
structure Matches (current : ScheduledPlacement) (decision : Decision) : Prop where
  provider : current.providerName = decision.providerName
  failureDomain : current.failureDomain = decision.failureDomainName
  storage : current.resolvedStorage = decision.resolvedStorage
  networks : current.resolvedNetworks = decision.resolvedNetworks

variable {current : ScheduledPlacement} {decision : Decision} {vm : VirtualMachine}

theorem detectDrift_eq_none_iff : detectDrift current decision = none ↔ Matches current decision := by
  constructor
  · intro same
    unfold detectDrift at same
    split at same
    · contradiction
    rename_i provider
    split at same
    · contradiction
    rename_i failureDomain
    split at same
    · contradiction
    rename_i storage
    split at same
    · contradiction
    rename_i networks
    exact ⟨not_not.mp provider, not_not.mp failureDomain, not_not.mp storage, not_not.mp networks⟩
  · intro same
    simp [detectDrift, same.provider, same.failureDomain, same.storage, same.networks]

theorem evaluate_inPlace_iff :
    evaluate vm decision = .inPlace ↔ ∀ current ∈ vm.scheduled, Matches current decision := by
  unfold evaluate
  cases recorded : vm.scheduled with
  | none => simp
  | some current =>
    simp only [Option.mem_def, Option.some.injEq, forall_eq', ← detectDrift_eq_none_iff]
    cases detectDrift current decision with
    | none => simp
    | some drift =>
      cases vm.spec.migrationPolicy with
      | never | automatic => simp
      | manual => cases migrateAnnotationSet vm <;> simp

theorem evaluate_drifted
    (recorded : vm.scheduled = some current) (drifted : ¬ Matches current decision) :
    ∃ drift, detectDrift current decision = some drift ∧
      evaluate vm decision =
        match vm.spec.migrationPolicy with
        | .never => .stickToOld
        | .manual => if migrateAnnotationSet vm then .recreate drift else .surfaceOnly drift
        | .automatic => .recreate drift := by
  cases detected : detectDrift current decision with
  | none => exact absurd (detectDrift_eq_none_iff.mp detected) drifted
  | some drift => exact ⟨drift, rfl, by simp only [evaluate, recorded, detected]⟩

theorem matches_toScheduledPlacement (decision : Decision) (now : Timestamp) :
    Matches (decision.toScheduledPlacement now) decision :=
  ⟨rfl, rfl, rfl, rfl⟩

end Banlieue.Vm
