import Banlieue.Scheduler.AntiAffinity

namespace Banlieue.Scheduler

open Banlieue.Data Banlieue.Api

/-! # What a failure is put down to -/

namespace Inputs

variable (inputs : Inputs) (candidate : Candidate)

/-- The domain passes the checks before the one of its firmware. -/
def MeetsRequests : Prop :=
  selectorMatches inputs.vm.spec.placement.failureDomainSelector candidate.2.labels = true ∧
  imageReadyOnProvider inputs.image candidate.1.name = true ∧
  imageReadyInZone inputs.image candidate.1 candidate.2.name = true ∧
  firstMissing (inputs.vmClass.spec.hardware.disks.map DiskSpec.storageClass)
    candidate.2.attributes.availableStorageClasses = none ∧
  firstMissing (inputs.vmClass.spec.network.interfaces.map NetworkInterfaceSpec.networkClass)
    candidate.2.attributes.availableNetworkClasses = none ∧
  firstMissing inputs.vmClass.spec.features candidate.2.attributes.features = none

def Considered : Prop := inputs.reachable candidate.1 = true ∧ inputs.MeetsRequests candidate

def LacksFirmware : Prop :=
  inputs.vmClass.spec.firmware = .efiSecure ∧ featureEfiSecureBoot ∉ candidate.2.attributes.features

def LacksTpm : Prop := inputs.vmClass.spec.tpmEnabled = true ∧ featureVtpm ∉ candidate.2.attributes.features

/-- A missing feature is reported only if no domain that the check gets to see has it. -/
def DiagnosedRightly : Prop :=
  (schedule inputs = .error .firmwareUnsupported → ∀ candidate ∈ inputs.candidates,
    inputs.Considered candidate → featureEfiSecureBoot ∉ candidate.2.attributes.features) ∧
  (schedule inputs = .error .tpmUnsupported → ∀ candidate ∈ inputs.candidates,
    inputs.Considered candidate → ¬ inputs.LacksFirmware candidate →
      featureVtpm ∉ candidate.2.attributes.features)

/-- The considered domains have a required feature all or none of them. -/
def FeaturesUniform : Prop :=
  (inputs.vmClass.spec.firmware = .efiSecure → ∀ first ∈ inputs.candidates, ∀ second ∈ inputs.candidates,
    inputs.Considered first → inputs.Considered second →
      featureEfiSecureBoot ∈ first.2.attributes.features → featureEfiSecureBoot ∈ second.2.attributes.features) ∧
  ((∀ candidate ∈ inputs.candidates, inputs.Considered candidate → ¬ inputs.LacksFirmware candidate) →
    inputs.vmClass.spec.tpmEnabled = true → ∀ first ∈ inputs.candidates, ∀ second ∈ inputs.candidates,
      inputs.Considered first → inputs.Considered second →
        featureVtpm ∈ first.2.attributes.features → featureVtpm ∈ second.2.attributes.features)

end Inputs

variable {inputs : Inputs}

/-! ## The flags of the walk -/

theorem rejection_flags (inputs : Inputs) (candidate : Candidate) :
    ((inputs.rejection candidate.1 candidate.2).any Rejection.firmwareUnsupported = true ↔
      inputs.MeetsRequests candidate ∧ inputs.LacksFirmware candidate) ∧
    ((inputs.rejection candidate.1 candidate.2).any Rejection.tpmUnsupported = true ↔
      inputs.MeetsRequests candidate ∧ ¬ inputs.LacksFirmware candidate ∧ inputs.LacksTpm candidate) := by
  simp only [Inputs.rejection, Inputs.MeetsRequests, Inputs.LacksFirmware, Inputs.LacksTpm]
  iterate 8
    split
    · simp_all
  cases inputs.insufficientCapacity candidate.1 candidate.2 <;> simp_all

/-- A flag that only the candidates raise is raised exactly if one of them does. -/
theorem seen_walk {flag : Walk → Bool} {raises : Candidate → Bool}
    (step : ∀ walk provider fd,
      flag (inputs.visitFailureDomain provider walk fd) = (flag walk || raises (provider, fd)))
    (entered : ∀ walk ready, flag { walk with imageReadySeen := ready } = flag walk)
    (providers : List Provider) (walk : Walk) :
    flag (providers.foldl inputs.visitProvider walk) =
      (flag walk || (providers.flatMap fun provider => provider.failureDomains.map fun fd => (provider, fd)).any raises) := by
  have domains : ∀ provider (domains : List FailureDomain) walk,
      flag (domains.foldl (inputs.visitFailureDomain provider) walk) =
        (flag walk || (domains.map fun fd => (provider, fd)).any raises) := by
    intro provider domains
    induction domains with
    | nil => simp
    | cons fd rest ih =>
      intro walk
      rw [List.foldl_cons, ih, step, List.map_cons, List.any_cons, Bool.or_assoc]
  induction providers generalizing walk with
  | nil => simp
  | cons provider rest ih =>
    rw [List.foldl_cons, ih, Inputs.visitProvider, domains, entered, List.flatMap_cons, List.any_append, Bool.or_assoc]

theorem imageReadySeen_walk {provider : Provider} {providers : List Provider} (member : provider ∈ providers)
    (ready : imageReadyOnProvider inputs.image provider.name = true) :
    (inputs.walk providers).imageReadySeen = true := by
  have domains : ∀ provider (domains : List FailureDomain) walk,
      (domains.foldl (inputs.visitFailureDomain provider) walk).imageReadySeen = walk.imageReadySeen := by
    intro provider domains
    induction domains with
    | nil => exact fun _ => rfl
    | cons fd rest ih =>
      intro walk
      rw [List.foldl_cons, ih, Inputs.visitFailureDomain]
      split <;> rfl
  have general : ∀ walk : Walk, walk.imageReadySeen = true ∨ provider ∈ providers →
      (providers.foldl inputs.visitProvider walk).imageReadySeen = true := by
    clear member
    induction providers with
    | nil => simp
    | cons other rest ih =>
      intro walk seen
      refine ih _ ?_
      rw [Inputs.visitProvider, domains]
      rcases seen with seen | member
      · exact .inl (by simp [seen])
      · exact (List.mem_cons.mp member).imp (fun same => by simp [← same, ready]) id
  exact general {} (.inr member)

theorem flagged_iff {flag : Walk → Bool} {raises : Rejection → Bool} {holds : Candidate → Prop}
    (step : ∀ walk provider fd, flag (inputs.visitFailureDomain provider walk fd) =
      (flag walk || (inputs.rejection provider fd).any raises))
    (entered : ∀ walk ready, flag { walk with imageReadySeen := ready } = flag walk) (start : flag {} = false)
    (means : ∀ candidate, (inputs.rejection candidate.1 candidate.2).any raises = true ↔
      inputs.MeetsRequests candidate ∧ holds candidate) :
    flag (inputs.walk (inputs.providers.filter inputs.reachable)) = true ↔
      ∃ candidate ∈ inputs.candidates, inputs.Considered candidate ∧ holds candidate := by
  rw [Inputs.walk, @seen_walk _ _ (fun candidate => (inputs.rejection candidate.1 candidate.2).any raises) step entered,
    start, Bool.false_or, flatMap_reachable]
  simp only [List.any_eq_true, List.mem_filter, means, Inputs.Considered, Inputs.candidates, and_assoc]

/-! ## When a failure is reported -/

/-- A failure of the walk is reported exactly if the walk keeps nothing. -/
theorem schedule_eq_failure_iff {error : ScheduleError}
    (walked : error = .firmwareUnsupported ∨ error = .tpmUnsupported) :
    schedule inputs = .error error ↔ inputs.candidates.filter inputs.eligible = [] ∧
      (inputs.walk (inputs.providers.filter inputs.reachable)).failure = error := by
  have reachable : (inputs.providers.filter fun provider =>
        selectorMatches inputs.vm.spec.placement.providerSelector provider.labels).filter
          (fun provider => !isStale provider) = inputs.providers.filter inputs.reachable :=
    (filter_and _ _ _).symm
  have unwalked : (inputs.walk []).failure ≠ error := by
    rcases walked with rfl | rfl <;> simp [Inputs.walk, Walk.failure]
  simp only [schedule, reachable, survivors_eq_eligible, List.isEmpty_iff]
  split_ifs with unselected dead nothing
  · rw [unselected, List.filter_nil] at reachable
    rcases walked with rfl | rfl <;> simp [← reachable, unwalked]
  · rcases walked with rfl | rfl <;> simp [dead, unwalked]
  · simp [nothing]
  · simp only [nothing, false_and, iff_false]
    split
    · rcases walked with rfl | rfl <;> simp
    · split <;> rcases walked with rfl | rfl <;> simp

theorem failure_walk_iff (inputs : Inputs) :
    ((inputs.walk (inputs.providers.filter inputs.reachable)).failure = .firmwareUnsupported ↔
      ∃ candidate ∈ inputs.candidates, inputs.Considered candidate ∧ inputs.LacksFirmware candidate) ∧
    ((inputs.walk (inputs.providers.filter inputs.reachable)).failure = .tpmUnsupported ↔
      (¬ ∃ candidate ∈ inputs.candidates, inputs.Considered candidate ∧ inputs.LacksFirmware candidate) ∧
      ∃ candidate ∈ inputs.candidates, inputs.Considered candidate ∧
        ¬ inputs.LacksFirmware candidate ∧ inputs.LacksTpm candidate) := by
  have firmware := @flagged_iff inputs Walk.firmwareUnsupportedSeen _ _ (fun walk provider fd => by
    cases rejected : inputs.rejection provider fd <;> simp [Inputs.visitFailureDomain, rejected])
    (fun _ _ => rfl) rfl fun candidate => (rejection_flags inputs candidate).1
  have tpm := @flagged_iff inputs Walk.tpmUnsupportedSeen _ _ (fun walk provider fd => by
    cases rejected : inputs.rejection provider fd <;> simp [Inputs.visitFailureDomain, rejected])
    (fun _ _ => rfl) rfl fun candidate => (rejection_flags inputs candidate).2
  have ready : ∀ {holds : Candidate → Prop},
      (∃ candidate ∈ inputs.candidates, inputs.Considered candidate ∧ holds candidate) →
        (inputs.walk (inputs.providers.filter inputs.reachable)).imageReadySeen = true := by
    rintro _ ⟨candidate, listed, considered, -⟩
    obtain ⟨provider, member, domain⟩ := List.mem_flatMap.mp listed
    obtain ⟨fd, -, rfl⟩ := List.mem_map.mp domain
    exact imageReadySeen_walk (List.mem_filter.mpr ⟨member, considered.1⟩) considered.2.2.1
  have firmwareReady := fun flagged => ready (firmware.mp flagged)
  have tpmReady := fun flagged => ready (tpm.mp flagged)
  rw [← firmware, ← tpm]
  clear firmware tpm ready
  unfold Walk.failure
  split_ifs <;> simp_all

/-- A missing feature is reported rightly exactly if some domain is accepted, or the ones
that the checks get to see agree about the feature. -/
theorem diagnosedRightly_iff (inputs : Inputs) :
    inputs.DiagnosedRightly ↔
      (∃ candidate ∈ inputs.candidates, inputs.Eligible candidate) ∨ inputs.FeaturesUniform := by
  have firmware := (@schedule_eq_failure_iff inputs _ (.inl rfl)).trans (and_congr_right' (failure_walk_iff inputs).1)
  have tpm := (@schedule_eq_failure_iff inputs _ (.inr rfl)).trans (and_congr_right' (failure_walk_iff inputs).2)
  have accepted : inputs.candidates.filter inputs.eligible = [] ↔
      ¬ ∃ candidate ∈ inputs.candidates, inputs.Eligible candidate := by
    simp [List.filter_eq_nil_iff, eligible_iff]
  rw [accepted] at firmware tpm
  rw [Inputs.DiagnosedRightly, firmware, tpm]
  by_cases some : ∃ candidate ∈ inputs.candidates, inputs.Eligible candidate
  · simp [some]
  · simp only [some, false_or, not_false_eq_true, true_and]
    unfold Inputs.FeaturesUniform
    constructor
    · rintro ⟨firmwareRight, tpmRight⟩
      refine ⟨fun secure first listed second listed' seen seen' has => ?_,
        fun capable enabled first listed second listed' seen seen' has => ?_⟩
      · by_contra lacks
        exact firmwareRight ⟨second, listed', seen', secure, lacks⟩ first listed seen has
      · by_contra lacks
        refine tpmRight ⟨?_, second, listed', seen', capable second listed' seen', enabled, lacks⟩
          first listed seen (capable first listed seen) has
        rintro ⟨candidate, member, considered, missing⟩
        exact capable candidate member considered missing
    · rintro ⟨firmwareUniform, tpmUniform⟩
      constructor
      · rintro ⟨lacking, listed', seen', secure, lacks⟩ candidate listed seen has
        exact lacks (firmwareUniform secure candidate listed lacking listed' seen seen' has)
      · rintro ⟨capable, lacking, listed', seen', -, enabled, lacks⟩ candidate listed seen - has
        refine lacks (tpmUniform (fun other member considered missing => ?_) enabled candidate listed lacking listed'
          seen seen' has)
        exact capable ⟨other, member, considered, missing⟩

/-! ## A domain that is only full -/

/-- One domain lacks secure boot, and the other one has it and no memory left. -/
def fullDomainInputs : Inputs :=
  { vm := dbReplica "db-0" [] none
    vmClass := { smallClass with spec.firmware := .efiSecure }
    image := readyImage
    providers := [libvirtProvider [{ name := "p-a" }, { name := "p-b", attributes :=
      { features := [featureEfiSecureBoot], capacity := some { memoryMiB := some 0 } } }]]
    existingVms := []
    classes := [] }

theorem fullDomainInputs_misdiagnosed : ¬ fullDomainInputs.DiagnosedRightly := by
  intro right
  have reported : schedule fullDomainInputs = .error .firmwareUnsupported := by decide
  refine right.1 reported _ (List.mem_of_getElem? (i := 1) rfl) ?_ (by decide)
  unfold Inputs.Considered Inputs.MeetsRequests
  decide

end Banlieue.Scheduler
