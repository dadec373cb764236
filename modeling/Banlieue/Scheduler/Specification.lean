import Banlieue.Data.FirstLeast
import Banlieue.Scheduler.Schedule

namespace Banlieue.Scheduler

open Banlieue.Data Banlieue.Api

/-! # What the scheduler is for

A candidate is a pair of a provider and one of its failure domains.  The
scheduler answers with a passing candidate that precedes every other passing one.
-/

/-! ## The filters, declaratively -/

def Satisfied (labels : Labels) (requirement : LabelSelectorRequirement) : Prop :=
  match requirement.operator with
  | .In => ∃ value ∈ requirement.values, labels.get requirement.key = some value
  | .NotIn => ∀ value ∈ requirement.values, labels.get requirement.key ≠ some value
  | .Exists => ∃ value, labels.get requirement.key = some value
  | .DoesNotExist => labels.get requirement.key = none

/-- The meaning of a selector: every listed label and every requirement holds. -/
def Selected (selector : Option LabelSelector) (labels : Labels) : Prop :=
  ∀ conditions ∈ selector,
    (∀ key value, conditions.matchLabels.get key = some value → labels.get key = some value) ∧
      ∀ requirement ∈ conditions.matchExpressions, Satisfied labels requirement

/-- The machine's demand fits beside the usage on every resource the domain
publishes a figure for, in the code's 64-bit arithmetic. -/
structure Fits (vmClass : VMClass) (used : Usage) (capacity : FailureDomainCapacity) (ratio : UInt32) :
    Prop where
  memory : ∀ available ∈ capacity.memoryMiB,
    used.memoryMiB +
      (vmClass.spec.hardware.memoryMiB.toUInt64 + capacity.memoryOverheadMiBPerVm.getD 0) ≤ available
  cpus : ∀ hostCpus ∈ capacity.cpus,
    used.cpus + vmClass.spec.hardware.cpus.toUInt64 ≤ hostCpus.toUInt64 * ratio.toUInt64

def Inputs.usage (inputs : Inputs) (candidate : Candidate) (capacity : FailureDomainCapacity) : Usage :=
  usageOn inputs.vm inputs.existingVms inputs.classesByName candidate.1.name candidate.2.name
    (capacity.memoryOverheadMiBPerVm.getD 0)

def overcommitRatio (provider : Provider) : UInt32 :=
  (provider.spec.scheduling.map ProviderScheduling.ratio).getD defaultCpuOvercommitRatio

/-- The filters that look at one provider or one failure domain. -/
structure Inputs.Eligible (inputs : Inputs) (candidate : Candidate) : Prop where
  providerSelected : Selected inputs.vm.spec.placement.providerSelector candidate.1.labels
  alive : isStale candidate.1 = false
  domainSelected : Selected inputs.vm.spec.placement.failureDomainSelector candidate.2.labels
  imageReady : imageReadyOnProvider inputs.image candidate.1.name = true
  zoneReady : imageReadyInZone inputs.image candidate.1 candidate.2.name = true
  storage : ∀ disk ∈ inputs.vmClass.spec.hardware.disks,
    disk.storageClass ∈ candidate.2.attributes.availableStorageClasses
  networks : ∀ nic ∈ inputs.vmClass.spec.network.interfaces,
    nic.networkClass ∈ candidate.2.attributes.availableNetworkClasses
  features : ∀ feature ∈ inputs.vmClass.spec.features, feature ∈ candidate.2.attributes.features
  firmware : inputs.vmClass.spec.firmware = .efiSecure →
    featureEfiSecureBoot ∈ candidate.2.attributes.features
  tpm : inputs.vmClass.spec.tpmEnabled = true → featureVtpm ∈ candidate.2.attributes.features
  capacity : ∀ capacity ∈ candidate.2.attributes.capacity,
    Fits inputs.vmClass (inputs.usage candidate capacity) capacity (overcommitRatio candidate.1)

/-- No recorded failure-domain name of a machine the rule selects is the
candidate's value of the topology key. -/
def KeptBy (rule : AntiAffinityRule) (existingVms : List VirtualMachine) (candidate : Candidate) : Prop :=
  ∀ other ∈ existingVms, Selected (some rule.labelSelector) other.labels →
    ∀ placement ∈ other.scheduled,
      candidate.2.labels.get rule.topologyKey ≠ some placement.failureDomain

structure Inputs.Passes (inputs : Inputs) (candidate : Candidate) : Prop extends
    inputs.Eligible candidate where
  antiAffinity : ∀ rule ∈ inputs.vm.spec.placement.antiAffinity, rule.mode = .required →
    KeptBy rule inputs.existingVms candidate

def Inputs.candidates (inputs : Inputs) : List Candidate :=
  inputs.providers.flatMap fun provider => provider.failureDomains.map fun fd => (provider, fd)

/-! ## The code's tests decide the filters -/

variable {labels : Labels} {rule : AntiAffinityRule} {first second : Candidate}

theorem requirementHolds_iff {requirement : LabelSelectorRequirement} :
    requirementHolds labels requirement = true ↔ Satisfied labels requirement := by
  obtain ⟨key, operator, values⟩ := requirement
  cases operator with
  | In | Exists | DoesNotExist =>
    cases present : labels.get key <;> simp [requirementHolds, Satisfied, present]
  | NotIn =>
    cases present : labels.get key with
    | none => simp [requirementHolds, Satisfied, present]
    | some held =>
      simp only [requirementHolds, Satisfied, present, Option.all_some, Bool.not_eq_true',
        List.contains_eq_mem, decide_eq_false_iff_not, ne_eq, Option.some.injEq]
      exact ⟨fun absent value member same => absent (same ▸ member), fun apart member => apart held member rfl⟩

theorem selectorMatches_iff {selector : Option LabelSelector} :
    selectorMatches selector labels = true ↔ Selected selector labels := by
  cases selector with
  | none => simp [selectorMatches, Selected]
  | some conditions =>
    simp only [selectorMatches, Selected, Bool.and_eq_true, List.all_eq_true, beq_iff_eq,
      requirementHolds_iff, Option.mem_def, Option.some.injEq, forall_eq', Prod.forall,
      @SortedMap.get_eq_some_iff _ _ _ _ _ _ conditions.matchLabels]

theorem firstMissing_eq_none_iff (requested available : List String) :
    firstMissing requested available = none ↔ ∀ wanted ∈ requested, wanted ∈ available := by
  simp [firstMissing]

theorem capacityShortfall_eq_none_iff {vmClass : VMClass} {used : Usage}
    {capacity : FailureDomainCapacity} {ratio : UInt32} : capacityShortfall vmClass.spec.hardware.cpus
        (vmClass.spec.hardware.memoryMiB.toUInt64 + capacity.memoryOverheadMiBPerVm.getD 0) used capacity ratio = none ↔
      Fits vmClass used capacity ratio := by
  have memory (needed available : UInt64) (text : String) :
      (if needed > available then some text else none) = none ↔ needed ≤ available := by
    simp [UInt64.not_lt]
  simp only [capacityShortfall, Option.or_eq_none_iff, memoryShortfall, cpuShortfall, Option.bind_eq_none_iff, memory]
  exact ⟨fun fits => ⟨fits.1, fits.2⟩, fun fits => ⟨fits.memory, fits.cpus⟩⟩

variable {inputs : Inputs} {candidate : Candidate}

theorem keptByRule_iff {existingVms : List VirtualMachine} :
    keptByRule rule existingVms candidate = true ↔ KeptBy rule existingVms candidate := by
  cases label : candidate.2.labels.get rule.topologyKey with
  | none => simp [keptByRule, KeptBy, label]
  | some value =>
    simp only [keptByRule, KeptBy, label, blockedTopologyValues, Option.all_some, Bool.not_eq_true',
      List.contains_eq_mem, decide_eq_false_iff_not, List.mem_filterMap, List.mem_filter,
      selectorMatches_iff, Option.map_eq_some_iff, not_exists, not_and, Option.mem_def, ne_eq,
      Option.some.injEq, and_imp]
    exact ⟨fun free other member selected placement recorded same =>
        free other member selected placement recorded same.symm,
      fun free other member selected placement recorded same =>
        free other member selected placement recorded same.symm⟩

/-- The candidate passes every check of the walk. -/
def Inputs.accepted (inputs : Inputs) (candidate : Candidate) : Bool :=
  (inputs.rejection candidate.1 candidate.2).isNone

def Inputs.reachable (inputs : Inputs) (provider : Provider) : Bool :=
  selectorMatches inputs.vm.spec.placement.providerSelector provider.labels && !isStale provider

def Inputs.eligible (inputs : Inputs) (candidate : Candidate) : Bool :=
  inputs.reachable candidate.1 && inputs.accepted candidate

def Inputs.passes (inputs : Inputs) (candidate : Candidate) : Bool :=
  inputs.eligible candidate &&
    inputs.requiredRules.all fun rule => keptByRule rule inputs.existingVms candidate

theorem accepted_iff : inputs.accepted candidate = true ↔
      Selected inputs.vm.spec.placement.failureDomainSelector candidate.2.labels ∧
      imageReadyOnProvider inputs.image candidate.1.name = true ∧
      imageReadyInZone inputs.image candidate.1 candidate.2.name = true ∧ (∀ disk ∈ inputs.vmClass.spec.hardware.disks,
        disk.storageClass ∈ candidate.2.attributes.availableStorageClasses) ∧
      (∀ nic ∈ inputs.vmClass.spec.network.interfaces,
        nic.networkClass ∈ candidate.2.attributes.availableNetworkClasses) ∧
      (∀ feature ∈ inputs.vmClass.spec.features, feature ∈ candidate.2.attributes.features) ∧
      (inputs.vmClass.spec.firmware = .efiSecure → featureEfiSecureBoot ∈ candidate.2.attributes.features) ∧
      (inputs.vmClass.spec.tpmEnabled = true → featureVtpm ∈ candidate.2.attributes.features) ∧
      inputs.insufficientCapacity candidate.1 candidate.2 = none := by
  have storage := firstMissing_eq_none_iff (inputs.vmClass.spec.hardware.disks.map DiskSpec.storageClass)
    candidate.2.attributes.availableStorageClasses
  have networks := firstMissing_eq_none_iff
    (inputs.vmClass.spec.network.interfaces.map NetworkInterfaceSpec.networkClass)
    candidate.2.attributes.availableNetworkClasses
  have features := firstMissing_eq_none_iff inputs.vmClass.spec.features candidate.2.attributes.features
  simp only [List.mem_map, forall_exists_index, and_imp, forall_apply_eq_imp_iff₂] at storage networks
  rw [← storage, ← networks, ← features, ← selectorMatches_iff]
  simp only [Inputs.accepted, Inputs.rejection]
  -- Each check in turn either rejects the candidate or leaves the later ones to decide.
  clear storage networks features
  iterate 8
    split
    · simp_all
  simp_all

theorem eligible_iff : inputs.eligible candidate = true ↔ inputs.Eligible candidate := by
  simp only [Inputs.eligible, Inputs.reachable, Bool.and_eq_true, Bool.not_eq_true', accepted_iff,
    selectorMatches_iff, Inputs.insufficientCapacity, Option.bind_eq_none_iff, capacityShortfall_eq_none_iff]
  constructor
  · rintro ⟨⟨selected, alive⟩, domain, image, zone, storage, networks, features, firmware, tpm, fits⟩
    exact ⟨selected, alive, domain, image, zone, storage, networks, features, firmware, tpm, fits⟩
  · rintro ⟨selected, alive, domain, image, zone, storage, networks, features, firmware, tpm, fits⟩
    exact ⟨⟨selected, alive⟩, domain, image, zone, storage, networks, features, firmware, tpm, fits⟩

theorem mem_requiredRules : rule ∈ inputs.requiredRules ↔
      rule ∈ inputs.vm.spec.placement.antiAffinity ∧ rule.mode = .required := by
  simp [Inputs.requiredRules, AntiAffinityRule.modeIsRequired]

theorem passes_iff : inputs.passes candidate = true ↔ inputs.Passes candidate := by
  simp only [Inputs.passes, Bool.and_eq_true, eligible_iff, List.all_eq_true, mem_requiredRules,
    keptByRule_iff, and_imp]
  exact ⟨fun passing => ⟨passing.1, passing.2⟩, fun passing => ⟨passing.toEligible, passing.antiAffinity⟩⟩

theorem filter_and {α : Type} (first second : α → Bool) (list : List α) :
    list.filter (fun element => first element && second element) = (list.filter first).filter second := by
  rw [List.filter_filter]
  refine List.filter_congr ?_
  intro element _
  rw [Bool.and_comm]

/-! ## The walk keeps exactly the accepted candidates, in order -/

theorem survivors_visitFailureDomains (inputs : Inputs) (provider : Provider)
    (domains : List FailureDomain) (walk : Walk) : (domains.foldl (inputs.visitFailureDomain provider) walk).survivors =
      walk.survivors ++ (domains.map fun fd => (provider, fd)).filter inputs.accepted := by
  induction domains generalizing walk with
  | nil => simp
  | cons fd rest ih =>
    rw [List.foldl_cons, ih, List.map_cons]
    cases rejected : inputs.rejection provider fd with
    | none =>
      have kept : inputs.accepted (provider, fd) = true := by simp [Inputs.accepted, rejected]
      rw [List.filter_cons_of_pos kept]
      simp [Inputs.visitFailureDomain, rejected]
    | some reason =>
      have dropped : ¬ inputs.accepted (provider, fd) = true := by simp [Inputs.accepted, rejected]
      rw [List.filter_cons_of_neg dropped]
      simp [Inputs.visitFailureDomain, rejected]

theorem survivors_walk (inputs : Inputs) (providers : List Provider) : (inputs.walk providers).survivors =
      (providers.flatMap fun provider => provider.failureDomains.map fun fd => (provider, fd)).filter
        inputs.accepted := by
  have general : ∀ walk : Walk, (providers.foldl inputs.visitProvider walk).survivors = walk.survivors ++
        (providers.flatMap fun provider => provider.failureDomains.map fun fd => (provider, fd)).filter
          inputs.accepted := by
    induction providers with
    | nil => simp
    | cons provider rest ih =>
      intro walk
      rw [List.foldl_cons, ih, Inputs.visitProvider, survivors_visitFailureDomains,
        List.flatMap_cons, List.filter_append, List.append_assoc]
  simpa [Inputs.walk] using general {}

theorem flatMap_reachable (inputs : Inputs) (providers : List Provider) :
    ((providers.filter inputs.reachable).flatMap fun provider => provider.failureDomains.map fun fd => (provider, fd)) =
      (providers.flatMap fun provider => provider.failureDomains.map fun fd => (provider, fd)).filter
        fun candidate => inputs.reachable candidate.1 := by
  induction providers with
  | nil => rfl
  | cons provider rest ih =>
    rw [List.flatMap_cons, List.filter_append, ← ih, List.filter_map]
    cases reachable : inputs.reachable provider with
    | true => simp [List.filter_cons_of_pos, reachable, Function.comp_def]
    | false => simp [List.filter_cons_of_neg, reachable, Function.comp_def]

theorem survivors_eq_eligible (inputs : Inputs) : (inputs.walk (inputs.providers.filter inputs.reachable)).survivors =
      inputs.candidates.filter inputs.eligible := by
  rw [survivors_walk, flatMap_reachable, ← filter_and]
  rfl

theorem applyAntiAffinity_eq (existingVms : List VirtualMachine) (rules : List AntiAffinityRule)
    {survivors : List Candidate} (filled : survivors ≠ []) :
    match applyAntiAffinity existingVms rules survivors with
    | .ok kept =>
      kept = survivors.filter (fun candidate =>
        rules.all fun rule => keptByRule rule existingVms candidate) ∧ kept ≠ []
    | .error _ =>
      survivors.filter (fun candidate =>
        rules.all fun rule => keptByRule rule existingVms candidate) = [] := by
  induction rules generalizing survivors with
  | nil => simpa [applyAntiAffinity] using filled
  | cons rule rules ih =>
    simp only [List.all_cons]
    rw [applyAntiAffinity, filter_and]
    by_cases emptied : survivors.filter (keptByRule rule existingVms) = []
    · simp [emptied]
    · simp only [List.isEmpty_iff, if_neg emptied]
      exact ih emptied

/-! ## The answer -/

theorem schedule_eq_ok_iff {decision : Decision} : schedule inputs = .ok decision ↔
      ∃ candidate, IsFirstLeast inputs.spreadKey inputs.candidates inputs.passes candidate ∧
        decision = buildDecision inputs.vmClass candidate.1 candidate.2 := by
  have passing : inputs.candidates.filter inputs.passes =
      (inputs.candidates.filter inputs.eligible).filter fun candidate =>
        inputs.requiredRules.all fun rule => keptByRule rule inputs.existingVms candidate :=
    filter_and _ _ _
  have reachable : (inputs.providers.filter fun provider =>
        selectorMatches inputs.vm.spec.placement.providerSelector provider.labels).filter
          (fun provider => !isStale provider) = inputs.providers.filter inputs.reachable :=
    (filter_and _ _ _).symm
  simp only [← minOn?_filter_eq_some_iff, passing, ← survivors_eq_eligible, schedule, reachable]
  by_cases nothing : (inputs.walk (inputs.providers.filter inputs.reachable)).survivors = []
  · simp only [nothing, List.isEmpty_nil, if_true, List.filter_nil, List.minOn?_nil, reduceCtorEq,
      false_and, exists_false, iff_false]
    split_ifs <;> exact fun answered => nomatch answered
  · have alive : inputs.providers.filter inputs.reachable ≠ [] := by
      intro none
      rw [none] at nothing
      exact nothing rfl
    have selected : (inputs.providers.filter fun provider =>
        selectorMatches inputs.vm.spec.placement.providerSelector provider.labels) ≠ [] := by
      intro none
      rw [none, List.filter_nil] at reachable
      exact alive reachable.symm
    have rules := applyAntiAffinity_eq inputs.existingVms inputs.requiredRules nothing
    simp only [List.isEmpty_iff, if_neg nothing, if_neg alive, if_neg selected]
    split at rules
    · rename_i kept applied
      rw [applied, ← rules.1]
      cases chosen : kept.minOn? inputs.spreadKey with
      | none => exact absurd (eq_nil_of_minOn?_eq_none chosen) rules.2
      | some candidate =>
        simp only [chosen, Except.ok.injEq, Option.some.injEq, exists_eq_left']
        exact eq_comm
    · rename_i key applied
      rw [applied, rules]
      simp

theorem schedule_toOption (inputs : Inputs) : (schedule inputs).toOption =
    ((inputs.candidates.filter inputs.passes).minOn? inputs.spreadKey).map
      fun candidate => buildDecision inputs.vmClass candidate.1 candidate.2 := by
  ext decision
  simp only [Option.map_eq_some_iff, minOn?_filter_eq_some_iff, eq_comm (b := decision), ← schedule_eq_ok_iff]
  cases schedule inputs <;> simp [Except.toOption]

/-- More providers never cost a machine its placement, and move it only to one of theirs. -/
theorem schedule_more_providers (inputs : Inputs) (added : List Provider) :
    let joined := (schedule { inputs with providers := inputs.providers ++ added }).toOption
    joined = (schedule inputs).toOption ∨
      joined = (schedule { inputs with providers := added }).toOption ∧ joined.isSome := by
  -- Filters and spread order look at one candidate, so the winners of the two lists meet.
  let winner (providers : List Provider) :=
    ((Inputs.candidates { inputs with providers }).filter inputs.passes).minOn? inputs.spreadKey
  have met : winner (inputs.providers ++ added) =
      (winner inputs.providers).merge (minOn inputs.spreadKey) (winner added) := by
    simp only [winner, Inputs.candidates, List.flatMap_append, List.filter_append, List.minOn?_append]
  have answer (providers : List Provider) : (schedule { inputs with providers }).toOption =
      (winner providers).map fun candidate => buildDecision inputs.vmClass candidate.1 candidate.2 :=
    schedule_toOption _
  simp only [answer, met]
  cases winner inputs.providers with
  | none => cases winner added <;> simp
  | some old =>
    cases winner added with
    | none => simp
    | some new =>
      simp only [Option.merge_some_some, minOn]
      split <;> simp

/-! ## The spread order -/

def Inputs.groupLoad (inputs : Inputs) (candidate : Candidate) : Nat :=
  (othersScheduledOn inputs.vm inputs.existingVms candidate.1.name candidate.2.name).countP fun other =>
    (inputs.vm.labels.get labelPool).isNone ||
      other.labels.get labelPool == inputs.vm.labels.get labelPool

def Inputs.totalLoad (inputs : Inputs) (candidate : Candidate) : Nat :=
  (othersScheduledOn inputs.vm inputs.existingVms candidate.1.name candidate.2.name).length

/-- `first` is at most as loaded as `second`: by group, then in total, then by
the reversed rendezvous hash. -/
def Inputs.NotAfter (inputs : Inputs) (first second : Candidate) : Prop :=
  inputs.groupLoad first < inputs.groupLoad second ∨
    inputs.groupLoad first = inputs.groupLoad second ∧
      (inputs.totalLoad first < inputs.totalLoad second ∨
        inputs.totalLoad first = inputs.totalLoad second ∧
          inputs.rendezvous second ≤ inputs.rendezvous first)

theorem placementLoad_eq (inputs : Inputs) (candidate : Candidate) :
    placementLoad inputs.vm inputs.existingVms candidate.1.name candidate.2.name =
      (inputs.groupLoad candidate, inputs.totalLoad candidate) := by
  rw [placementLoad, Inputs.groupLoad, Inputs.totalLoad]
  generalize othersScheduledOn inputs.vm inputs.existingVms candidate.1.name candidate.2.name = others
  have general : ∀ load : Nat × Nat, others.foldl (fun load other =>
        (load.1 + ((inputs.vm.labels.get labelPool).isNone ||
          other.labels.get labelPool == inputs.vm.labels.get labelPool).toNat, load.2 + 1)) load =
      (load.1 + others.countP (fun other => (inputs.vm.labels.get labelPool).isNone ||
          other.labels.get labelPool == inputs.vm.labels.get labelPool), load.2 + others.length) := by
    induction others with
    | nil => simp
    | cons other rest ih =>
      intro load
      rw [List.foldl_cons, ih, List.countP_cons, List.length_cons]
      refine Prod.ext ?_ ?_
      · simp only [Bool.toNat, Bool.cond_eq_ite]
        omega
      · simp only
        omega
  simpa using general (0, 0)

theorem spreadKey_eq (inputs : Inputs) (candidate : Candidate) : inputs.spreadKey candidate =
      toLex (inputs.groupLoad candidate,
        toLex (inputs.totalLoad candidate, OrderDual.toDual (inputs.rendezvous candidate).toNat)) := by
  simp only [Inputs.spreadKey, placementLoad_eq]

theorem spreadKey_le_iff : inputs.spreadKey first ≤ inputs.spreadKey second ↔ inputs.NotAfter first second := by
  simp only [spreadKey_eq, Prod.Lex.toLex_le_toLex, OrderDual.toDual_le_toDual, Inputs.NotAfter, UInt64.le_iff_toNat_le]

theorem rendezvous_eq_of_spreadKey_eq (same : inputs.spreadKey first = inputs.spreadKey second) :
    inputs.rendezvous first = inputs.rendezvous second := by
  simp only [spreadKey_eq, EmbeddingLike.apply_eq_iff_eq, Prod.mk.injEq] at same
  exact UInt64.toNat_inj.mp same.2.2

end Banlieue.Scheduler
