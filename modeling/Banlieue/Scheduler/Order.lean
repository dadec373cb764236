import Banlieue.Scheduler.Specification

namespace Banlieue.Scheduler

open Banlieue.Data Banlieue.Api

/-! # The order of the inputs does not decide a placement -/

/-- A provider without its failure domains. -/
def bare (provider : Provider) : Provider :=
  { provider with status := provider.status.map fun status => { status with failureDomains := [] } }

/-- Equal but for the order of the published failure domains. -/
structure SameProvider (left right : Provider) : Prop where
  bare : bare left = bare right
  domains : left.failureDomains.Perm right.failureDomains

/-- The same request with the provider, failure-domain and machine lists in
another order. -/
structure Inputs.Reordered (inputs reordered : Inputs) : Prop where
  vm : inputs.vm = reordered.vm
  vmClass : inputs.vmClass = reordered.vmClass
  image : inputs.image = reordered.image
  classes : inputs.classes = reordered.classes
  existingVms : inputs.existingVms.Perm reordered.existingVms
  providers : ∃ middle, inputs.providers.Perm middle ∧
    List.Forall₂ SameProvider middle reordered.providers

def view (candidate : Candidate) : Candidate := (bare candidate.1, candidate.2)

theorem isStale_bare (provider : Provider) : isStale (bare provider) = isStale provider := by
  obtain ⟨metadata, spec, status⟩ := provider
  cases status <;> rfl

theorem passes_view (inputs : Inputs) (candidate : Candidate) :
    inputs.passes (view candidate) = inputs.passes candidate := by
  have reachable : inputs.reachable (view candidate).1 = inputs.reachable candidate.1 := by
    simp only [Inputs.reachable, view, isStale_bare]
    rfl
  rw [Inputs.passes, Inputs.passes, Inputs.eligible, Inputs.eligible, reachable]
  rfl

/-! ## Machines in another order -/

theorem Usage.count_comm (classes : SortedMap String VMClass) (overhead : UInt64) (used : Usage)
    (first second : VirtualMachine) : Usage.count classes overhead (Usage.count classes overhead used first) second =
      Usage.count classes overhead (Usage.count classes overhead used second) first := by
  simp only [Usage.count]
  cases classes.get first.spec.classRef.name <;> cases classes.get second.spec.classRef.name <;>
    simp only [Usage.mk.injEq]
  exact ⟨by ac_rfl, by ac_rfl⟩

section Machines

variable (vm : VirtualMachine) {left right : List VirtualMachine} (provider failureDomain : String)

theorem othersScheduledOn_perm (same : left.Perm right) : (othersScheduledOn vm left provider failureDomain).Perm
      (othersScheduledOn vm right provider failureDomain) :=
  (same.filter _).filter _

theorem usageOn_perm {classes : SortedMap String VMClass} {overhead : UInt64} (same : left.Perm right) :
    usageOn vm left classes provider failureDomain overhead =
      usageOn vm right classes provider failureDomain overhead := by
  have : RightCommutative (Usage.count classes overhead) := ⟨Usage.count_comm classes overhead⟩
  exact (othersScheduledOn_perm vm provider failureDomain same).foldl_eq _

theorem keptByRule_perm {rule : AntiAffinityRule} {candidate : Candidate} (same : left.Perm right) :
    keptByRule rule left candidate = keptByRule rule right candidate := by
  rw [Bool.eq_iff_iff, keptByRule_iff, keptByRule_iff]
  simp only [KeptBy, same.mem_iff]

end Machines

section Reordered

variable {inputs reordered : Inputs} (same : inputs.Reordered reordered)
include same

theorem passes_reordered (candidate : Candidate) : reordered.passes candidate = inputs.passes candidate := by
  obtain ⟨vm, vmClass, image, providers, existingVms, classes⟩ := inputs
  obtain ⟨_, _, _, otherProviders, otherVms, _⟩ := reordered
  obtain ⟨rfl, rfl, rfl, rfl, existing, _⟩ := same
  have capacity (provider : Provider) (fd : FailureDomain) :
      Inputs.insufficientCapacity ⟨vm, vmClass, image, otherProviders, otherVms, classes⟩ provider fd =
        Inputs.insufficientCapacity ⟨vm, vmClass, image, providers, existingVms, classes⟩ provider fd := by
    simp only [Inputs.insufficientCapacity, usageOn_perm _ _ _ existing]
    rfl
  have rules : (fun rule => keptByRule rule otherVms candidate) = fun rule => keptByRule rule existingVms candidate :=
    funext fun _ => keptByRule_perm existing.symm
  simp only [Inputs.passes, rules, Inputs.eligible, Inputs.accepted, Inputs.rejection, capacity]
  rfl

theorem spreadKey_reordered (candidate : Candidate) : reordered.spreadKey candidate = inputs.spreadKey candidate := by
  have others := othersScheduledOn_perm inputs.vm candidate.1.name candidate.2.name same.existingVms
  simp only [spreadKey_eq, Inputs.groupLoad, Inputs.totalLoad, Inputs.rendezvous, ← same.vm,
    others.countP_eq, others.length_eq]

theorem candidates_reordered : (inputs.candidates.map view).Perm (reordered.candidates.map view) := by
  obtain ⟨middle, shuffled, aligned⟩ := same.providers
  have first : (inputs.candidates.map view).Perm
      ((middle.flatMap fun provider => provider.failureDomains.map fun fd => (provider, fd)).map view) :=
    (shuffled.flatMap_right _).map view
  refine first.trans ?_
  rw [Inputs.candidates]
  generalize reordered.providers = providers at aligned
  clear first shuffled
  induction aligned with
  | nil => exact .refl _
  | @cons left right _ _ pair _ ih =>
    have domains : (left.failureDomains.map fun fd => (bare left, fd)).Perm
        (right.failureDomains.map fun fd => (bare right, fd)) := by
      rw [pair.bare]
      exact pair.domains.map _
    simp only [List.flatMap_cons, List.map_append, List.map_map]
    exact domains.append ih

end Reordered

variable {inputs reordered : Inputs}

/-- Passing candidates with different hashes never tie, so the placement does not
depend on the order of the lists. -/
theorem schedule_reordered (same : inputs.Reordered reordered)
    (distinct : ∀ first ∈ inputs.candidates, ∀ second ∈ inputs.candidates, inputs.Passes first → inputs.Passes second →
        inputs.rendezvous first = inputs.rendezvous second → first = second)
    {decision : Decision} (scheduled : schedule inputs = .ok decision) : schedule reordered = .ok decision := by
  obtain ⟨chosen, least, rfl⟩ := schedule_eq_ok_iff.mp scheduled
  have passing (list : List Candidate) :
      (list.filter inputs.passes).map view = (list.map view).filter inputs.passes := by
    rw [List.filter_map]
    simp only [Function.comp_def, passes_view]
  have sameLeast := minOn?_map_eq_of_perm view inputs.spreadKey inputs.spreadKey
    (inputs.candidates.filter inputs.passes) (reordered.candidates.filter inputs.passes)
    (fun _ => rfl)
    (by
      rw [passing, passing]
      exact (candidates_reordered same).filter _)
    (by
      intro first firstMember second secondMember equal
      obtain ⟨firstMember, firstPasses⟩ := List.mem_filter.mp firstMember
      obtain ⟨secondMember, secondPasses⟩ := List.mem_filter.mp secondMember
      rw [distinct first firstMember second secondMember (passes_iff.mp firstPasses)
        (passes_iff.mp secondPasses) (rendezvous_eq_of_spreadKey_eq equal)])
  rw [minOn?_filter_eq_some_iff.mpr least] at sameLeast
  obtain ⟨other, found, viewed⟩ := Option.map_eq_some_iff.mp sameLeast.symm
  refine schedule_eq_ok_iff.mpr ⟨other, ?_, ?_⟩
  · have tests : reordered.passes = inputs.passes := funext (passes_reordered same)
    have keys : reordered.spreadKey = inputs.spreadKey := funext (spreadKey_reordered same)
    rw [← minOn?_filter_eq_some_iff, tests, keys]
    exact found
  · have build (vmClass : VMClass) (candidate : Candidate) : buildDecision vmClass candidate.1 candidate.2 =
          buildDecision vmClass (view candidate).1 (view candidate).2 := rfl
    rw [build inputs.vmClass chosen, build reordered.vmClass other, viewed, same.vmClass]

theorem exists_ok_iff : (∃ decision, schedule inputs = .ok decision) ↔
      ∃ candidate ∈ inputs.candidates, inputs.Passes candidate := by
  constructor
  · rintro ⟨decision, scheduled⟩
    obtain ⟨chosen, least, _⟩ := schedule_eq_ok_iff.mp scheduled
    exact ⟨chosen, least.mem, passes_iff.mp least.passes⟩
  · rintro ⟨candidate, member, passes⟩
    cases chosen : (inputs.candidates.filter inputs.passes).minOn? inputs.spreadKey with
    | none =>
      have kept := List.mem_filter.mpr ⟨member, passes_iff.mpr passes⟩
      rw [eq_nil_of_minOn?_eq_none chosen] at kept
      contradiction
    | some first => exact ⟨_, schedule_eq_ok_iff.mpr ⟨first, minOn?_filter_eq_some_iff.mp chosen, rfl⟩⟩

theorem exists_passing_reordered (same : inputs.Reordered reordered)
    (passing : ∃ candidate ∈ reordered.candidates, reordered.Passes candidate) :
    ∃ candidate ∈ inputs.candidates, inputs.Passes candidate := by
  obtain ⟨candidate, member, passes⟩ := passing
  obtain ⟨source, sourceMember, viewed⟩ :=
    List.mem_map.mp ((candidates_reordered same).symm.subset (List.mem_map_of_mem member))
  refine ⟨source, sourceMember, passes_iff.mp ?_⟩
  rw [← passes_view, viewed, passes_view, ← passes_reordered same]
  exact passes_iff.mpr passes

/-- The scheduler answers exactly when some candidate passes every filter; its
answer is a passing candidate that is least by group load, total load and
reversed hash; and when the hashes of the passing candidates differ, the order of
the lists does not change it. -/
theorem schedule_correct (inputs : Inputs) :
    ((∃ decision, schedule inputs = .ok decision) ↔
      ∃ candidate ∈ inputs.candidates, inputs.Passes candidate) ∧
    (∀ decision, schedule inputs = .ok decision →
      ∃ chosen ∈ inputs.candidates, inputs.Passes chosen ∧
        decision = buildDecision inputs.vmClass chosen.1 chosen.2 ∧
        ∀ other ∈ inputs.candidates, inputs.Passes other → inputs.NotAfter chosen other) ∧
    ((∀ first ∈ inputs.candidates, ∀ second ∈ inputs.candidates,
        inputs.Passes first → inputs.Passes second →
          inputs.rendezvous first = inputs.rendezvous second → first = second) →
      ∀ reordered, inputs.Reordered reordered →
        ∀ decision, schedule reordered = .ok decision ↔ schedule inputs = .ok decision) := by
  refine ⟨exists_ok_iff, ?_, ?_⟩
  · intro decision scheduled
    obtain ⟨chosen, least, built⟩ := schedule_eq_ok_iff.mp scheduled
    refine ⟨chosen, least.mem, passes_iff.mp least.passes, built, ?_⟩
    intro other member passes
    rw [← spreadKey_le_iff]
    rcases least.precedes other member (passes_iff.mpr passes) with rfl | ahead
    · exact le_rfl
    · exact ahead.le
  · intro distinct reordered same decision
    refine ⟨fun answered => ?_, schedule_reordered same distinct⟩
    obtain ⟨original, scheduled⟩ := exists_ok_iff.mpr
      (exists_passing_reordered same (exists_ok_iff.mp ⟨decision, answered⟩))
    rw [schedule_reordered same distinct scheduled] at answered
    cases answered
    exact scheduled

end Banlieue.Scheduler
