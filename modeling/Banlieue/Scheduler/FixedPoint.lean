import Banlieue.Scheduler.AntiAffinity

namespace Banlieue.Scheduler

open Banlieue.Data Banlieue.Api

/-! # Scheduling a recorded machine again -/

def place (vm : VirtualMachine) (placement : ScheduledPlacement) : VirtualMachine :=
  { vm with status := some { vm.status.getD {} with scheduled := some placement } }

@[simp] theorem place_name (vm : VirtualMachine) (placement : ScheduledPlacement) :
    (place vm placement).name = vm.name := rfl

@[simp] theorem place_scheduled (vm : VirtualMachine) (placement : ScheduledPlacement) :
    (place vm placement).scheduled = some placement := rfl

def recordPlacement (name : String) (placement : ScheduledPlacement) (vms : List VirtualMachine) :
    List VirtualMachine :=
  vms.map fun vm => if vm.name = name then place vm placement else vm

/-- The next pass over the same cluster, after the decision has been recorded in
the machine's own status. -/
def Inputs.recorded (inputs : Inputs) (decision : Decision) (now : Timestamp) : Inputs :=
  { inputs with
    vm := place inputs.vm (decision.toScheduledPlacement now)
    existingVms := recordPlacement inputs.vm.name (decision.toScheduledPlacement now) inputs.existingVms }

def Inputs.others (inputs : Inputs) : List VirtualMachine :=
  inputs.existingVms.filter fun other => other.name != inputs.vm.name

section Recorded

variable {inputs : Inputs} {decision : Decision} {now : Timestamp} {candidate : Candidate}

theorem others_recorded (inputs : Inputs) (decision : Decision) (now : Timestamp) :
    (inputs.recorded decision now).others = inputs.others := by
  obtain ⟨vm, vmClass, image, providers, existingVms, classes⟩ := inputs
  simp only [Inputs.others, Inputs.recorded, recordPlacement, place_name]
  induction existingVms with
  | nil => rfl
  | cons machine rest ih =>
    by_cases own : machine.name = vm.name
    · simp [own, ih]
    · simp [own, ih]

theorem othersScheduledOn_recorded (provider failureDomain : String) :
    othersScheduledOn (inputs.recorded decision now).vm (inputs.recorded decision now).existingVms
        provider failureDomain = othersScheduledOn inputs.vm inputs.existingVms provider failureDomain :=
  congrArg (List.filter (isScheduledOn provider failureDomain)) (others_recorded inputs decision now)

theorem usage_recorded (inputs : Inputs) (decision : Decision) (now : Timestamp)
    (candidate : Candidate) (capacity : FailureDomainCapacity) :
    (inputs.recorded decision now).usage candidate capacity = inputs.usage candidate capacity := by
  rw [Inputs.usage, Inputs.usage, usageOn, usageOn, othersScheduledOn_recorded]
  rfl

theorem eligible_recorded_iff : (inputs.recorded decision now).Eligible candidate ↔ inputs.Eligible candidate := by
  constructor
  · intro eligible
    refine { eligible with capacity := ?_ }
    intro capacity published
    rw [← usage_recorded inputs decision now]
    exact eligible.capacity capacity published
  · intro eligible
    refine { eligible with capacity := ?_ }
    intro capacity published
    rw [usage_recorded]
    exact eligible.capacity capacity published

theorem spreadKey_recorded : (inputs.recorded decision now).spreadKey = inputs.spreadKey := by
  funext candidate
  rw [Inputs.spreadKey, placementLoad, othersScheduledOn_recorded]
  rfl

end Recorded

/-! ## What the machine's own record blocks -/

/-- A record of the machine on `failureDomain` blocks the candidate through a
required rule that selects the machine itself. -/
def Inputs.SelfBlocks (inputs : Inputs) (failureDomain : String) (candidate : Candidate) : Prop :=
  ∃ rule ∈ inputs.vm.spec.placement.antiAffinity, rule.mode = .required ∧
    (∃ own ∈ inputs.existingVms, own.name = inputs.vm.name ∧
      Selected (some rule.labelSelector) own.labels) ∧
    candidate.2.labels.get rule.topologyKey = some failureDomain

/-- The machine's present record blocks the candidate. -/
def Inputs.OldRecordBlocks (inputs : Inputs) (candidate : Candidate) : Prop :=
  ∃ rule ∈ inputs.vm.spec.placement.antiAffinity, rule.mode = .required ∧
    ∃ own ∈ inputs.existingVms, own.name = inputs.vm.name ∧
      Selected (some rule.labelSelector) own.labels ∧
      ∃ placement ∈ own.scheduled,
        candidate.2.labels.get rule.topologyKey = some placement.failureDomain

/-- Every filter passes when only the other machines' records count. -/
structure Inputs.PassesOthers (inputs : Inputs) (candidate : Candidate) : Prop extends
    inputs.Eligible candidate where
  antiAffinity : ∀ rule ∈ inputs.vm.spec.placement.antiAffinity, rule.mode = .required →
    KeptBy rule inputs.others candidate

section Own

variable {inputs : Inputs} {decision : Decision} {now : Timestamp} {candidate : Candidate}

theorem mem_others {other : VirtualMachine} :
    other ∈ inputs.others ↔ other ∈ inputs.existingVms ∧ other.name ≠ inputs.vm.name := by
  simp [Inputs.others]

theorem passes_iff_others :
    inputs.Passes candidate ↔ inputs.PassesOthers candidate ∧ ¬ inputs.OldRecordBlocks candidate := by
  constructor
  · intro passes
    refine ⟨{ passes.toEligible with antiAffinity := ?_ }, ?_⟩
    · intro rule listed required other member
      exact passes.antiAffinity rule listed required other (mem_others.mp member).1
    · rintro ⟨rule, listed, required, own, member, _, selected, placement, recorded, carried⟩
      exact passes.antiAffinity rule listed required own member selected placement recorded carried
  · rintro ⟨passes, unblocked⟩
    refine { passes.toEligible with antiAffinity := ?_ }
    intro rule listed required other member selected placement recorded carried
    by_cases own : other.name = inputs.vm.name
    · exact unblocked ⟨rule, listed, required, other, member, own, selected, placement, recorded, carried⟩
    · exact passes.antiAffinity rule listed required other (mem_others.mpr ⟨member, own⟩) selected
        placement recorded carried

theorem oldRecordBlocks_recorded : (inputs.recorded decision now).OldRecordBlocks candidate ↔
      inputs.SelfBlocks decision.failureDomainName candidate := by
  constructor
  · rintro ⟨rule, listed, required, own, member, named, selected, placement, recorded, carried⟩
    obtain ⟨source, sourceMember, updated⟩ := List.mem_map.mp member
    split at updated
    · rename_i sourceNamed
      subst updated
      rw [place_scheduled] at recorded
      cases recorded
      exact ⟨rule, listed, required, ⟨source, sourceMember, sourceNamed, selected⟩, carried⟩
    · rename_i otherNamed
      subst updated
      exact absurd named otherNamed
  · rintro ⟨rule, listed, required, ⟨own, member, named, selected⟩, carried⟩
    refine ⟨rule, listed, required, place own (decision.toScheduledPlacement now), ?_, named, selected,
      decision.toScheduledPlacement now, place_scheduled _ _, carried⟩
    exact List.mem_map.mpr ⟨own, member, if_pos named⟩

theorem passesOthers_recorded :
    (inputs.recorded decision now).PassesOthers candidate ↔ inputs.PassesOthers candidate := by
  constructor
  · intro passes
    refine { eligible_recorded_iff.mp passes.toEligible with antiAffinity := ?_ }
    intro rule listed required
    rw [← others_recorded inputs decision now]
    exact passes.antiAffinity rule listed required
  · intro passes
    refine { eligible_recorded_iff.mpr passes.toEligible with antiAffinity := ?_ }
    intro rule listed required
    rw [others_recorded]
    exact passes.antiAffinity rule listed required

theorem passes_recorded_iff : (inputs.recorded decision now).Passes candidate ↔
      inputs.PassesOthers candidate ∧ ¬ inputs.SelfBlocks decision.failureDomainName candidate := by
  rw [passes_iff_others, passesOthers_recorded, oldRecordBlocks_recorded]

end Own

/-! ## Fixed points -/

/-- Recording the decision and scheduling again answers with the same provider
and failure domain. -/
def Inputs.Settles (inputs : Inputs) : Prop :=
  ∀ decision, schedule inputs = .ok decision → ∀ now,
    ∃ again, schedule (inputs.recorded decision now) = .ok again ∧
      again.providerName = decision.providerName ∧
      again.failureDomainName = decision.failureDomainName

/-- The first passing candidate is not blocked by a record of the machine on it,
and it stays ahead of what only the machine's present record blocks. -/
def Inputs.OwnRecordNeutral (inputs : Inputs) : Prop :=
  ∀ chosen, IsFirstLeast inputs.spreadKey inputs.candidates inputs.passes chosen →
    ¬ inputs.SelfBlocks chosen.2.name chosen ∧
    ∀ other ∈ inputs.candidates, inputs.PassesOthers other → inputs.OldRecordBlocks other →
      ¬ inputs.SelfBlocks chosen.2.name other → Precedes inputs.spreadKey inputs.candidates chosen other

section Fixed

variable {inputs : Inputs} {decision : Decision} {now : Timestamp} {candidate chosen : Candidate}

theorem schedule_recorded_iff {again : Decision} : schedule (inputs.recorded decision now) = .ok again ↔
      ∃ candidate, (candidate ∈ inputs.candidates ∧ inputs.PassesOthers candidate ∧
          ¬ inputs.SelfBlocks decision.failureDomainName candidate ∧
          ∀ other ∈ inputs.candidates, inputs.PassesOthers other →
            ¬ inputs.SelfBlocks decision.failureDomainName other →
              other = candidate ∨ Precedes inputs.spreadKey inputs.candidates candidate other) ∧
        again = buildDecision inputs.vmClass candidate.1 candidate.2 := by
  rw [schedule_eq_ok_iff, spreadKey_recorded]
  refine exists_congr fun candidate => and_congr_left fun _ => ?_
  constructor
  · intro least
    obtain ⟨passes, unblocked⟩ := passes_recorded_iff.mp (passes_iff.mp least.passes)
    exact ⟨least.mem, passes, unblocked, fun other member others free =>
      least.precedes other member (passes_iff.mpr (passes_recorded_iff.mpr ⟨others, free⟩))⟩
  · rintro ⟨member, passes, unblocked, ahead⟩
    refine ⟨member, passes_iff.mpr (passes_recorded_iff.mpr ⟨passes, unblocked⟩), ?_⟩
    intro other otherMember otherPasses
    obtain ⟨others, free⟩ := passes_recorded_iff.mp (passes_iff.mp otherPasses)
    exact ahead other otherMember others free

theorem settles_of_ownRecordNeutral (neutral : inputs.OwnRecordNeutral) : inputs.Settles := by
  intro decision scheduled now
  obtain ⟨chosen, least, rfl⟩ := schedule_eq_ok_iff.mp scheduled
  obtain ⟨unblocked, ahead⟩ := neutral chosen least
  obtain ⟨passes, _⟩ := passes_iff_others.mp (passes_iff.mp least.passes)
  refine ⟨_, schedule_recorded_iff.mpr ⟨chosen, ⟨least.mem, passes, unblocked, ?_⟩, rfl⟩, rfl, rfl⟩
  intro other member others free
  by_cases blocked : inputs.OldRecordBlocks other
  · exact .inr (ahead other member others blocked free)
  · exact least.precedes other member (passes_iff.mpr (passes_iff_others.mpr ⟨others, blocked⟩))

theorem ownRecordNeutral_of_settles (distinct : ∀ first ∈ inputs.candidates, ∀ second ∈ inputs.candidates,
      first.1.name = second.1.name → first.2.name = second.2.name → first = second)
    (settles : inputs.Settles) : inputs.OwnRecordNeutral := by
  intro chosen least
  have scheduled := schedule_eq_ok_iff.mpr ⟨chosen, least, rfl⟩
  obtain ⟨again, answered, provider, domain⟩ := settles _ scheduled default
  obtain ⟨second, ⟨member, passes, unblocked, ahead⟩, rfl⟩ := schedule_recorded_iff.mp answered
  have same : second = chosen := distinct second member chosen least.mem provider domain
  subst same
  refine ⟨unblocked, ?_⟩
  intro other otherMember others blocked free
  rcases ahead other otherMember others free with rfl | precedes
  · exact absurd blocked (passes_iff_others.mp (passes_iff.mp least.passes)).2
  · exact precedes

end Fixed

/-- Placement is a fixed point exactly when the machine's own record is neutral;
the converse needs failure domains to be told apart by their names. -/
theorem schedule_settles_iff (inputs : Inputs) :
    (inputs.OwnRecordNeutral → inputs.Settles) ∧
    ((∀ first ∈ inputs.candidates, ∀ second ∈ inputs.candidates,
        first.1.name = second.1.name → first.2.name = second.2.name → first = second) →
      inputs.Settles → inputs.OwnRecordNeutral) :=
  ⟨settles_of_ownRecordNeutral, ownRecordNeutral_of_settles⟩

/-! ## A replica that flees from itself -/

def twoDomains : Provider := libvirtProvider [labelledDomain "p-a" "r1", labelledDomain "p-b" "r2"]

/-- One replica that keeps its group apart by the `name` label, on two domains. -/
def selfApartInputs : Inputs :=
  { vm := dbReplica "db-0" [apartFromDb "name"] none
    vmClass := smallClass
    image := readyImage
    providers := [twoDomains]
    existingVms := [dbReplica "db-0" [apartFromDb "name"] none]
    classes := [smallClass] }

/-- The first pass chooses `p-b`; the record blocks it, and the second pass moves
the machine to `p-a`. -/
theorem selfApartInputs_unsettled : ¬ selfApartInputs.Settles := by
  intro settles
  have first : schedule selfApartInputs =
      .ok (buildDecision smallClass twoDomains (labelledDomain "p-b" "r2")) := rfl
  obtain ⟨again, answered, _, domain⟩ := settles _ first default
  have second : schedule (selfApartInputs.recorded
        (buildDecision smallClass twoDomains (labelledDomain "p-b" "r2")) default) =
      .ok (buildDecision smallClass twoDomains (labelledDomain "p-a" "r1")) := rfl
  rw [second] at answered
  cases answered
  exact absurd domain (by decide)

end Banlieue.Scheduler
