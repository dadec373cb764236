import Banlieue.Scheduler.Order

namespace Banlieue.Scheduler

open Banlieue.Data Banlieue.Api

/-! # Required anti-affinity

A rule names a label of the failure domains.  The code compares that label of a
candidate with the recorded failure-domain names of the machines the rule selects.
-/

section Topology

/-- `host` is the published failure domain a machine is recorded on. -/
def Hosts (providers : List Provider) (machine : VirtualMachine) (host : FailureDomain) : Prop :=
  ∃ placement ∈ machine.scheduled, ∃ provider ∈ providers,
    provider.name = placement.providerName ∧ host ∈ provider.failureDomains ∧
      host.name = placement.failureDomain

/-- The labels have, for some required rule, the same value of its topology key
as a failure domain that hosts another machine the rule selects. -/
def Inputs.SharesTopology (inputs : Inputs) (labels : Labels) : Prop :=
  ∃ rule ∈ inputs.vm.spec.placement.antiAffinity, rule.mode = .required ∧
    ∃ other ∈ inputs.existingVms, other.name ≠ inputs.vm.name ∧
      Selected (some rule.labelSelector) other.labels ∧
      ∃ host, Hosts inputs.providers other host ∧
        ∃ value, labels.get rule.topologyKey = some value ∧ host.labels.get rule.topologyKey = some value

/-- Every eligible candidate that shares a topology value is either dropped,
because its value is a recorded failure-domain name, or follows a passing
candidate that shares none. -/
def Inputs.NamesGuardTopology (inputs : Inputs) : Prop :=
  ∀ candidate ∈ inputs.candidates, inputs.Eligible candidate →
    inputs.SharesTopology candidate.2.labels →
      (∃ rule ∈ inputs.vm.spec.placement.antiAffinity, rule.mode = .required ∧
        ¬ KeptBy rule inputs.existingVms candidate) ∨
      ∃ better ∈ inputs.candidates, inputs.Passes better ∧ ¬ inputs.SharesTopology better.2.labels ∧
        Precedes inputs.spreadKey inputs.candidates better candidate

/-- The chosen failure domain shares no topology value exactly when recorded
names and spread order keep every sharing candidate out of the first place. -/
theorem schedule_avoids_topology_iff (inputs : Inputs) :
    (∀ decision, schedule inputs = .ok decision →
      ¬ inputs.SharesTopology decision.failureDomainLabels) ↔ inputs.NamesGuardTopology := by
  constructor
  · intro avoids candidate member eligible shares
    by_cases dropped : ∃ rule ∈ inputs.vm.spec.placement.antiAffinity, rule.mode = .required ∧
        ¬ KeptBy rule inputs.existingVms candidate
    · exact .inl dropped
    · have passes : inputs.Passes candidate :=
        { eligible with
          antiAffinity := fun rule listed required =>
            Classical.byContradiction fun blocked => dropped ⟨rule, listed, required, blocked⟩ }
      obtain ⟨decision, scheduled⟩ := exists_ok_iff.mpr ⟨candidate, member, passes⟩
      obtain ⟨chosen, least, rfl⟩ := schedule_eq_ok_iff.mp scheduled
      have free := avoids _ scheduled
      refine .inr ⟨chosen, least.mem, passes_iff.mp least.passes, free, ?_⟩
      rcases least.precedes candidate member (passes_iff.mpr passes) with rfl | ahead
      · exact absurd shares free
      · exact ahead
  · intro guarded decision scheduled shares
    obtain ⟨chosen, least, rfl⟩ := schedule_eq_ok_iff.mp scheduled
    have passes := passes_iff.mp least.passes
    rcases guarded chosen least.mem passes.toEligible shares with
      ⟨rule, listed, required, blocked⟩ | ⟨better, member, betterPasses, free, ahead⟩
    · exact blocked (passes.antiAffinity rule listed required)
    · rcases least.precedes better member (passes_iff.mpr betterPasses) with rfl | behind
      · exact free shares
      · exact ahead.asymm behind

end Topology

/-! ## A rack rule that keeps nothing apart -/

def labelledDomain (name rack : String) : FailureDomain :=
  { name, labels := SortedMap.ofList [("name", name), ("rack", rack)] }

def libvirtProvider (failureDomains : List FailureDomain) : Provider :=
  { metadata := { name := "p" }
    spec := { providerClassRef := ⟨"libvirt"⟩ }
    status := some { failureDomains } }

def apartFromDb (topologyKey : String) : AntiAffinityRule :=
  { topologyKey, labelSelector := { matchLabels := SortedMap.ofList [("app", "db")] } }

def dbReplica (name : String) (antiAffinity : List AntiAffinityRule) (placed : Option String) :
    VirtualMachine :=
  { metadata := { name, labels := SortedMap.ofList [("app", "db")] }
    spec := { classRef := ⟨"small"⟩, imageRef := ⟨"linux"⟩, placement := { antiAffinity } }
    status := placed.map fun failureDomain =>
      { scheduled := some { providerName := "p", providerClass := "libvirt", failureDomain } } }

def smallClass : VMClass :=
  { metadata := { name := "small" }, spec := { hardware := { cpus := 1, memoryMiB := 1024 } } }

def readyImage : VMImage :=
  { metadata := { name := "linux" }
    status := some { perProvider := [{ providerName := "p", ready := true }] } }

/-- `db-0` runs in rack `r1`, and `db-1` must keep away from it by rack. -/
def rackInputs : Inputs :=
  { vm := dbReplica "db-1" [apartFromDb "rack"] none
    vmClass := smallClass
    image := readyImage
    providers := [libvirtProvider [labelledDomain "p-a" "r1"]]
    existingVms := [dbReplica "db-0" [] (some "p-a"), dbReplica "db-1" [apartFromDb "rack"] none]
    classes := [smallClass] }

/-- The second replica lands in the rack, and here on the very domain, of the
first. -/
theorem rackInputs_share_topology :
    ∃ decision, schedule rackInputs = .ok decision ∧
      rackInputs.SharesTopology decision.failureDomainLabels := by
  refine ⟨buildDecision smallClass (libvirtProvider [labelledDomain "p-a" "r1"])
    (labelledDomain "p-a" "r1"), rfl, apartFromDb "rack", List.mem_singleton.mpr rfl, rfl,
    dbReplica "db-0" [] (some "p-a"), List.mem_cons_self, by decide, selectorMatches_iff.mp (by decide),
    labelledDomain "p-a" "r1", ?_, "r1", rfl, rfl⟩
  exact ⟨_, rfl, libvirtProvider [labelledDomain "p-a" "r1"], List.mem_singleton.mpr rfl, rfl,
    List.mem_singleton.mpr rfl, rfl⟩

end Banlieue.Scheduler
