import Mathlib.Algebra.Order.BigOperators.Group.List
import Mathlib.Algebra.GroupWithZero.Nat
import Banlieue.Infra.CloudHypervisor
import Banlieue.Scheduler.FixedPoint

namespace Banlieue.Scheduler

open Banlieue.Data Banlieue.Api Banlieue.Infra

/-! # Published memory over a whole placement history -/

/-- What stays fixed while machines are scheduled one after the other. -/
structure Cluster where
  providers : List Provider
  classes : List VMClass

/-- One pass over the named machine. -/
structure Pass where
  vmName : String
  image : VMImage
  now : Timestamp

namespace Cluster

variable (cluster : Cluster)

def classOf (vm : VirtualMachine) : Option VMClass :=
  (SortedMap.ofList (cluster.classes.map fun vmClass => (vmClass.name, vmClass))).get
    vm.spec.classRef.name

def inputs (vms : List VirtualMachine) (vm : VirtualMachine) (vmClass : VMClass) (image : VMImage) :
    Inputs :=
  { vm, vmClass, image, providers := cluster.providers, existingVms := vms, classes := cluster.classes }

/-- Schedules the machine and records the answer; a failed pass changes nothing. -/
def scheduleAndRecord (vms : List VirtualMachine) (pass : Pass) : List VirtualMachine :=
  match vms.find? fun vm => vm.name == pass.vmName with
  | none => vms
  | some vm =>
    match cluster.classOf vm with
    | none => vms
    | some vmClass =>
      match schedule (cluster.inputs vms vm vmClass pass.image) with
      | .error _ => vms
      | .ok decision => recordPlacement vm.name (decision.toScheduledPlacement pass.now) vms

def history (vms : List VirtualMachine) (passes : List Pass) : List VirtualMachine :=
  passes.foldl cluster.scheduleAndRecord vms

/-- Sum of a figure over the machines recorded on a failure domain. -/
def totalOn (figure : VirtualMachine → Nat) (vms : List VirtualMachine) (provider failureDomain : String) :
    Nat :=
  ((vms.filter (isScheduledOn provider failureDomain)).map figure).sum

/-- The memory the infrastructure builder gives the machine, and the overhead. -/
def builtMemory (overhead : UInt64) (vm : VirtualMachine) : Nat :=
  ((cluster.classOf vm).map fun vmClass => (memoryMiBFor vm vmClass).toNat).getD 0 + overhead.toNat

/-- The memory the scheduler charges for the machine, overhead included. -/
def chargedMemory (overhead : UInt64) (vm : VirtualMachine) : Nat :=
  ((cluster.classOf vm).map fun vmClass =>
    vmClass.spec.hardware.memoryMiB.toNat + overhead.toNat).getD 0

/-- No override raises the machine's memory above its class's. -/
def WithinClass (vm : VirtualMachine) : Prop :=
  ∀ vmClass ∈ cluster.classOf vm, memoryMiBFor vm vmClass ≤ vmClass.spec.hardware.memoryMiB

/-- The published figures can be added up without leaving 64 bits, and failure
domains are told apart by their names. -/
structure WellPublished : Prop where
  distinct : ∀ first ∈ cluster.providers, ∀ second ∈ cluster.providers,
    ∀ left ∈ first.failureDomains, ∀ right ∈ second.failureDomains,
      first.name = second.name → left.name = right.name → left = right
  bounded : ∀ provider ∈ cluster.providers, ∀ fd ∈ provider.failureDomains,
    ∀ capacity ∈ fd.attributes.capacity, ∀ available ∈ capacity.memoryMiB,
      available.toNat + (capacity.memoryOverheadMiBPerVm.getD 0).toNat + 2 ^ 32 ≤ 2 ^ 64

/-- Every published memory figure covers what the figure charges for the machines
recorded there. -/
def Covers (figure : UInt64 → VirtualMachine → Nat) (vms : List VirtualMachine) : Prop :=
  ∀ provider ∈ cluster.providers, ∀ fd ∈ provider.failureDomains,
    ∀ capacity ∈ fd.attributes.capacity, ∀ available ∈ capacity.memoryMiB,
      totalOn (figure (capacity.memoryOverheadMiBPerVm.getD 0)) vms provider.name fd.name ≤
        available.toNat

end Cluster

/-! ## Totals -/

namespace Cluster

variable {cluster : Cluster} {vms : List VirtualMachine} {vm : VirtualMachine}
  {provider failureDomain : String} {figure : VirtualMachine → Nat} {placement : ScheduledPlacement}

def othersTotalOn (figure : VirtualMachine → Nat) (vms : List VirtualMachine) (vm : VirtualMachine)
    (provider failureDomain : String) : Nat :=
  totalOn figure (vms.filter fun other => other.name != vm.name) provider failureDomain

theorem othersTotalOn_le (figure : VirtualMachine → Nat) (vm : VirtualMachine) :
    othersTotalOn figure vms vm provider failureDomain ≤ totalOn figure vms provider failureDomain :=
  (((List.filter_sublist).filter _).map figure).sum_le_sum (by simp)

theorem totalOn_cons (machine : VirtualMachine) (rest : List VirtualMachine) :
    totalOn figure (machine :: rest) provider failureDomain =
      (if isScheduledOn provider failureDomain machine then figure machine else 0) +
        totalOn figure rest provider failureDomain := by
  rw [totalOn, totalOn]
  split
  · rename_i here
    rw [List.filter_cons_of_pos here, List.map_cons, List.sum_cons]
  · rename_i elsewhere
    rw [List.filter_cons_of_neg elsewhere, Nat.zero_add]

theorem recordPlacement_of_absent {name : String} (absent : ∀ other ∈ vms, other.name ≠ name) :
    recordPlacement name placement vms = vms := by
  rw [recordPlacement]
  refine (List.map_congr_left ?_).trans (List.map_id vms)
  intro other member
  exact if_neg (absent other member)

theorem totalOn_recordPlacement (distinct : (vms.map VirtualMachine.name).Nodup) (member : vm ∈ vms) :
    totalOn figure (recordPlacement vm.name placement vms) provider failureDomain =
      (if isScheduledOn provider failureDomain (place vm placement) then figure (place vm placement)
        else 0) + othersTotalOn figure vms vm provider failureDomain := by
  induction vms with
  | nil => contradiction
  | cons head rest ih =>
    obtain ⟨fresh, restDistinct⟩ := List.nodup_cons.mp distinct
    by_cases own : head.name = vm.name
    · have absent : ∀ other ∈ rest, other.name ≠ vm.name := by
        intro other otherMember same
        exact fresh (List.mem_map.mpr ⟨other, otherMember, same.trans own.symm⟩)
      have head_eq : vm = head := by
        rcases List.mem_cons.mp member with same | later
        · exact same
        · exact absurd rfl (absent vm later)
      subst head_eq
      have kept : rest.filter (fun other => other.name != vm.name) = rest :=
        List.filter_eq_self.mpr (by simpa using absent)
      rw [othersTotalOn, List.filter_cons_of_neg (by simp), kept, recordPlacement, List.map_cons,
        if_pos rfl, totalOn_cons]
      exact congrArg _ (congrArg (totalOn figure · provider failureDomain) (recordPlacement_of_absent absent))
    · have later : vm ∈ rest := by
        rcases List.mem_cons.mp member with rfl | later
        · exact absurd rfl own
        · exact later
      have tail := ih restDistinct later
      rw [recordPlacement] at tail ⊢
      rw [List.map_cons, if_neg own, totalOn_cons, tail, othersTotalOn, othersTotalOn,
        List.filter_cons_of_pos (by simpa using own), totalOn_cons]
      omega

theorem usage_memory (cluster : Cluster) (overhead : UInt64) (machines : List VirtualMachine) (used : Usage)
    (fits : used.memoryMiB.toNat + (machines.map (cluster.chargedMemory overhead)).sum < 2 ^ 64) :
    (machines.foldl (Usage.count (SortedMap.ofList (cluster.classes.map fun vmClass =>
        (vmClass.name, vmClass))) overhead) used).memoryMiB.toNat =
      used.memoryMiB.toNat + (machines.map (cluster.chargedMemory overhead)).sum := by
  induction machines generalizing used with
  | nil => simp
  | cons machine rest ih =>
    rw [List.map_cons, List.sum_cons] at fits ⊢
    have counted : (Usage.count (SortedMap.ofList (cluster.classes.map fun vmClass =>
          (vmClass.name, vmClass))) overhead used machine).memoryMiB.toNat =
        used.memoryMiB.toNat + cluster.chargedMemory overhead machine := by
      cases known : cluster.classOf machine with
      | none =>
        rw [classOf] at known
        simp [Usage.count, chargedMemory, classOf, known]
      | some vmClass =>
        have charge : cluster.chargedMemory overhead machine =
            vmClass.spec.hardware.memoryMiB.toNat + overhead.toNat := by
          simp [chargedMemory, known]
        rw [classOf] at known
        rw [charge] at fits ⊢
        simp only [Usage.count, known, UInt64.toNat_add, UInt32.toNat_toUInt64]
        omega
    rw [List.foldl_cons, ih _ (by rw [counted]; omega), counted]
    omega

variable {vmClass : VMClass} {image : VMImage} {decision : Decision} {now : Timestamp}

/-- The capacity filter without the 64-bit arithmetic: the machine fits beside
what the others are charged. -/
theorem charged_fits (image : VMImage) (candidate : Candidate) {capacity : FailureDomainCapacity} {available : UInt64}
    {ratio : UInt32}
    (fits : Fits vmClass ((cluster.inputs vms vm vmClass image).usage candidate capacity) capacity ratio)
    (figure : available ∈ capacity.memoryMiB)
    (room : othersTotalOn (cluster.chargedMemory (capacity.memoryOverheadMiBPerVm.getD 0)) vms vm
      candidate.1.name candidate.2.name ≤ available.toNat)
    (bounded : available.toNat + (capacity.memoryOverheadMiBPerVm.getD 0).toNat + 2 ^ 32 ≤ 2 ^ 64) :
    vmClass.spec.hardware.memoryMiB.toNat + (capacity.memoryOverheadMiBPerVm.getD 0).toNat +
      othersTotalOn (cluster.chargedMemory (capacity.memoryOverheadMiBPerVm.getD 0)) vms vm
        candidate.1.name candidate.2.name ≤ available.toNat := by
  have small := vmClass.spec.hardware.memoryMiB.toNat_lt
  have usage : ((cluster.inputs vms vm vmClass image).usage candidate capacity).memoryMiB.toNat =
      othersTotalOn (cluster.chargedMemory (capacity.memoryOverheadMiBPerVm.getD 0)) vms vm
        candidate.1.name candidate.2.name := by
    refine (usage_memory cluster (capacity.memoryOverheadMiBPerVm.getD 0)
      (othersScheduledOn vm vms candidate.1.name candidate.2.name) {} ?_).trans (Nat.zero_add _)
    change 0 + othersTotalOn _ vms vm candidate.1.name candidate.2.name < 2 ^ 64
    omega
  have needed := UInt64.le_iff_toNat_le.mp (fits.memory available figure)
  simp only [UInt64.toNat_add, UInt32.toNat_toUInt64, usage] at needed
  omega

theorem covers_recordPlacement (published : cluster.WellPublished)
    (distinct : (vms.map VirtualMachine.name).Nodup) (covers : cluster.Covers cluster.chargedMemory vms)
    (member : vm ∈ vms) (known : cluster.classOf vm = some vmClass)
    (scheduled : schedule (cluster.inputs vms vm vmClass image) = .ok decision) : cluster.Covers cluster.chargedMemory
      (recordPlacement vm.name (decision.toScheduledPlacement now) vms) := by
  intro provider listed fd domain capacity declared available figure
  have others := (othersTotalOn_le _ vm).trans (covers provider listed fd domain capacity declared available figure)
  rw [totalOn_recordPlacement distinct member]
  by_cases here : isScheduledOn provider.name fd.name (place vm (decision.toScheduledPlacement now)) = true
  · obtain ⟨chosen, least, rfl⟩ := schedule_eq_ok_iff.mp scheduled
    obtain ⟨chosenProvider, chosenListed, chosenDomain⟩ := List.mem_flatMap.mp least.mem
    obtain ⟨chosenFd, chosenPublished, rfl⟩ := List.mem_map.mp chosenDomain
    have names : chosenProvider.name = provider.name ∧ chosenFd.name = fd.name := by
      simpa [isScheduledOn, Decision.toScheduledPlacement, buildDecision] using here
    obtain rfl : chosenFd = fd :=
      published.distinct chosenProvider chosenListed provider listed chosenFd chosenPublished fd domain names.1 names.2
    rw [if_pos here, ← names.1]
    rw [← names.1] at others
    have charge : cluster.chargedMemory (capacity.memoryOverheadMiBPerVm.getD 0)
        (place vm ((buildDecision vmClass chosenProvider chosenFd).toScheduledPlacement now)) =
        vmClass.spec.hardware.memoryMiB.toNat + (capacity.memoryOverheadMiBPerVm.getD 0).toNat := by
      have same : cluster.classOf (place vm
          ((buildDecision vmClass chosenProvider chosenFd).toScheduledPlacement now)) = some vmClass := known
      simp [chargedMemory, same]
    refine le_of_eq_of_le (congrArg (· + _) charge) ?_
    have fits := (passes_iff.mp least.passes).capacity capacity declared
    have bounded := published.bounded provider listed chosenFd domain capacity declared available figure
    exact charged_fits image (chosenProvider, chosenFd) fits figure others bounded
  · rw [if_neg here, Nat.zero_add]
    exact others

theorem scheduleAndRecord_cases (cluster : Cluster) (vms : List VirtualMachine) (pass : Pass) :
    cluster.scheduleAndRecord vms pass = vms ∨
      ∃ vm ∈ vms, vm.name = pass.vmName ∧ ∃ vmClass, cluster.classOf vm = some vmClass ∧
        ∃ decision, schedule (cluster.inputs vms vm vmClass pass.image) = .ok decision ∧
          cluster.scheduleAndRecord vms pass =
            recordPlacement vm.name (decision.toScheduledPlacement pass.now) vms := by
  rw [scheduleAndRecord]
  cases found : vms.find? fun vm => vm.name == pass.vmName with
  | none => exact .inl rfl
  | some vm =>
    cases known : cluster.classOf vm with
    | none => exact .inl (by simp only [known])
    | some vmClass =>
      cases answered : schedule (cluster.inputs vms vm vmClass pass.image) with
      | error _ => exact .inl (by simp only [known, answered])
      | ok decision =>
        have named : vm.name = pass.vmName := by simpa using List.find?_some found
        exact .inr ⟨vm, List.mem_of_find?_eq_some found, named, vmClass, known, decision, answered,
          by simp only [known, answered]⟩

/-- What every state of a placement history satisfies. -/
structure Sound (cluster : Cluster) (vms : List VirtualMachine) : Prop where
  distinct : (vms.map VirtualMachine.name).Nodup
  covers : cluster.Covers cluster.chargedMemory vms
  recorded : ∀ vm ∈ vms, vm.scheduled.isSome → (cluster.classOf vm).isSome ∧ cluster.WithinClass vm

theorem mem_recordPlacement {name : String} {machine : VirtualMachine}
    (member : machine ∈ recordPlacement name placement vms) :
    ∃ source ∈ vms, machine = source ∨ source.name = name ∧ machine = place source placement := by
  obtain ⟨source, sourceMember, updated⟩ := List.mem_map.mp member
  refine ⟨source, sourceMember, ?_⟩
  split at updated
  · rename_i named
    exact .inr ⟨named, updated.symm⟩
  · exact .inl updated.symm

theorem names_recordPlacement (name : String) (placement : ScheduledPlacement) (vms : List VirtualMachine) :
    (recordPlacement name placement vms).map VirtualMachine.name = vms.map VirtualMachine.name := by
  rw [recordPlacement, List.map_map]
  refine List.map_congr_left ?_
  intro vm _
  simp only [Function.comp_apply]
  split <;> rfl

theorem Sound.step (published : cluster.WellPublished) (sound : cluster.Sound vms) {pass : Pass}
    (within : ∀ vm ∈ vms, vm.name = pass.vmName → cluster.WithinClass vm) :
    cluster.Sound (cluster.scheduleAndRecord vms pass) := by
  rcases scheduleAndRecord_cases cluster vms pass with
    unchanged | ⟨vm, member, named, vmClass, known, decision, scheduled, recorded⟩
  · rw [unchanged]
    exact sound
  · rw [recorded]
    refine ⟨?_, covers_recordPlacement published sound.distinct sound.covers member known scheduled, ?_⟩
    · rw [names_recordPlacement]
      exact sound.distinct
    · intro machine machineMember placed
      obtain ⟨source, sourceMember, same | ⟨sourceNamed, same⟩⟩ := mem_recordPlacement machineMember
      · subst same
        exact sound.recorded machine sourceMember placed
      · -- Names are distinct, so the entry that was replaced is the machine of this pass.
        obtain rfl : source = vm := List.inj_on_of_nodup_map sound.distinct sourceMember member sourceNamed
        subst same
        have sameClass : cluster.classOf (place source (decision.toScheduledPlacement pass.now)) =
            cluster.classOf source := rfl
        refine ⟨?_, within source sourceMember named⟩
        rw [sameClass, known]
        rfl

theorem within_step {passes : List Pass} {pass : Pass}
    (within : ∀ vm ∈ vms, (∃ pass ∈ passes, pass.vmName = vm.name) → cluster.WithinClass vm) :
    ∀ vm ∈ cluster.scheduleAndRecord vms pass, (∃ pass ∈ passes, pass.vmName = vm.name) → cluster.WithinClass vm := by
  intro machine member named
  rcases scheduleAndRecord_cases cluster vms pass with
    unchanged | ⟨vm, _, _, _, _, decision, _, recorded⟩
  · rw [unchanged] at member
    exact within machine member named
  · rw [recorded] at member
    obtain ⟨source, sourceMember, same | ⟨_, same⟩⟩ := mem_recordPlacement member
    · subst same
      exact within machine sourceMember named
    · subst same
      exact within source sourceMember named

theorem Sound.history (published : cluster.WellPublished) (passes : List Pass) :
    ∀ vms : List VirtualMachine, cluster.Sound vms →
      (∀ vm ∈ vms, (∃ pass ∈ passes, pass.vmName = vm.name) → cluster.WithinClass vm) →
        cluster.Sound (cluster.history vms passes) := by
  induction passes with
  | nil => exact fun _ sound _ => sound
  | cons pass rest ih =>
    intro vms sound within
    refine ih _ (sound.step published ?_) (within_step ?_)
    · intro vm member named
      exact within vm member ⟨pass, List.mem_cons_self, named.symm⟩
    · rintro vm member ⟨later, laterMember, named⟩
      exact within vm member ⟨later, List.mem_cons_of_mem _ laterMember, named⟩

theorem Sound.covers_built (sound : cluster.Sound vms) : cluster.Covers cluster.builtMemory vms := by
  intro provider listed fd domain capacity declared available figure
  refine le_trans ?_ (sound.covers provider listed fd domain capacity declared available figure)
  refine List.sum_le_sum ?_
  intro vm member
  obtain ⟨member, here⟩ := List.mem_filter.mp member
  have placed : vm.scheduled.isSome := by
    cases scheduled : vm.scheduled with
    | none => simp [isScheduledOn, scheduled] at here
    | some _ => rfl
  obtain ⟨hasClass, within⟩ := sound.recorded vm member placed
  obtain ⟨vmClass, known⟩ := Option.isSome_iff_exists.mp hasClass
  have bound := UInt32.le_iff_toNat_le.mp (within vmClass known)
  simp only [builtMemory, chargedMemory, known, Option.map_some, Option.getD_some]
  omega

theorem sound_of_unscheduled (distinct : (vms.map VirtualMachine.name).Nodup)
    (unscheduled : ∀ vm ∈ vms, vm.scheduled = none) : cluster.Sound vms := by
  refine ⟨distinct, ?_, ?_⟩
  · intro provider _ fd _ capacity _ available _
    have nobody : vms.filter (isScheduledOn provider.name fd.name) = [] := by
      refine List.filter_eq_nil_iff.mpr ?_
      intro vm member
      simp [isScheduledOn, unscheduled vm member]
    rw [totalOn, nobody]
    exact Nat.zero_le _
  · intro vm member placed
    rw [unscheduled vm member] at placed
    contradiction

end Cluster

def sizedDomain (memoryMiB : UInt64) : FailureDomain :=
  { name := "p-a", attributes := { capacity := some { memoryMiB := some memoryMiB } } }

def sizedCluster (memoryMiB : UInt64) : Cluster :=
  { providers := [libvirtProvider [sizedDomain memoryMiB]], classes := [smallClass] }

def sizedMachine (memoryMiB : Option UInt32) : VirtualMachine :=
  { metadata := { name := "db-0" }
    spec :=
      { classRef := ⟨"small"⟩
        imageRef := ⟨"linux"⟩
        hardwareOverride := some { memoryMiB } } }

def onePass : Pass := { vmName := "db-0", image := readyImage, now := default }

theorem sizedCluster_wellPublished : (sizedCluster 2048).WellPublished := by
  refine ⟨?_, ?_⟩
  · intro first firstMember second secondMember left leftMember right rightMember _ _
    obtain rfl := List.mem_singleton.mp firstMember
    obtain rfl := List.mem_singleton.mp secondMember
    rw [List.mem_singleton.mp leftMember, List.mem_singleton.mp rightMember]
  · intro provider member fd domain capacity declared available figure
    obtain rfl := List.mem_singleton.mp member
    obtain rfl := List.mem_singleton.mp domain
    cases declared
    cases figure
    decide

end Banlieue.Scheduler
