import Banlieue.ProviderLibvirt.Calls

namespace Banlieue.ProviderLibvirt

open Banlieue.Api Banlieue.Data Banlieue.Data.Program Banlieue.Infra Banlieue.Libvirt

/-! # Two machines on one host -/

/-- What a machine has on a host is as it was. -/
structure Untouched (spec : LibvirtMachineSpec) (before after : Host) : Prop where
  domain : after.domains.lookup spec.domainName = before.domains.lookup spec.domainName
  volumes : ∀ name ∈ ownedVolumes spec,
    after.volumes.lookup (spec.pool, name) = before.volumes.lookup (spec.pool, name)

/-- Whatever the host decides, and wherever it is stopped, a pass for the first machine
leaves alone what the second one has. -/
def Spares (first second : LibvirtMachineSpec) : Prop :=
  ∀ (host : Host) (decisions : List Decision),
    (∀ alreadyDetached published, Untouched second host
      ((converge first alreadyDetached published).run.attempt hostBackend decisions host).2) ∧
    Untouched second host ((finalizeBackend first).run.attempt hostBackend decisions host).2

/-- Nothing that one of the machines has is, or is taken for, the other's. -/
structure Separate (first second : LibvirtMachineSpec) : Prop where
  domains : first.domainName ≠ second.domainName
  volumes : ∀ name ∈ ownedVolumes first, name ∉ ownedVolumes second
  spares : Spares first second
  spared : Spares second first

/-! ## Passes keep to their names -/

section

variable {first second : LibvirtMachineSpec} (domains : first.domainName ≠ second.domainName)
  (volumes : ∀ name ∈ ownedVolumes first, name ∉ ownedVolumes second)

include domains volumes

theorem untouched_served {host : Host} {decision : Decision} {call : Call} (own : Own first call) :
    Untouched second host (host.serve decision call).2 := by
  have spares := Host.spares_served host decision call
  constructor
  · refine spares.domains fun same => ?_
    cases call <;> simp only [Call.domainTarget, Option.some.injEq, reduceCtorEq] at same
    case defineDomain document => exact domains (own.symm.trans same)
    case undefineDomain domain => exact domains (own.symm.trans same)
    case ejectInstallMedia domain drive => exact domains (own.symm.trans same)
  · intro name member
    refine spares.volumes fun same => ?_
    cases call <;> simp only [Call.volumeTarget, Option.some.injEq, Prod.mk.injEq, reduceCtorEq] at same
    case createVolume pool document => exact volumes _ own.2 (same.2 ▸ member)
    case uploadVolume volume data => exact volumes _ own.2 (same.2 ▸ member)
    case deleteVolume volume => exact volumes _ own.2 (same.2 ▸ member)

theorem untouched_attempt {α : Type} {pass : Pass α} {post : α → Prop}
    (keeps : Calls (Own first) pass post) (host : Host) (decisions : List Decision) :
    Untouched second host (pass.run.attempt hostBackend decisions host).2 := by
  have secured : Secured (fun _ _ _ => True) (Untouched second host) pass host
      fun value last => post value ∧ Untouched second host last := by
    refine Keeps.secures keeps (fun host call decision => Host.serve_truthful host call decision) ?_
      (fun _ holds => holds) ⟨rfl, fun _ _ => rfl⟩
    intro state call decision own _ holds
    have served : Untouched second state (Host.serve state decision call).2 := untouched_served domains volumes own
    exact ⟨served.domain.trans holds.domain, fun name member =>
      (served.volumes name member).trans (holds.volumes name member)⟩
  exact (secured.mono fun _ _ reached => reached.2).safe_attempt (within_always (fun _ _ _ => trivial) _ _ _)

theorem spares_of_names : Spares first second := by
  intro host decisions
  refine ⟨fun alreadyDetached published => ?_, ?_⟩
  · exact untouched_attempt domains volumes (keeps_converge alreadyDetached published) host decisions
  · exact untouched_attempt domains volumes keeps_finalizeBackend host decisions

end

/-! ## When the names differ -/

theorem volumeName_eq_iff {domain disk domain' disk' : String} : volumeName domain disk = volumeName domain' disk' ↔
      (domain = domain' ∧ disk = disk') ∨ Shifted domain disk domain' disk' ∨ Shifted domain' disk' domain disk := by
  rw [volumeName, volumeName, String.append_left_inj, hyphenated_eq_iff]

theorem seedVolumeName_eq_iff {domain domain' : String} :
    seedVolumeName domain = seedVolumeName domain' ↔ domain = domain' :=
  String.append_left_inj _

theorem volumeName_ne_seedVolumeName (domain disk domain' : String) :
    volumeName domain disk ≠ seedVolumeName domain' := by
  intro same
  have last := congrArg (fun text => text.toList.reverse.head?) same
  simp [volumeName, seedVolumeName] at last

theorem volumes_disjoint_iff {first second : LibvirtMachineSpec} (domains : first.domainName ≠ second.domainName) :
    (∀ name ∈ ownedVolumes first, name ∉ ownedVolumes second) ↔ ∀ disk ∈ first.disks, ∀ disk' ∈ second.disks,
        ¬ Shifted first.domainName disk.name second.domainName disk'.name ∧
          ¬ Shifted second.domainName disk'.name first.domainName disk.name := by
  constructor
  · intro disjoint disk member disk' member'
    have owned : volumeName first.domainName disk.name ∈ ownedVolumes first :=
      List.mem_append_left _ (List.mem_map_of_mem member)
    have owned' : volumeName second.domainName disk'.name ∈ ownedVolumes second :=
      List.mem_append_left _ (List.mem_map_of_mem member')
    have different : volumeName first.domainName disk.name ≠ volumeName second.domainName disk'.name :=
      fun same => disjoint _ owned (same ▸ owned')
    rw [Ne, volumeName_eq_iff] at different
    exact ⟨fun moved => different (.inr (.inl moved)), fun moved => different (.inr (.inr moved))⟩
  · intro apart name owned owned'
    simp only [ownedVolumes, List.mem_append, List.mem_map, List.mem_singleton] at owned owned'
    rcases owned with ⟨disk, member, rfl⟩ | rfl <;> rcases owned' with ⟨disk', member', same⟩ | same
    · rcases volumeName_eq_iff.mp same with ⟨equal, -⟩ | moved | moved
      · exact domains equal.symm
      · exact (apart disk member disk' member').2 moved
      · exact (apart disk member disk' member').1 moved
    · exact volumeName_ne_seedVolumeName _ _ _ same
    · exact volumeName_ne_seedVolumeName _ _ _ same
    · exact domains (seedVolumeName_eq_iff.mp same)

/-- For machines made from two virtual machines of one pool. -/
theorem separate_iff_unshifted (vm vm' : VirtualMachine) (space space' : String)
    (first second : LibvirtMachineSpec) (named : first.domainName = domainNameFor vm)
    (named' : second.domainName = domainNameFor vm') (within : vm.metadata.namespaceName = some space)
    (within' : vm'.metadata.namespaceName = some space')
    (distinct : (space, vm.name) ≠ (space', vm'.name)) :
    Separate first second ↔
      (¬ Shifted space vm.name space' vm'.name ∧ ¬ Shifted space' vm'.name space vm.name) ∧
      ∀ disk ∈ first.disks, ∀ disk' ∈ second.disks,
        ¬ Shifted (space ++ "-" ++ vm.name) disk.name (space' ++ "-" ++ vm'.name) disk'.name ∧
          ¬ Shifted (space' ++ "-" ++ vm'.name) disk'.name (space ++ "-" ++ vm.name) disk.name := by
  have domain : first.domainName = space ++ "-" ++ vm.name := by rw [named, domainNameFor, within]
  have domain' : second.domainName = space' ++ "-" ++ vm'.name := by rw [named', domainNameFor, within']
  have domains : first.domainName ≠ second.domainName ↔
      ¬ Shifted space vm.name space' vm'.name ∧ ¬ Shifted space' vm'.name space vm.name := by
    rw [domain, domain', Ne, hyphenated_eq_iff, not_or, not_or]
    exact and_iff_right fun same => distinct (Prod.ext same.1 same.2)
  rw [← domains, ← domain, ← domain']
  constructor
  · intro separate
    exact ⟨separate.domains, (volumes_disjoint_iff separate.domains).mp separate.volumes⟩
  · rintro ⟨different, unshifted⟩
    have disjoint := (volumes_disjoint_iff different).mpr unshifted
    exact ⟨different, disjoint, spares_of_names different disjoint,
      spares_of_names different.symm fun name owned owned' => disjoint name owned' owned⟩

/-! The names of a virtual machine and its disk, as a libvirt machine has them. -/

def machineOf (space name disk : String) : VirtualMachine × LibvirtMachineSpec :=
  let vm : VirtualMachine :=
    { metadata := { name := name, namespaceName := some space }
      spec := { classRef := ⟨"small"⟩, imageRef := ⟨"alpine"⟩ } }
  (vm,
    { providerId := none
      failureDomain := none
      providerRef := ⟨"kvm-1"⟩
      pool := "default"
      domainName := domainNameFor vm
      bootSource := { kind := .backingVolume, volume := "alpine.raw" }
      vcpus := 1
      memoryMiB := 512
      firmware := .bios
      machineType := none
      tpmEnabled := false
      disks := [{ name := disk, sizeGiB := 1, bus := .virtio }]
      network := []
      userData := none
      desiredPowerState := .poweredOn
      firstBootSealing := none })

theorem not_shifted_of_head {first second first' second' : String}
    (different : first.toList.head? ≠ (first' ++ "-").toList.head?) : ¬ Shifted first second first' second' := by
  rintro ⟨part, rfl, -⟩
  apply different
  rw [String.append_assoc, String.toList_append, String.toList_append, String.toList_append]
  cases first'.toList <;> simp

theorem separate_in_own_namespaces :
    Separate (machineOf "dev" "web" "os").2 (machineOf "prod" "web" "os").2 := by
  refine (separate_iff_unshifted (machineOf "dev" "web" "os").1 (machineOf "prod" "web" "os").1 "dev" "prod"
    _ _ rfl rfl rfl rfl (by decide)).mpr ⟨⟨?_, ?_⟩, ?_⟩
  · exact not_shifted_of_head (by decide)
  · exact not_shifted_of_head (by decide)
  · intro disk _ disk' _
    exact ⟨not_shifted_of_head (by decide), not_shifted_of_head (by decide)⟩

/-- A hyphen can end a namespace or start a name, and end a name or start a disk's. -/
theorem hyphens_share_names :
    ¬ Separate (machineOf "a-b" "c" "os").2 (machineOf "a" "b-c" "os").2 ∧
      ¬ Separate (machineOf "a" "db" "01-os").2 (machineOf "a" "db-01" "os").2 := by
  refine ⟨fun separate => separate.domains (by decide), fun separate => ?_⟩
  exact separate.volumes "a-db-01-os.qcow2" (by decide) (by decide)

end Banlieue.ProviderLibvirt
