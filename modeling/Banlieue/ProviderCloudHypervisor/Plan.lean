import Mathlib.Data.List.AList
import Banlieue.Cloudinit.Network
import Banlieue.Data.Bytes
import Banlieue.Infra.CloudHypervisor
import Banlieue.Sdk.Status

namespace Banlieue.ProviderCloudHypervisor

open Banlieue.Api Banlieue.Cloudinit Banlieue.Data Banlieue.Infra Banlieue.Sdk

/-! # Names, paths and settings of a machine on its host -/

/-- An absolute path, by its components. -/
structure Path where
  components : List String
deriving DecidableEq, Inhabited

namespace Path

def join (path : Path) (name : String) : Path := ⟨path.components ++ [name]⟩

def parent (path : Path) : Path := ⟨path.components.dropLast⟩

/-- The path with a suffix on its last component. -/
def withSuffix (path : Path) (suffix : String) : Path :=
  path.parent.join (path.components.getLastD "" ++ suffix)

def display (path : Path) : String := "/" ++ "/".intercalate path.components

@[simp] theorem join_inj {path other : Path} {name name' : String} :
    path.join name = other.join name' ↔ path = other ∧ name = name' := by
  cases path
  cases other
  simp [join]

end Path

/-! ## The host's configuration -/

structure ProviderSection where
  name : String
  namespaceName : String
deriving DecidableEq

structure PathsSection where
  runRoot : Path
  stateRoot : Path
deriving DecidableEq

/-- The uids guests may run as; a configuration with another range is refused. -/
structure GuestsSection where
  uidBase : Nat
  uidCount : Nat
  nonempty : 0 < uidCount := by decide
  notRoot : 0 < uidBase := by decide
  bounded : uidBase + (uidCount - 1) < 2 ^ 32 := by decide

def GuestsSection.contains (guests : GuestsSection) (uid : Nat) : Bool :=
  decide (guests.uidBase ≤ uid) && decide (uid - guests.uidBase < guests.uidCount)

variable {guests : GuestsSection} {uid hostUid : Nat} {machineName providerName : String}
  {spec : CloudHypervisorMachineSpec} {config : HostConfig}

theorem GuestsSection.contains_iff :
    guests.contains uid = true ↔ guests.uidBase ≤ uid ∧ uid < guests.uidBase + guests.uidCount := by
  simp only [contains, Bool.and_eq_true, decide_eq_true_eq]
  omega

structure HostConfig where
  provider : ProviderSection
  firmware : Path
  paths : PathsSection
  guests : GuestsSection
  /-- Whether the host offers a vTPM. -/
  tpm : Bool
  storageClasses : SortedMap String Path
  networkClasses : SortedMap String String

def HostConfig.storagePath (config : HostConfig) (storageClass : String) : Option Path :=
  config.storageClasses.get storageClass

def HostConfig.bridge (config : HostConfig) (networkClass : String) : Option String :=
  config.networkClasses.get networkClass

/-! ## The plan -/

inductive PlanError where
  | invalidUid (uid : String)
  | invalidImage (image : String)
  | unknownStorageClass (name : String)
  | unknownNetworkClass (name : String)
  | hostUidOutOfRange (uid : Nat)
  | invalidMac (mac : String)
  | unsupported (what : String)
deriving DecidableEq

def PlanError.text : PlanError → String
  | .invalidUid uid => s!"machine UID {debugText uid.toList} is not a canonical UUID"
  | .invalidImage image => s!"image name {debugText image.toList} is not a plain file name"
  | .unknownStorageClass name => s!"storage class {debugText name.toList} is not declared on this host"
  | .unknownNetworkClass name => s!"network class {debugText name.toList} is not declared on this host"
  | .hostUidOutOfRange uid => s!"host uid {uid} is outside the guest uid range"
  | .invalidMac mac => s!"MAC address {debugText mac.toList} is not six hex octets"
  | .unsupported what => s!"not supported yet: {what}"

structure NicPlan where
  name : String
  tap : String
  bridge : String
  mac : String
deriving DecidableEq

structure TpmPlan where
  stateDir : Path
  ekDir : Path
  socket : Path
  unit : String
  setupUnit : String
  setupEnv : Path
  vmid : String
deriving DecidableEq

structure PlannedDisk where
  id : String
  path : Path
  readonly : Bool
deriving DecidableEq

structure PlannedNic where
  id : String
  tap : String
  mac : String
deriving DecidableEq

structure GuestPlan where
  firmware : Path
  bootVcpus : UInt32
  maxVcpus : UInt32
  memoryMiB : Nat
  hugepages : Bool
  disks : List PlannedDisk
  nics : List PlannedNic
  tpmSocket : Option Path
  vsockSocket : Option Path
  serialFile : Path
  landlock : Bool
deriving DecidableEq

structure MachinePlan where
  uid : String
  hostUid : Nat
  unit : String
  machineDir : Path
  runDir : Path
  apiSocket : Path
  image : Path
  installMedia : Path
  osDisk : Path
  osDiskBytes : Nat
  seed : Path
  serialLog : Path
  nics : List NicPlan
  providerId : String
  guest : GuestPlan
  tpm : Option TpmPlan
  emptyOsDisk : Bool
  firstBootSealing : Option FirstBootSealing
  reportSocket : Path
  networkConfig : Option String
  declaredAddresses : List MachineAddress
deriving DecidableEq

def bytesPerGib : Nat := 1024 * 1024 * 1024

def bytesPerMib : Nat := 1024 * 1024

def vmmMemoryOverheadBytes : Nat := 512 * bytesPerMib

def saturate (value : Nat) : Nat := min value (2 ^ 64 - 1)

def imagesDir : String := "images"

def vmmTemplate : String := "banlieue-ch"

def swtpmTemplate : String := "banlieue-swtpm"

def swtpmSetupTemplate : String := "banlieue-swtpm-setup"

def tpmStateRoot : String := "tpm"

def tpmEkRoot : String := "ek"

def unitsEnvDir : String := "units"

def swtpmSetupEnvFile (instanceName : String) : String := "swtpm-setup-" ++ instanceName ++ ".env"

def swtpmSocket : String := "swtpm.sock"

def vsockSocketFile : String := "vsock.sock"

def installMediaFile : String := "install.iso"

def reportPort : Nat := 1024

def maxNics : Nat := 16

def diskIdOs : String := "os"

def diskIdSeed : String := "seed"

def diskIdInstall : String := "install"

def instanceUnit (template instanceName : String) : String := template ++ "@" ++ instanceName ++ ".service"

namespace MachinePlan

def hasInstallMedia (plan : MachinePlan) : Bool := plan.guest.disks.any fun disk => disk.id == diskIdInstall

/-- Once ejected, the installer stays out of every later start. -/
def withoutInstallMedia (plan : MachinePlan) : MachinePlan :=
  { plan with
    guest := { plan.guest with disks := plan.guest.disks.filter fun disk => disk.id != diskIdInstall } }

def needsSeed (plan : MachinePlan) : Bool := plan.guest.disks.any fun disk => disk.id == diskIdSeed

end MachinePlan

/-! ## Checking what comes from the cluster -/

def uuidLen : Nat := 36

def uuidDashes : List Nat := [8, 13, 18, 23]

def requireUuid (uid : String) : Except PlanError Unit :=
  let wellFormed := uid.utf8ByteSize == uuidLen && uid.toList.zipIdx.all fun (char, index) =>
    if uuidDashes.contains index then char == '-'
    else char.isDigit || (decide ('a' ≤ char) && decide (char ≤ 'f'))
  if wellFormed then .ok () else .error (.invalidUid uid)

def maxImageName : Nat := 128

def requireImageName (name : String) : Except PlanError Unit :=
  let wellFormed := !name.toList.isEmpty && decide (name.utf8ByteSize ≤ maxImageName) &&
    name.toList.head? != some '.' && name.toList.all fun char => char.isAlphanum || ['.', '_', '-'].contains char
  if wellFormed then .ok () else .error (.invalidImage name)

def isHexDigit (char : Char) : Bool :=
  char.isDigit || (decide ('a' ≤ char) && decide (char ≤ 'f')) || (decide ('A' ≤ char) && decide (char ≤ 'F'))

def requireMac (mac : String) : Except PlanError String :=
  let octets := mac.toList.splitOn ':'
  if octets.length == 6 && octets.all fun octet => octet.length == 2 && octet.all isHexDigit then
    .ok (String.ofList (mac.toList.map Char.toLower))
  else .error (.invalidMac mac)

/-- The digits of a machine's uid that its interfaces are named by. -/
def uidHex (uid : String) : List Char := uid.toList.filter (· != '-')

/-- A locally administered address from the uid's digits and the interface's index. -/
def derivedMac (hex : List Char) (index : Nat) : String :=
  let seed := slice hex 10 8
  ":".intercalate ["02", String.ofList (slice seed 0 2), String.ofList (slice seed 2 2),
    String.ofList (slice seed 4 2), String.ofList (slice seed 6 2), hexEncode [(min index 255).toUInt8]]

def tapName (hex : List Char) (index : Nat) : String :=
  "bch" ++ String.ofList (hex.take 10) ++ String.ofList (Nat.toDigits 16 index)

def planNic (config : HostConfig) (hex : List Char) (nic : ChNicSpec) (index : Nat) : Except PlanError NicPlan := do
  let bridge ← (config.bridge nic.networkClass).elim (.error (.unknownNetworkClass nic.networkClass)) .ok
  let mac ← nic.macAddress.elim (.ok (derivedMac hex index)) requireMac
  return ⟨nic.name, tapName hex index, bridge, mac⟩

/-! ## Planning -/

def ChCpuSpec.maxVcpus (cpus : ChCpuSpec) : UInt32 := max (cpus.max.getD cpus.boot) cpus.boot

def cloudHypervisorProviderId (providerName machineUid : String) : String :=
  "cloudhypervisor://" ++ providerName ++ "/" ++ machineUid

def planTpm (config : HostConfig) (uid machineName : String) (runDir : Path) (hostUid : Nat) : TpmPlan where
  stateDir := (config.paths.stateRoot.join tpmStateRoot).join (toString hostUid)
  ekDir := (config.paths.stateRoot.join tpmEkRoot).join uid
  socket := runDir.join swtpmSocket
  unit := instanceUnit swtpmTemplate (toString hostUid)
  setupUnit := instanceUnit swtpmSetupTemplate (toString hostUid)
  setupEnv := (config.paths.stateRoot.join unitsEnvDir).join (swtpmSetupEnvFile (toString hostUid))
  vmid := expectedEkCn machineName uid

def seedNic (nic : ChNicSpec) (planned : NicPlan) : SeedNic := ⟨nic.name, some planned.mac, nic.ipam⟩

def planDisks (machineDir : Path) (emptyOsDisk seeded : Bool) : List PlannedDisk :=
  [⟨diskIdOs, machineDir.join "os.raw", false⟩] ++
    (if emptyOsDisk then [⟨diskIdInstall, machineDir.join installMediaFile, true⟩] else []) ++
    (if seeded then [⟨diskIdSeed, machineDir.join "seed.iso", true⟩] else [])

/-- What is known once the cluster's input has been checked. -/
def planOf (uid machineName providerName : String) (spec : CloudHypervisorMachineSpec) (config : HostConfig)
    (hostUid : Nat) (storage : Path) (nics : List NicPlan) : MachinePlan :=
  let machineDir := storage.join uid
  let runDir := config.paths.runRoot.join (toString hostUid)
  let tpm := if spec.tpmEnabled then some (planTpm config uid machineName runDir hostUid) else none
  let emptyOsDisk := decide (spec.bootSource.kind = .installMedia)
  let networkConfig := networkConfig (List.zipWith seedNic spec.nics nics)
  { uid := uid
    hostUid := hostUid
    unit := instanceUnit vmmTemplate (toString hostUid)
    machineDir := machineDir
    runDir := runDir
    apiSocket := runDir.join "api.sock"
    image := (storage.join imagesDir).join spec.bootSource.image
    installMedia := machineDir.join installMediaFile
    osDisk := machineDir.join "os.raw"
    osDiskBytes := saturate (spec.osDiskSizeGiB.toNat * bytesPerGib)
    seed := machineDir.join "seed.iso"
    serialLog := machineDir.join "serial.log"
    nics := nics
    providerId := cloudHypervisorProviderId providerName uid
    guest :=
      { firmware := config.firmware
        bootVcpus := spec.cpus.boot
        maxVcpus := ChCpuSpec.maxVcpus spec.cpus
        memoryMiB := spec.memory.sizeMiB.toNat
        hugepages := spec.memory.hugepages
        disks := planDisks machineDir emptyOsDisk (spec.userData.isSome || networkConfig.isSome)
        nics := nics.map fun nic => ⟨nic.name, nic.tap, nic.mac⟩
        tpmSocket := tpm.map TpmPlan.socket
        vsockSocket := some (runDir.join vsockSocketFile)
        serialFile := machineDir.join "serial.log"
        landlock := true }
    tpm := tpm
    emptyOsDisk := emptyOsDisk
    firstBootSealing := spec.firstBootSealing
    reportSocket := runDir.join s!"{vsockSocketFile}_{reportPort}"
    networkConfig := networkConfig
    declaredAddresses := declaredAddresses (spec.nics.map ChNicSpec.ipam) }

def planMachine (uid machineName providerName : String) (spec : CloudHypervisorMachineSpec) (config : HostConfig)
    (hostUid : Nat) : Except PlanError MachinePlan := do
  requireUuid uid
  if spec.tpmEnabled && !config.tpm then
    .error (.unsupported "vTPM: this host has no [tpm] section (ADR-0065)")
  if spec.nics.length > maxNics then
    .error (.unsupported s!"more than {maxNics} NICs")
  if !config.guests.contains hostUid then
    .error (.hostUidOutOfRange hostUid)
  requireImageName spec.bootSource.image
  let storage ← (config.storagePath spec.storageClass).elim (.error (.unknownStorageClass spec.storageClass)) .ok
  let nics ← spec.nics.zipIdx.mapM fun (nic, index) => planNic config (uidHex uid) nic index
  return planOf uid machineName providerName spec config hostUid storage nics

/-- What a machine that was planned has passed. -/
structure Planned (uid machineName providerName : String) (spec : CloudHypervisorMachineSpec) (config : HostConfig)
    (hostUid : Nat) (plan : MachinePlan) (storage : Path) (nics : List NicPlan) : Prop where
  uuid : requireUuid uid = .ok ()
  tpm : spec.tpmEnabled = true → config.tpm = true
  few : spec.nics.length ≤ maxNics
  inRange : config.guests.contains hostUid = true
  stored : config.storagePath spec.storageClass = some storage
  connected : (spec.nics.zipIdx.mapM fun (nic, index) => planNic config (uidHex uid) nic index) = .ok nics
  plan : plan = planOf uid machineName providerName spec config hostUid storage nics

theorem planned_of_planMachine {uid : String} {plan : MachinePlan}
    (planned : planMachine uid machineName providerName spec config hostUid = .ok plan) :
    ∃ storage nics, Planned uid machineName providerName spec config hostUid plan storage nics := by
  simp only [planMachine, bind, Except.bind, pure, Except.pure] at planned
  split at planned
  · contradiction
  rename_i uuid
  split at planned
  · contradiction
  rename_i offered
  split at planned
  · contradiction
  rename_i few
  split at planned
  · contradiction
  rename_i inRange
  split at planned
  · contradiction
  split at planned
  · contradiction
  rename_i storage found
  split at planned
  · contradiction
  rename_i nics connected
  refine ⟨storage, nics, uuid, ?_, Nat.le_of_not_lt few, by simpa using inRange, ?_, connected,
    (Except.ok.inj planned).symm⟩
  · intro enabled
    simpa [enabled] using offered
  · cases stored : config.storagePath spec.storageClass with
    | none => simp [stored] at found
    | some path => simpa [stored] using found

theorem hasInstallMedia_planOf {uid : String} {storage : Path} {nics : List NicPlan} :
    (planOf uid machineName providerName spec config hostUid storage nics).hasInstallMedia =
      (planOf uid machineName providerName spec config hostUid storage nics).emptyOsDisk := by
  have disks : ∀ (directory : Path) (empty seeded : Bool),
      ((planDisks directory empty seeded).any fun disk => disk.id == diskIdInstall) = empty := by
    intro directory empty seeded
    cases empty <;> cases seeded <;> rfl
  exact disks _ _ _

/-! ## The units -/

structure EnvFile where
  path : Path
  vars : List (String × String)
deriving DecidableEq

structure UnitStart where
  name : String
  memoryMax : Option Nat
  environment : Option EnvFile
deriving DecidableEq

/-- A value is passed on as one word, so whatever could change how it is read is refused. -/
def EnvFile.render (env : EnvFile) : Except String String :=
  List.foldlM (fun out (name, value) =>
    let nameOk := !name.toList.isEmpty && name.toList.all fun char => char.isUpper || char == '_'
    -- double and single quotes, the backslash, the dollar and the backtick
    let valueOk := !value.toList.isEmpty && value.toList.all fun char =>
      decide ('!' ≤ char) && decide (char ≤ '~') && !([34, 39, 92, 36, 96].contains char.toNat)
    if nameOk && valueOk then .ok (out ++ name ++ "=" ++ value ++ "\n")
    else .error (name ++ ": not a safe environment file entry")) "" env.vars

def vmmUnit (plan : MachinePlan) : UnitStart where
  name := plan.unit
  memoryMax := some (saturate (saturate (plan.guest.memoryMiB * bytesPerMib) + vmmMemoryOverheadBytes))
  environment := none

def swtpmSetupUnit (tpm : TpmPlan) : UnitStart where
  name := tpm.setupUnit
  memoryMax := none
  environment := some ⟨tpm.setupEnv, [("VMID", tpm.vmid), ("EK_DIR", tpm.ekDir.display)]⟩

def swtpmUnit (tpm : TpmPlan) : UnitStart where
  name := tpm.unit
  memoryMax := none
  environment := none

/-! ## Guest uids -/

/-- The lowest uid of the range that is not used. -/
def allocateHostUid (used : List Nat) (guests : GuestsSection) : Option Nat :=
  ((List.range guests.uidCount).map (guests.uidBase + ·)).find? fun uid => !used.contains uid

/-- The uids this process has given out, by machine. -/
structure UidLedger where
  given : AList fun _ : String => Nat

namespace UidLedger

def values (ledger : UidLedger) : List Nat := ledger.given.entries.map Sigma.snd

/-- A machine that was given a uid keeps it; another gets one that nobody has. -/
def assign (ledger : UidLedger) (machine : String) (recorded : List Nat) (guests : GuestsSection) :
    Option Nat × UidLedger :=
  match ledger.given.lookup machine with
  | some uid => (some uid, ledger)
  | none =>
    match allocateHostUid (recorded ++ ledger.values) guests with
    | some uid => (some uid, ⟨ledger.given.insert machine uid⟩)
    | none => (none, ledger)

def release (ledger : UidLedger) (machine : String) : UidLedger := ⟨ledger.given.erase machine⟩

end UidLedger

theorem UidLedger.mem_values {ledger : UidLedger} {machine : String}
    (given : ledger.given.lookup machine = some uid) : uid ∈ ledger.values := by
  exact List.mem_map.mpr ⟨_, AList.mem_lookup_iff.mp given, rfl⟩

theorem allocateHostUid_eq_some {used : List Nat}
    (found : allocateHostUid used guests = some uid) : guests.contains uid = true ∧ uid ∉ used := by
  have free := List.find?_some found
  obtain ⟨offset, bounded, rfl⟩ := List.mem_map.mp (List.mem_of_find?_eq_some found)
  rw [List.mem_range] at bounded
  exact ⟨GuestsSection.contains_iff.mpr (by omega), by simpa using free⟩

theorem UidLedger.assign_cases (ledger : UidLedger) (machine : String) (recorded : List Nat) (guests : GuestsSection) :
    (∃ uid, ledger.given.lookup machine = some uid ∧ ledger.assign machine recorded guests = (some uid, ledger)) ∨
    (∃ uid, ledger.given.lookup machine = none ∧ guests.contains uid = true ∧ uid ∉ recorded ∧ uid ∉ ledger.values ∧
      ledger.assign machine recorded guests = (some uid, ⟨ledger.given.insert machine uid⟩)) ∨
    (ledger.given.lookup machine = none ∧ ledger.assign machine recorded guests = (none, ledger)) := by
  unfold UidLedger.assign
  cases given : ledger.given.lookup machine with
  | some uid => exact .inl ⟨uid, rfl, rfl⟩
  | none =>
    cases found : allocateHostUid (recorded ++ ledger.values) guests with
    | none => exact .inr (.inr ⟨rfl, rfl⟩)
    | some uid =>
      obtain ⟨inRange, free⟩ := allocateHostUid_eq_some found
      simp only [List.mem_append, not_or] at free
      exact .inr (.inl ⟨uid, rfl, inRange, free.1, free.2, rfl⟩)

end Banlieue.ProviderCloudHypervisor
