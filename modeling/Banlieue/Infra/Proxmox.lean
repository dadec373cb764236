import Banlieue.Infra.Common

namespace Banlieue.Infra

open Banlieue.Data Banlieue.Api Banlieue.Scheduler

/-! # The Proxmox machine built from a decision -/

def fdRawProxmoxNode : String := "node"

def proxmoxSeedStorageClass : String := "seed-iso"

def targetKeyProxmoxStorage : String := "storage"

def targetKeyProxmoxBridge : String := "bridge"

def targetKeyProxmoxVlan : String := "vlan"

def proxmoxSockets : UInt32 := 1

def maxDataDisks : Nat := 30

def vlanMin : UInt16 := 1

def vlanMax : UInt16 := 4094

structure ProxmoxDataDisk where
  name : String
  sizeGiB : UInt32
  storage : Option String
  iothread : Bool
  discard : Bool
  ssd : Bool
deriving DecidableEq

inductive ProxmoxNicModel where
  | virtio | e1000 | rtl8139 | vmxnet3
deriving DecidableEq

structure ProxmoxNicSpec where
  name : String
  bridge : String
  vlan : Option UInt16
  model : ProxmoxNicModel
  macAddress : Option String
  ipam : IpamSpec
deriving DecidableEq

structure ProxmoxMachineSpec where
  providerId : Option String
  failureDomain : Option String
  providerRef : LocalObjectReference
  node : String
  templateVmid : UInt32
  storage : String
  pool : Option String
  cores : UInt32
  sockets : UInt32
  memoryMiB : UInt32
  cpuType : Option String
  firmware : Firmware
  tpmEnabled : Bool
  osDiskSizeGiB : UInt32
  dataDisks : List ProxmoxDataDisk
  nics : List ProxmoxNicSpec
  isoStorage : Option String
  userData : Option String
  desiredPowerState : PowerState
deriving DecidableEq

structure ProxmoxMachine where
  metadata : ObjectMeta
  spec : ProxmoxMachineSpec
deriving DecidableEq

/-! ## Cross-field rules -/

namespace ProxmoxMachineSpec

def needsSeed (spec : ProxmoxMachineSpec) : Bool := spec.userData.isSome

/-- The first name that was met before. -/
def validateDisks : List ProxmoxDataDisk → List String → Except String Unit
  | [], _ => .ok ()
  | disk :: rest, seen =>
    if seen.contains disk.name then .error ("duplicate dataDisk name " ++ disk.name.quote)
    else validateDisks rest (disk.name :: seen)

def validateNics : List ProxmoxNicSpec → List String → Except String Unit
  | [], _ => .ok ()
  | nic :: rest, seen =>
    if seen.contains nic.name then .error ("duplicate nic name " ++ nic.name.quote)
    else
      match nic.vlan with
      | some vlan =>
        if vlanMin ≤ vlan ∧ vlan ≤ vlanMax then validateNics rest (nic.name :: seen)
        else .error ("nic " ++ nic.name.quote ++ ": vlan " ++ toString vlan ++ " outside " ++
          toString vlanMin ++ "..=" ++ toString vlanMax)
      | none => validateNics rest (nic.name :: seen)

def validate (spec : ProxmoxMachineSpec) : Except String Unit := do
  if spec.needsSeed && spec.isoStorage.isNone then
    .error "isoStorage must be set when userData is set"
  if spec.dataDisks.length > maxDataDisks then
    .error ("at most " ++ toString maxDataDisks ++ " dataDisks are supported")
  validateDisks spec.dataDisks []
  validateNics spec.nics []

end ProxmoxMachineSpec

/-! ## Parts -/

def seedStorage (provider : Provider) : Except InfraBuildError String :=
  (((provider.spec.capabilities.storageClasses.find? fun mapping =>
      mapping.name == proxmoxSeedStorageClass).bind fun mapping => mapping.targetFor "" "").bind
    fun target => target.get targetKeyProxmoxStorage).elim
    (.error (.unresolvedClass proxmoxSeedStorageClass)) .ok

def proxmoxDataDisk (vm : VirtualMachine) (storage : String) (disk : DiskSpec)
    (resolved : ResolvedResource) : ProxmoxDataDisk where
  name := disk.name
  sizeGiB := mergeDiskSizeOverride disk vm.spec.hardwareOverride
  storage := if resolved.backendId ≠ storage then some resolved.backendId else none
  iothread := false
  discard := false
  ssd := false

/-- The storage for the seed image is only looked up when there is user data. -/
def isoStorageFor (provider : Provider) (renderedUserData : Option String) :
    Except InfraBuildError (Option String) :=
  match renderedUserData with
  | none => .ok none
  | some _ => (seedStorage provider).map some

def proxmoxVlan (networkClass : String) (target : Option (SortedMap String String)) :
    Except InfraBuildError (Option UInt16) :=
  match target.bind fun found => found.get targetKeyProxmoxVlan with
  | none => .ok none
  | some value =>
    match parseUnsigned 65536 value with
    | some vlan => .ok (some (UInt16.ofNat vlan))
    | none => .error (.invalidVlan networkClass value)

/-- The bridge and the tag are read off the class's target by key. -/
def proxmoxNic (vm : VirtualMachine) (provider : Provider) (nic : NetworkInterfaceSpec)
    (resolved : ResolvedResource) : Except InfraBuildError ProxmoxNicSpec := do
  let mapping := networkMapping provider nic
  let target := mapping.bind fun found => found.targetFor "" ""
  let vlan ← proxmoxVlan nic.networkClass target
  return {
    name := nic.name
    bridge := (target.bind fun found => found.get targetKeyProxmoxBridge).getD resolved.backendId
    vlan := vlan
    model := .virtio
    macAddress := none
    ipam := mergeIpamOverride nic.ipam (staticFor vm nic)
      (mapping.bind fun found => found.subnetFor "" "") }

def buildProxmoxMachine (vm : VirtualMachine) (vmClass : VMClass) (image : VMImage)
    (decision : Decision) (provider : Provider) (renderedUserData : Option String) :
    Except InfraBuildError ProxmoxMachine := do
  let node ← failureDomainAttribute decision fdRawProxmoxNode
  let disks := vmClass.spec.hardware.disks
  let osDisk ← disks.head?.elim (.error (.unresolvedClass "(no disks)")) .ok
  let osStorage ← decision.resolvedStorage.head?.elim
    (.error (.unresolvedClass osDisk.storageClass)) .ok
  let storage := osStorage.backendId
  let (resolvedRef, _) ←
    (resolveTemplateRef image decision.providerName decision.failureDomainName).elim
      (.error (.missingResolvedImageRef image.name decision.providerName decision.failureDomainName)) .ok
  let templateVmid ← (parseUnsigned 4294967296 resolvedRef).elim
    (.error (.invalidTemplateVmid image.name resolvedRef)) .ok
  let dataDisks := (List.zipWith (proxmoxDataDisk vm storage) disks decision.resolvedStorage).drop 1
  -- a disk the decision did not resolve is reported by its class
  match disks[decision.resolvedStorage.length]? with
  | some unresolved => .error (.unresolvedClass unresolved.storageClass)
  | none =>
    let nics ← (vmClass.spec.network.interfaces.zip decision.resolvedNetworks).mapM fun entry =>
      proxmoxNic vm provider entry.1 entry.2
    let isoStorage ← isoStorageFor provider renderedUserData
    let spec : ProxmoxMachineSpec :=
      { providerId := none
        failureDomain := some decision.failureDomainName
        providerRef := ⟨decision.providerName⟩
        node := node
        templateVmid := UInt32.ofNat templateVmid
        storage := storage
        pool := none
        cores := cpusFor vm vmClass
        sockets := proxmoxSockets
        memoryMiB := memoryMiBFor vm vmClass
        cpuType := none
        firmware := vmClass.spec.firmware
        tpmEnabled := vmClass.spec.tpmEnabled
        osDiskSizeGiB := mergeDiskSizeOverride osDisk vm.spec.hardwareOverride
        dataDisks := dataDisks
        nics := nics
        isoStorage := isoStorage
        userData := renderedUserData
        desiredPowerState := vm.spec.desiredPowerState }
    match spec.validate with
    | .error reason => .error (.invalidSpec reason)
    | .ok () => return { metadata := infraMetadata vm, spec := spec }

end Banlieue.Infra
