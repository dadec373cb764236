import Banlieue.Cloudinit.Iso9660
import Banlieue.Cloudinit.Network
import Banlieue.ProviderLibvirt.Host
import Banlieue.Sdk.Status

namespace Banlieue.ProviderLibvirt

open Banlieue.Api Banlieue.Cloudinit Banlieue.Data Banlieue.Data.Program Banlieue.Infra Banlieue.Libvirt
  Banlieue.Sdk

/-! # The backend part of a pass -/

abbrev Pass := ExceptT Error (Program Call Reply)

/-- However the host decides, within what is allowed, the pass returns only what `post`
says, and otherwise leaves a host that is `safe`. -/
abbrev Secured {α : Type} (allowed : Host → Call → Option Decision → Prop) (safe : Host → Prop)
    (pass : Pass α) (host : Host) (post : α → Host → Prop) : Prop :=
  @Secures Call Reply α Error hostBackend allowed safe pass host post

def ask (call : Call) : Program Call Reply (Reply call) := request call

/-! The calls of the client: an error ends the pass. -/

def lookupPool (name : String) : Pass (Option StoragePool) := .mk (ask (.lookupPool name))

def lookupVolume (pool : StoragePool) (name : String) : Pass (Option StorageVol) :=
  .mk (ask (.lookupVolume pool name))

def createVolume (pool : StoragePool) (document : VolumeDocument) : Pass StorageVol :=
  .mk (ask (.createVolume pool document))

def uploadVolume (volume : StorageVol) (data : List UInt8) : Pass Unit :=
  .mk (ask (.uploadVolume volume data))

def deleteVolume (volume : StorageVol) : Pass Unit := .mk (ask (.deleteVolume volume))

def refreshPool (pool : StoragePool) : Pass Unit := .mk (ask (.refreshPool pool))

def lookupDomain (name : String) : Pass (Option Domain) := .mk (ask (.lookupDomain name))

def defineDomain (document : DomainDocument) : Pass Domain := .mk (ask (.defineDomain document))

def startDomain (domain : Domain) : Pass Domain := .mk (ask (.startDomain domain))

def domainState (domain : Domain) : Pass DomainState := .mk (ask (.domainState domain))

def destroyDomain (domain : Domain) : Pass Unit := .mk (ask (.destroyDomain domain))

def undefineDomain (domain : Domain) : Pass Unit := .mk (ask (.undefineDomain domain))

def ejectInstallMedia (domain : Domain) (drive : DomainCdrom) : Pass Unit :=
  .mk (ask (.ejectInstallMedia domain drive))

def domainAddresses (domain : Domain) :
    Pass (Option (List DomainInterface × InterfaceAddressSource)) :=
  .mk (ask (.domainAddresses domain))

def probeGuest (domain : Domain) : Pass GuestProbe := .lift (ask (.probeGuest domain))

def readEkCertificate (domain : Domain) (domainName domainUuid : String) : Pass EkProbe :=
  .lift (ask (.readEkCertificate domain domainName domainUuid))

def readSealedReport (domain : Domain) : Pass (List String) := .lift (ask (.readSealedReport domain))

def timestampNow : Pass Timestamp := .lift (ask .now)

/-! ## Volumes -/

def bytesPerGiB : Nat := 1024 * 1024 * 1024

/-- The extension of the name decides, never the content. -/
def backingFormat (volumeName : String) : String :=
  match (volumeName.toList.splitOn '.').getLast? with
  | some extension =>
    if ["qcow2", "qcow"].contains (String.ofList extension) then "qcow2" else "raw"
  | none => "raw"

def volumeName (domainName diskName : String) : String := domainName ++ "-" ++ diskName ++ ".qcow2"

def seedVolumeName (domainName : String) : String := domainName ++ "-cidata.iso"

def needsEmptyOsDisk (source : LibvirtBootSource) : Bool := source.kind == .installMedia

def needsInstallCdrom (source : LibvirtBootSource) : Bool := source.kind == .installMedia

def ofProtocol {α : Type} : Except ProtocolViolation α → Pass α
  | .ok value => pure value
  | .error violation => throw (.libvirt violation.text)

/-- A volume that is there is used as it is. -/
def ensureVolume (pool : StoragePool) (name : String) (document : Except ProtocolViolation VolumeDocument) :
    Pass StorageVol := do
  match ← lookupVolume pool name with
  | some volume => return volume
  | none =>
    let document ← ofProtocol document
    let volume ← createVolume pool document
    refreshPool pool
    return volume

def osDocument (spec : LibvirtMachineSpec) (source : StorageVol) (os : LibvirtDiskSpec) :
    Except ProtocolViolation VolumeDocument :=
  let name := volumeName spec.domainName os.name
  let capacity := os.sizeGiB.toNat * bytesPerGiB
  if needsEmptyOsDisk spec.bootSource then qcow2VolumeXml name capacity
  else qcow2OverlayVolumeXml name capacity source.key (backingFormat source.name)

def ensureDataDisks (pool : StoragePool) (spec : LibvirtMachineSpec) :
    List LibvirtDiskSpec → Pass (List StorageVol)
  | [] => return []
  | disk :: rest => do
    let name := volumeName spec.domainName disk.name
    let volume ← ensureVolume pool name (qcow2VolumeXml name (disk.sizeGiB.toNat * bytesPerGiB))
    let others ← ensureDataDisks pool spec rest
    return volume :: others

def ensureDisks (pool : StoragePool) (spec : LibvirtMachineSpec) (source : StorageVol) :
    Pass (StorageVol × List StorageVol) := do
  match spec.disks with
  | [] => throw (.invalid "spec.disks" "a machine needs at least an OS disk")
  | os :: rest =>
    let osDisk ← ensureVolume pool (volumeName spec.domainName os.name) (osDocument spec source os)
    let extra ← ensureDataDisks pool spec rest
    return (osDisk, extra)

def seedNetworkConfig (spec : LibvirtMachineSpec) : Option String :=
  networkConfig (spec.network.map fun nic => ⟨nic.name, nic.macAddress, nic.ipam⟩)

/-- The image for a domain with that identifier. -/
def seedImage (spec : LibvirtMachineSpec) (uuid : Uuid) : Except IsoError (List UInt8) :=
  buildSeedIso spec.domainName (formatUuid uuid) spec.userData (seedNetworkConfig spec)

def ofIso {α : Type} : Except IsoError α → Pass α
  | .ok value => pure value
  | .error reason => throw (.invalid "cloud-init seed" reason.text)

/-- A seed that is there is used as it is. -/
def ensureSeed (pool : StoragePool) (spec : LibvirtMachineSpec) (domain : Domain) :
    Pass (Option StorageVol) := do
  let name := seedVolumeName spec.domainName
  match ← lookupVolume pool name with
  | some existing => return some existing
  | none =>
    let image ← ofIso (seedImage spec domain.uuid)
    let volume ← createVolume pool (rawVolumeXml name image.length)
    uploadVolume volume image
    refreshPool pool
    return some volume

/-! ## The domain -/

def domainTypeKvm : String := "kvm"

def ofDomainXml {α : Type} : Except DomainXmlError α → Pass α
  | .ok value => pure value
  | .error reason => throw (.invalid "domain XML" reason.text)

/-- What a pass knows when it writes the domain's document. -/
structure DocumentInput where
  spec : LibvirtMachineSpec
  osDisk : StorageVol
  extraDisks : List StorageVol
  installIso : Option String
  alreadyDetached : Bool

def DocumentInput.document (input : DocumentInput) (uuid : Option Uuid) (cidata : Option StorageVol) :
    Except DomainXmlError DomainDocument :=
  buildDomainXml
    { spec := input.spec
      uuid := uuid.map formatUuid
      domainType := domainTypeKvm
      osDiskPath := input.osDisk.key
      extraDiskPaths := input.extraDisks.map StorageVol.key
      installIsoPath := input.installIso
      installMediaDetached := input.alreadyDetached
      cidataIsoPath := cidata.map StorageVol.key
      efiLoaderPath := none
      efiNvramTemplatePath := none }

/-- The domain is defined a second time with its seed: the seed has the identifier
that the first time gives the domain. -/
def defineWithSeed (pool : StoragePool) (input : DocumentInput) : Pass Domain := do
  let existing ← lookupDomain input.spec.domainName
  let document ← ofDomainXml (input.document (existing.map Domain.uuid) none)
  let domain ← defineDomain document
  match ← ensureSeed pool input.spec domain with
  | none => return domain
  | some seed =>
    let document ← ofDomainXml (input.document (some domain.uuid) (some seed))
    defineDomain document

def startIfWanted (spec : LibvirtMachineSpec) (domain : Domain) (state : DomainState) : Pass DomainState :=
  if spec.desiredPowerState = .poweredOn ∧ !state.isRunning then do
    let _ ← startDomain domain
    domainState domain
  else pure state

def stopIfWanted (spec : LibvirtMachineSpec) (domain : Domain) (state : DomainState) : Pass DomainState :=
  if spec.desiredPowerState = .poweredOff ∧ state.isRunning then do
    destroyDomain domain
    domainState domain
  else pure state

def settlePower (spec : LibvirtMachineSpec) (domain : Domain) : Pass DomainState := do
  let state ← domainState domain
  let state ← startIfWanted spec domain state
  stopIfWanted spec domain state

/-! ## Addresses -/

inductive LibvirtAddressSource where
  | guestAgent | dhcpLease | arpTable | static
deriving DecidableEq

def toAddressSource : InterfaceAddressSource → LibvirtAddressSource
  | .agent => .guestAgent
  | .lease => .dhcpLease
  | .arp => .arpTable

/-- Neither loopback nor link-local. -/
def isRoutable (address : String) : Bool :=
  let lower := address.toList.map Char.toLower
  if "127.".toList.isPrefixOf lower || lower == "::1".toList then false
  else if "169.254.".toList.isPrefixOf lower then false
  else
    match lower with
    | 'f' :: 'e' :: third :: _ => !(['8', '9', 'a', 'b'].contains third)
    | _ => true

def toMachineAddresses (interfaces : List DomainInterface) : List MachineAddress :=
  ((interfaces.flatMap DomainInterface.addrs).filter fun address => isRoutable address.addr).map fun address =>
    ⟨.internalIP, address.addr⟩

/-- What a running machine's interfaces declare stands in for what nobody reports. -/
def observeAddresses (spec : LibvirtMachineSpec) (domain : Domain) (state : DomainState) :
    Pass (List MachineAddress × Option LibvirtAddressSource) := do
  match ← domainAddresses domain with
  | some (interfaces, source) => return (toMachineAddresses interfaces, some (toAddressSource source))
  | none =>
    if state.isRunning then
      let declared := declaredAddresses (spec.network.map LibvirtNicSpec.ipam)
      return (declared, if declared.isEmpty then none else some .static)
    else return ([], none)

/-! ## One pass -/

structure Observed where
  domain : Domain
  state : DomainState
  addresses : List MachineAddress
  addressSource : Option LibvirtAddressSource
  guest : GuestProbe
  installMediaDetached : Option Bool
  ek : EkProbe
  sealed : List String
  now : Timestamp

def shouldEjectInstallMedia (needsCdrom alreadyDetached guestInstalled : Bool) : Bool :=
  needsCdrom && !alreadyDetached && guestInstalled

/-- A machine that never had install media has nothing to say about it. -/
def detachInstallMedia (spec : LibvirtMachineSpec) (alreadyDetached : Bool) (domain : Domain)
    (guest : GuestProbe) : Pass (Option Bool) :=
  if needsInstallCdrom spec.bootSource then
    if shouldEjectInstallMedia true alreadyDetached guest.isInstalled then do
      ejectInstallMedia domain ejectedInstallCdromXml
      return some true
    else return some alreadyDetached
  else return none

/-! Nothing is asked of a guest that does not run. -/

def askGuest (domain : Domain) (state : DomainState) : Pass GuestProbe :=
  if state.isRunning then probeGuest domain else pure .agentUnreachable

def askEk (spec : LibvirtMachineSpec) (ekAlreadyPublished : Bool) (domain : Domain) (state : DomainState) :
    Pass EkProbe :=
  if spec.tpmEnabled && state.isRunning && !ekAlreadyPublished then
    readEkCertificate domain spec.domainName (formatUuid domain.uuid)
  else pure .notPublished

def askSealed (spec : LibvirtMachineSpec) (domain : Domain) (state : DomainState) : Pass (List String) :=
  if spec.firstBootSealing.isSome && state.isRunning then readSealedReport domain else pure []

/-- What is done with the domain once it is defined. -/
def observe (spec : LibvirtMachineSpec) (alreadyDetached ekAlreadyPublished : Bool) (domain : Domain) :
    Pass Observed := do
  let state ← settlePower spec domain
  let (addresses, addressSource) ← observeAddresses spec domain state
  let guest ← askGuest domain state
  let installMediaDetached ← detachInstallMedia spec alreadyDetached domain guest
  let ek ← askEk spec ekAlreadyPublished domain state
  let sealed ← askSealed spec domain state
  let now ← timestampNow
  return ⟨domain, state, addresses, addressSource, guest, installMediaDetached, ek, sealed, now⟩

def converge (spec : LibvirtMachineSpec) (alreadyDetached ekAlreadyPublished : Bool) : Pass Observed := do
  match ← lookupPool spec.pool with
  | none =>
    throw (.invalid "spec.pool"
      ("storage pool " ++ debugText spec.pool.toList ++ " does not exist on this host"))
  | some pool =>
    match ← lookupVolume pool spec.bootSource.volume with
    | none =>
      throw (.invalid "spec.bootSource.volume"
        ("volume " ++ debugText spec.bootSource.volume.toList ++ " is not in pool " ++
          debugText spec.pool.toList ++
          "; the VMImage for this machine has not finished importing"))
    | some source =>
      let (osDisk, extraDisks) ← ensureDisks pool spec source
      let installIso :=
        if needsInstallCdrom spec.bootSource && !alreadyDetached then some source.key else none
      let domain ← defineWithSeed pool ⟨spec, osDisk, extraDisks, installIso, alreadyDetached⟩
      observe spec alreadyDetached ekAlreadyPublished domain

/-! ## Deletion -/

/-- The volumes that are the machine's own; the boot source is shared. -/
def ownedVolumes (spec : LibvirtMachineSpec) : List String :=
  spec.disks.map (fun disk => volumeName spec.domainName disk.name) ++ [seedVolumeName spec.domainName]

/-- A volume that is not there is as good as deleted. -/
def deleteIfFound : Option StorageVol → Pass Unit
  | some volume => deleteVolume volume
  | none => pure ()

def deleteVolumes (pool : StoragePool) : List String → Pass Unit
  | [] => return ()
  | name :: rest => do
    let found ← lookupVolume pool name
    deleteIfFound found
    deleteVolumes pool rest

def stopIfRunning (domain : Domain) (state : DomainState) : Pass Unit :=
  if state.isRunning then destroyDomain domain else pure ()

def removeDomain (spec : LibvirtMachineSpec) (domain : Domain) : Pass Unit := do
  let state ← domainState domain
  stopIfRunning domain state
  undefineDomain domain
  match ← lookupDomain spec.domainName with
  | some _ =>
    throw (.invalid "domain teardown"
      ("domain " ++ debugText spec.domainName.toList ++ " is still defined after undefine"))
  | none => return ()

def removeIfFound (spec : LibvirtMachineSpec) : Option Domain → Pass Unit
  | some domain => removeDomain spec domain
  | none => pure ()

def finalizeBackend (spec : LibvirtMachineSpec) : Pass Unit := do
  let found ← lookupDomain spec.domainName
  removeIfFound spec found
  match ← lookupPool spec.pool with
  | some pool => deleteVolumes pool (ownedVolumes spec)
  | none => return ()

end Banlieue.ProviderLibvirt
