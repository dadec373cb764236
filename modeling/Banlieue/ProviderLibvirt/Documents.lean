import Banlieue.Infra.Libvirt
import Banlieue.Libvirt.Procs

namespace Banlieue.ProviderLibvirt

open Banlieue.Api Banlieue.Data Banlieue.Infra Banlieue.Libvirt

/-! # Domain documents

As with volumes, a document is kept as the values in it.  A value that passes `esc`
is what the host reads back.
-/

inductive XmlError where
  | illegalChar (position codepoint : Nat)
deriving DecidableEq

inductive DomainXmlError where
  | xml (reason : XmlError)
  | missingInstallMedia
  | nvramTemplateWithoutLoader
  | diskPathCountMismatch (disks paths : Nat)
deriving DecidableEq

def hexDigit (value : Nat) : Char := if value < 10 then .ofNat (48 + value) else .ofNat (55 + value)

/-- Four hexadecimal digits; the characters that are refused need no more. -/
def codepointText (codepoint : Nat) : String :=
  .ofList [hexDigit (codepoint / 4096 % 16), hexDigit (codepoint / 256 % 16), hexDigit (codepoint / 16 % 16),
    hexDigit (codepoint % 16)]

def DomainXmlError.text : DomainXmlError → String
  | .xml (.illegalChar position codepoint) =>
    "value contains a character XML cannot represent (U+" ++ codepointText codepoint ++ " at character " ++
      toString position ++ ")"
  | .missingInstallMedia => "boot source is installMedia but no install ISO path was supplied"
  | .nvramTemplateWithoutLoader => "an EFI nvram template was supplied without a loader path"
  | .diskPathCountMismatch disks paths =>
    "spec has " ++ toString disks ++ " disk(s) but " ++ toString paths ++ " extra disk path(s) were supplied"

/-- Control characters other than tab, line feed and carriage return are refused. -/
def isIllegal (char : Char) : Bool := char.toNat < 0x20 && char != '\t' && char != '\n' && char != '\r'

def esc (value : String) : Except DomainXmlError String :=
  match value.toList.findIdx? isIllegal with
  | some position => throw (.xml (.illegalChar position ((value.toList.getD position ' ').toNat)))
  | none => return value

structure DomainDisk where
  path : String
  target : String
  bus : LibvirtDiskBus
deriving DecidableEq

/-- A drive without a medium has no path. -/
structure DomainCdrom where
  path : Option String
  target : String
deriving DecidableEq

structure DomainInterfaceDevice where
  source : LibvirtNicSource
  macAddress : Option String
  model : String
deriving DecidableEq

structure DomainLoader where
  path : String
  secure : Bool
  nvramTemplate : Option String
deriving DecidableEq

structure DomainDocument where
  type : String
  name : String
  uuid : Option String
  memoryMiB : UInt32
  vcpus : UInt32
  efi : Bool
  machineType : Option String
  loader : Option DomainLoader
  /-- After the disk, which always comes first. -/
  bootsCdrom : Bool
  smm : Bool
  disks : List DomainDisk
  cdroms : List DomainCdrom
  interfaces : List DomainInterfaceDevice
  tpm : Bool
deriving DecidableEq

structure DomainXmlInput where
  spec : LibvirtMachineSpec
  uuid : Option String
  domainType : String
  osDiskPath : String
  extraDiskPaths : List String
  installIsoPath : Option String
  installMediaDetached : Bool
  cidataIsoPath : Option String
  efiLoaderPath : Option String
  efiNvramTemplatePath : Option String

/-- After `z` the letters start again. -/
def deviceLetter (index : Nat) : String := .singleton (.ofNat (97 + index % 26))

def devicePrefix : LibvirtDiskBus → String
  | .virtio => "vd"
  | .scsi | .sata => "sd"

/-- Each bus name has letters of its own; `virtio` and `sd` count them. -/
def renderDisks : Nat → Nat → List (LibvirtDiskSpec × String) → Except DomainXmlError (List DomainDisk)
  | _, _, [] => return []
  | virtio, sd, (disk, path) :: rest => do
    let index := match disk.bus with | .virtio => virtio | _ => sd
    let path ← esc path
    let others ←
      match disk.bus with
      | .virtio => renderDisks (virtio + 1) sd rest
      | _ => renderDisks virtio (sd + 1) rest
    return ⟨path, devicePrefix disk.bus ++ deviceLetter index, disk.bus⟩ :: others

/-- The installer comes first, so that it is the one at the first letter. -/
def renderCdroms : Nat → List String → Except DomainXmlError (List DomainCdrom)
  | _, [] => return []
  | index, path :: rest => do
    let path ← esc path
    let others ← renderCdroms (index + 1) rest
    return ⟨some path, "sd" ++ deviceLetter index⟩ :: others

def renderInterface (nic : LibvirtNicSpec) : Except DomainXmlError DomainInterfaceDevice := do
  let name ← esc nic.source.name
  let macAddress ← nic.macAddress.mapM esc
  let model ← esc (nic.model.getD "virtio")
  return ⟨{ nic.source with name := name }, macAddress, model⟩

def isEfi (spec : LibvirtMachineSpec) : Bool := spec.firmware == .efi || spec.firmware == .efiSecure

def renderLoader (input : DomainXmlInput) : Except DomainXmlError (Option DomainLoader) :=
  match isEfi input.spec, input.efiLoaderPath with
  | true, some loader => do
    let path ← esc loader
    let template ← input.efiNvramTemplatePath.mapM esc
    return some ⟨path, input.spec.firmware == .efiSecure, template⟩
  | _, _ => return none

/-- The path of the installer, unless the machine has none or it was ejected. -/
def installIso (input : DomainXmlInput) : Except DomainXmlError (Option String) :=
  match input.spec.bootSource.kind with
  | .backingVolume => return none
  | .installMedia =>
    if input.installMediaDetached then return none
    else
      match input.installIsoPath with
      | some path => return some path
      | none => throw .missingInstallMedia

/-- What everything after it takes for granted; the result is the installer's path. -/
def checkInput (input : DomainXmlInput) : Except DomainXmlError (Option String) :=
  if input.extraDiskPaths.length ≠ input.spec.disks.length - 1 then
    throw (.diskPathCountMismatch input.spec.disks.length input.extraDiskPaths.length)
  else
    match installIso input with
    | .error reason => throw reason
    | .ok iso =>
      if input.efiNvramTemplatePath.isSome && input.efiLoaderPath.isNone then
        throw .nvramTemplateWithoutLoader
      else return iso

def buildDomainXml (input : DomainXmlInput) : Except DomainXmlError DomainDocument := do
  let spec := input.spec
  let iso ← checkInput input
  let type ← esc input.domainType
  let name ← esc spec.domainName
  let uuid ← input.uuid.mapM esc
  let machineType ← spec.machineType.mapM esc
  let loader ← renderLoader input
  let disks ← renderDisks 0 0 (spec.disks.zip (input.osDiskPath :: input.extraDiskPaths))
  let cdroms ← renderCdroms 0 (iso.toList ++ input.cidataIsoPath.toList)
  let interfaces ← spec.network.mapM renderInterface
  return {
    type := type
    name := name
    uuid := uuid
    memoryMiB := spec.memoryMiB
    vcpus := spec.vcpus
    efi := isEfi spec
    machineType := machineType
    loader := loader
    bootsCdrom := iso.isSome
    smm := spec.firmware == .efiSecure
    disks := disks
    cdroms := cdroms
    interfaces := interfaces
    tpm := spec.tpmEnabled }

/-- The drive of the installer without its medium. -/
def ejectedInstallCdromXml : DomainCdrom := ⟨none, "sd" ++ deviceLetter 0⟩

theorem esc_eq_ok {value text : String} (escaped : esc value = .ok text) : text = value := by
  simp only [esc] at escaped
  split at escaped
  · cases escaped
  · cases escaped
    rfl

theorem mapM_esc_eq_ok {value text : Option String} (escaped : value.mapM esc = .ok text) : text = value := by
  cases value with
  | none =>
    cases escaped
    rfl
  | some value =>
    obtain ⟨middle, first, rfl⟩ := exists_of_map_eq_ok escaped
    rw [esc_eq_ok first]

theorem renderCdroms_eq_ok {index : Nat} {paths : List String} {cdroms : List DomainCdrom}
    (rendered : renderCdroms index paths = .ok cdroms) :
    cdroms = paths.mapIdx fun offset path => ⟨some path, "sd" ++ deviceLetter (index + offset)⟩ := by
  induction paths generalizing index cdroms with
  | nil =>
    cases rendered
    rfl
  | cons path rest ih =>
    obtain ⟨escaped, first, rendered⟩ := exists_of_bind_eq_ok rendered
    obtain ⟨others, later, rendered⟩ := exists_of_bind_eq_ok rendered
    cases rendered
    rw [esc_eq_ok first, ih later, List.mapIdx_cons]
    simp only [Nat.add_zero, Nat.add_assoc, Nat.add_comm 1]

theorem checkInput_eq_ok {input : DomainXmlInput} {iso : Option String}
    (checked : checkInput input = .ok iso) : installIso input = .ok iso := by
  unfold checkInput at checked
  split at checked
  · cases checked
  · split at checked
    · cases checked
    · rename_i found
      split at checked
      · cases checked
      · cases checked
        exact found

theorem buildDomainXml_eq_ok {input : DomainXmlInput} {document : DomainDocument}
    (built : buildDomainXml input = .ok document) : document.name = input.spec.domainName ∧ document.uuid = input.uuid ∧
      ∃ iso, installIso input = .ok iso ∧
        renderCdroms 0 (iso.toList ++ input.cidataIsoPath.toList) = .ok document.cdroms := by
  obtain ⟨iso, checked, built⟩ := exists_of_bind_eq_ok built
  obtain ⟨type, -, built⟩ := exists_of_bind_eq_ok built
  obtain ⟨name, named, built⟩ := exists_of_bind_eq_ok built
  obtain ⟨uuid, identified, built⟩ := exists_of_bind_eq_ok built
  obtain ⟨machineType, -, built⟩ := exists_of_bind_eq_ok built
  obtain ⟨loader, -, built⟩ := exists_of_bind_eq_ok built
  obtain ⟨disks, -, built⟩ := exists_of_bind_eq_ok built
  obtain ⟨cdroms, rendered, built⟩ := exists_of_bind_eq_ok built
  obtain ⟨interfaces, -, built⟩ := exists_of_bind_eq_ok built
  cases built
  exact ⟨esc_eq_ok named, mapM_esc_eq_ok identified, iso, checkInput_eq_ok checked, rendered⟩

end Banlieue.ProviderLibvirt
