import Banlieue.ProviderLibvirt.Machine

namespace Banlieue.ProviderLibvirt

open Banlieue.Api Banlieue.Cloudinit Banlieue.Data Banlieue.Data.Program Banlieue.Infra Banlieue.Libvirt

/-! # Which calls a pass makes -/

/-- A host that finds or makes what it is asked for returns a handle of that. -/
def Truthful : (call : Call) → Reply call → Prop
  | .lookupPool name, reply => ∀ pool, reply = .ok (some pool) → pool.name = name
  | .lookupVolume pool name, reply =>
    ∀ volume, reply = .ok (some volume) → volume.pool = pool.name ∧ volume.name = name
  | .createVolume pool document, reply =>
    ∀ volume, reply = .ok volume → volume.pool = pool.name ∧ volume.name = document.name
  | .lookupDomain name, reply => ∀ domain, reply = .ok (some domain) → domain.name = name
  | .defineDomain document, reply => ∀ domain, reply = .ok domain → domain.name = document.name
  | _, _ => True

theorem Decision.deliver_ok {ρ : Type} {decision : Decision} {host : Host}
    {carriedOut : Except Error ρ × Host} {value : ρ} (replied : (decision.deliver host carriedOut).1 = .ok value) :
    decision.fate = .answered ∧ decision.deliver host carriedOut = carriedOut ∧ carriedOut.1 = .ok value := by
  cases fate : decision.fate <;> simp only [deliver, fate, reduceCtorEq] at replied
  exact ⟨rfl, by simp only [deliver, fate], replied⟩

namespace Host

variable {host : Host} {document : VolumeDocument} {pool : StoragePool}

theorem createVolume_ok {volume : StorageVol} (created : (host.createVolume pool document).1 = .ok volume) :
    volume = host.handle pool.name document.name ∧
      (host.createVolume pool document).2 = { host with
        volumes := host.volumes.insert (pool.name, document.name) (.blank document) } := by
  unfold createVolume at created ⊢
  split_ifs at created ⊢ <;> cases created
  exact ⟨rfl, rfl⟩

theorem createVolume_error {reason : Error} (failed : (host.createVolume pool document).1 = .error reason) :
    (host.createVolume pool document).2 = host := by
  unfold createVolume at failed ⊢
  split_ifs at failed ⊢
  · rfl
  · rfl

theorem deliver_createVolume_error {decision : Decision} {reason : Error} (heard : decision.fate ≠ .unanswered)
    (failed : (decision.deliver host (host.createVolume pool document)).1 = .error reason) :
    (decision.deliver host (host.createVolume pool document)).2 = host := by
  cases fate : decision.fate with
  | answered =>
    simp only [Decision.deliver, fate] at failed ⊢
    exact createVolume_error failed
  | dropped | cut written => simp only [Decision.deliver, fate]
  | unanswered => exact absurd fate heard

theorem write_blank (name : String) (image : List UInt8) :
    ((Volume.blank (rawVolumeXml name image.length)).write image).content = image := by
  simp [Volume.blank, Volume.write, rawVolumeXml, patch]

theorem defineDomain_ok {fresh : Uuid} {document : DomainDocument} {domain : Domain}
    (defined : (host.defineDomain fresh document).1 = .ok domain) :
    domain.name = document.name ∧
      (host.defineDomain fresh document).2 =
        { host with domains := host.domains.insert document.name ⟨domain.uuid, document⟩ } := by
  unfold defineDomain at defined ⊢
  cases found : host.domains.lookup document.name <;> simp only [found] at defined ⊢ <;>
    split_ifs at defined ⊢ <;> cases defined <;> exact ⟨rfl, rfl⟩

theorem serve_truthful (host : Host) (call : Call) (decision : Decision) :
    Truthful call (host.serve decision call).1 := by
  cases call <;> try trivial
  case lookupPool name =>
    intro pool found
    obtain ⟨-, -, found⟩ := Decision.deliver_ok found
    simp only [Except.ok.injEq] at found
    split at found
    · cases found
      rfl
    · cases found
  case lookupVolume pool name =>
    intro volume found
    obtain ⟨-, -, found⟩ := Decision.deliver_ok found
    simp only [Except.ok.injEq, Option.map_eq_some_iff] at found
    obtain ⟨_, -, rfl⟩ := found
    exact ⟨rfl, rfl⟩
  case createVolume pool document =>
    intro volume created
    obtain ⟨-, -, created⟩ := Decision.deliver_ok created
    obtain ⟨rfl, -⟩ := createVolume_ok created
    exact ⟨rfl, rfl⟩
  case lookupDomain name =>
    intro domain found
    obtain ⟨-, -, found⟩ := Decision.deliver_ok found
    simp only [Except.ok.injEq, Option.map_eq_some_iff] at found
    obtain ⟨_, -, rfl⟩ := found
    rfl
  case defineDomain document =>
    intro domain defined
    obtain ⟨-, -, defined⟩ := Decision.deliver_ok defined
    exact (defineDomain_ok defined).1

end Host

/-! ## The parts of a pass -/

def diskVolumes (spec : LibvirtMachineSpec) : List String :=
  spec.disks.map fun disk => volumeName spec.domainName disk.name

def DiskCall (spec : LibvirtMachineSpec) : Call → Prop
  | .lookupVolume pool name => pool.name = spec.pool ∧ name ∈ diskVolumes spec
  | .createVolume pool document => pool.name = spec.pool ∧ document.name ∈ diskVolumes spec
  | .refreshPool pool => pool.name = spec.pool
  | _ => False

/-- What is asked of a domain that is defined; `ejects` says whether the installer may
be taken out. -/
def DomainCall (spec : LibvirtMachineSpec) (ejects : Bool) : Call → Prop
  | .startDomain domain | .domainState domain | .destroyDomain domain | .domainAddresses domain
  | .probeGuest domain | .readEkCertificate domain _ _ | .readSealedReport domain =>
    domain.name = spec.domainName
  | .ejectInstallMedia domain drive =>
    domain.name = spec.domainName ∧ ejects = true ∧ drive = ejectedInstallCdromXml
  | .now => True
  | _ => False

/-- Everything a pass for the machine may do: it reads the boot source, and all else is
about the machine's own domain and volumes. -/
def Own (spec : LibvirtMachineSpec) : Call → Prop
  | .lookupPool name => name = spec.pool
  | .lookupVolume pool name =>
    pool.name = spec.pool ∧ (name = spec.bootSource.volume ∨ name ∈ ownedVolumes spec)
  | .createVolume pool document => pool.name = spec.pool ∧ document.name ∈ ownedVolumes spec
  | .uploadVolume volume _ | .deleteVolume volume =>
    volume.pool = spec.pool ∧ volume.name ∈ ownedVolumes spec
  | .refreshPool pool => pool.name = spec.pool
  | .lookupDomain name => name = spec.domainName
  | .defineDomain document => document.name = spec.domainName
  | .startDomain domain | .domainState domain | .destroyDomain domain | .undefineDomain domain
  | .ejectInstallMedia domain _ | .domainAddresses domain | .probeGuest domain
  | .readEkCertificate domain _ _ | .readSealedReport domain => domain.name = spec.domainName
  | .now => True

variable {spec : LibvirtMachineSpec} {call : Call} {name : String} {input : DocumentInput}

theorem DiskCall.own (disk : DiskCall spec call) : Own spec call := by
  cases call <;> try exact disk.elim
  case lookupVolume pool name => exact ⟨disk.1, .inr (List.mem_append_left _ disk.2)⟩
  case createVolume pool document => exact ⟨disk.1, List.mem_append_left _ disk.2⟩
  case refreshPool pool => exact disk

theorem DomainCall.own {ejects : Bool} (domain : DomainCall spec ejects call) : Own spec call := by
  cases call <;> first | exact domain.elim | exact domain | exact domain.1

/-! The walk through the pass is left to the simp set: what the client's calls are, what is
permitted, and what is replied. -/

attribute [local simp] Truthful DiskCall DomainCall Own ask lookupPool lookupVolume createVolume uploadVolume deleteVolume
  refreshPool lookupDomain defineDomain startDomain domainState destroyDomain undefineDomain ejectInstallMedia
  domainAddresses probeGuest readEkCertificate readSealedReport timestampNow Option.forall

variable {pool : StoragePool}

/-- A pass that is answered truthfully makes only permitted calls and returns what `post`
says. -/
@[simp]
abbrev Calls (permits : Call → Prop) {α : Type} (pass : Pass α) (post : α → Prop) : Prop :=
  Keeps (replying permits Truthful) pass post

theorem keeps_ensureVolume (within : pool.name = spec.pool)
    {document : Except ProtocolViolation VolumeDocument} (disk : name ∈ diskVolumes spec)
    (named : ∀ built, document = .ok built → built.name = name) :
    Calls (DiskCall spec) (ensureVolume pool name document) fun _ => True := by
  cases document with
  | error violation => simp [ensureVolume, ofProtocol, within, disk]
  | ok built => simp [ensureVolume, ofProtocol, within, disk, named built rfl]

theorem keeps_ensureDataDisks (within : pool.name = spec.pool) {disks : List LibvirtDiskSpec}
    (own : ∀ disk ∈ disks, disk ∈ spec.disks) : Calls (DiskCall spec) (ensureDataDisks pool spec disks) fun _ => True := by
  induction disks with
  | nil => rfl
  | cons disk rest ih =>
    have member : volumeName spec.domainName disk.name ∈ diskVolumes spec :=
      List.mem_map_of_mem (own disk List.mem_cons_self)
    refine Heeds.bind (keeps_ensureVolume within member fun built same => (qcow2VolumeXml_eq_ok same).1) fun volume => ?_
    exact Heeds.bind (ih fun disk later => own disk (List.mem_cons_of_mem _ later)) fun _ => rfl

theorem osDocument_name {source : StorageVol} {os : LibvirtDiskSpec} {document : VolumeDocument}
    (built : osDocument spec source os = .ok document) : document.name = volumeName spec.domainName os.name := by
  simp only [osDocument] at built
  split at built
  · exact (qcow2VolumeXml_eq_ok built).1
  · exact (qcow2OverlayVolumeXml_eq_ok built).1

theorem keeps_ensureDisks (within : pool.name = spec.pool) (source : StorageVol) :
    Calls (DiskCall spec) (ensureDisks pool spec source) fun _ => True := by
  unfold ensureDisks
  cases disks : spec.disks with
  | nil => rfl
  | cons os rest =>
    have own : ∀ disk ∈ os :: rest, disk ∈ spec.disks := fun disk member => disks ▸ member
    have member : volumeName spec.domainName os.name ∈ diskVolumes spec :=
      List.mem_map_of_mem (own os List.mem_cons_self)
    refine Heeds.bind (keeps_ensureVolume within member fun built same => osDocument_name same) fun osDisk => ?_
    exact Heeds.bind (keeps_ensureDataDisks within fun disk later => own disk (List.mem_cons_of_mem _ later))
      fun _ => rfl

/-! ## What is asked of the domain -/

/-- An observation of a machine says whether the installer is out just if the machine
has one, and it is out only once the installed guest has announced itself. -/
structure Observed.Of (spec : LibvirtMachineSpec) (alreadyDetached : Bool) (observed : Observed) : Prop where
  media : observed.installMediaDetached.isSome = needsInstallCdrom spec.bootSource
  kept : alreadyDetached = true → observed.installMediaDetached ≠ some false
  announced : observed.installMediaDetached = some true → alreadyDetached = true ∨
    observed.guest.isInstalled = true

section

variable {ejects : Bool} {domain : Domain} (named : domain.name = spec.domainName)

include named

theorem keeps_detachInstallMedia {alreadyDetached : Bool} (guest : GuestProbe)
    (ejecting : ejects = (needsInstallCdrom spec.bootSource && !alreadyDetached)) :
    Calls (DomainCall spec ejects) (detachInstallMedia spec alreadyDetached domain guest)
      fun media => media.isSome = needsInstallCdrom spec.bootSource ∧ (alreadyDetached = true → media ≠ some false) ∧
        (media = some true → alreadyDetached = true ∨ guest.isInstalled = true) := by
  cases needs : needsInstallCdrom spec.bootSource <;> cases alreadyDetached <;> cases installed : guest.isInstalled <;>
    simp [detachInstallMedia, shouldEjectInstallMedia, needs, installed, ejecting, named]

theorem keeps_observe {alreadyDetached : Bool} (published : Bool)
    (ejecting : ejects = (needsInstallCdrom spec.bootSource && !alreadyDetached)) :
    Calls (DomainCall spec ejects) (observe spec alreadyDetached published domain) (Observed.Of spec alreadyDetached) := by
  refine Heeds.bind (by simp [settlePower, startIfWanted, stopIfWanted, named]) fun state => ?_
  refine Heeds.bind (by simp [observeAddresses, named]) fun addresses => ?_
  refine Heeds.bind (by simp [askGuest, named]) fun guest => ?_
  refine Keeps.bind (keeps_detachInstallMedia named guest ejecting) fun media known => ?_
  refine Heeds.bind (by simp [askEk, named]) fun ek => ?_
  refine Heeds.bind (by simp [askSealed, named]) fun sealed => ?_
  have told (now : Timestamp) : Observed.Of spec alreadyDetached
      ⟨domain, state, addresses.1, addresses.2, guest, media, ek, sealed, now⟩ := ⟨known.1, known.2.1, known.2.2⟩
  simp [told]

end

/-! ## Whole passes -/

@[local simp]
theorem seed_mem_ownedVolumes : seedVolumeName spec.domainName ∈ ownedVolumes spec :=
  List.mem_append_right _ List.mem_cons_self

theorem keeps_ensureSeed (within : pool.name = spec.pool) (domain : Domain) :
    Calls (Own spec) (ensureSeed pool spec domain) fun _ => True := by
  unfold ensureSeed
  cases seedImage spec domain.uuid with
  | error reason => simp [ofIso, within]
  | ok image => simp +contextual [ofIso, rawVolumeXml, within]

variable {document : DomainDocument}

theorem document_name {uuid : Option Uuid} {cidata : Option StorageVol}
    (built : input.document uuid cidata = .ok document) : document.name = input.spec.domainName :=
  (buildDomainXml_eq_ok built).1

variable {permits : Call → Prop}

theorem keeps_ofDomainXml {α : Type} (outcome : Except DomainXmlError α) :
    Calls permits (ofDomainXml outcome) fun value => outcome = .ok value := by
  cases outcome <;> simp [ofDomainXml]

theorem keeps_defineDomain (named : document.name = spec.domainName) :
    Calls (Own spec) (defineDomain document) fun domain => domain.name = spec.domainName := by
  simp [named]

theorem keeps_defineWithSeed (within : pool.name = input.spec.pool) :
    Calls (Own input.spec) (defineWithSeed pool input) fun domain => domain.name = input.spec.domainName := by
  refine Heeds.bind (by simp) fun existing => ?_
  refine Keeps.bind (keeps_ofDomainXml _) fun document built => ?_
  refine Keeps.bind (keeps_defineDomain (document_name built)) fun domain named => ?_
  refine Heeds.bind (keeps_ensureSeed within domain) fun seed => ?_
  cases seed with
  | none => simp [named]
  | some seed => exact Keeps.bind (keeps_ofDomainXml _) fun document built => keeps_defineDomain (document_name built)

theorem keeps_lookupPool (permitted : permits (.lookupPool name)) :
    Calls permits (lookupPool name) fun found => ∀ pool, found = some pool → pool.name = name := by
  simp [permitted]

theorem keeps_lookupDomain (permitted : permits (.lookupDomain name)) :
    Calls permits (lookupDomain name) fun found => ∀ domain, found = some domain → domain.name = name := by
  simp [permitted]

theorem keeps_converge (alreadyDetached published : Bool) :
    Calls (Own spec) (converge spec alreadyDetached published) (Observed.Of spec alreadyDetached) := by
  refine Keeps.bind (keeps_lookupPool rfl) fun pool found => ?_
  cases pool with
  | none => rfl
  | some pool =>
    have within := found pool rfl
    refine Heeds.bind (by simp [within]) fun source => ?_
    cases source with
    | none => rfl
    | some source =>
      refine Heeds.bind (Keeps.permit (keeps_ensureDisks within source) fun _ => DiskCall.own) fun disks => ?_
      refine Keeps.bind (keeps_defineWithSeed within) fun domain named => ?_
      exact Keeps.permit (keeps_observe named published rfl) fun _ => DomainCall.own

theorem keeps_deleteVolumes (within : pool.name = spec.pool) {names : List String}
    (own : ∀ name ∈ names, name ∈ ownedVolumes spec) : Calls (Own spec) (deleteVolumes pool names) fun _ => True := by
  induction names with
  | nil => rfl
  | cons name rest ih =>
    have later := ih fun name later => own name (List.mem_cons_of_mem _ later)
    simp +contextual [deleteVolumes, deleteIfFound, later, within, own name List.mem_cons_self]

theorem keeps_finalizeBackend : Calls (Own spec) (finalizeBackend spec) fun _ => True := by
  refine Keeps.bind (keeps_lookupDomain rfl) fun found told => ?_
  refine Heeds.bind ?_ fun _ => Keeps.bind (keeps_lookupPool rfl) fun pool found => ?_
  · cases found with
    | none => rfl
    | some domain => simp [removeIfFound, removeDomain, stopIfRunning, told domain rfl]
  · cases pool with
    | none => rfl
    | some pool => exact keeps_deleteVolumes (found pool rfl) fun _ member => member

end Banlieue.ProviderLibvirt
