import Banlieue.Data.Attempt
import Banlieue.Data.Bytes
import Banlieue.ProviderLibvirt.Documents
import Mathlib.Data.List.AList

namespace Banlieue.ProviderLibvirt

open Banlieue.Api Banlieue.Data Banlieue.Infra Banlieue.Libvirt

/-! # The client of one host -/

/-- The errors the backend part of a pass can end with. -/
inductive Error where
  | libvirt (text : String)
  | invalid (what detail : String)
deriving DecidableEq

def Error.text : Error → String
  | .libvirt text => "libvirt: " ++ text
  | .invalid what detail => "invalid " ++ what ++ ": " ++ detail

inductive GuestProbe where
  | agentUnreachable | notAnnounced | installed
deriving DecidableEq

def GuestProbe.isInstalled (probe : GuestProbe) : Bool := probe == .installed

inductive EkProbe where
  | notPublished
  | mismatch
  | published (pem : String)
deriving DecidableEq

inductive Call where
  | lookupPool (name : String)
  | lookupVolume (pool : StoragePool) (name : String)
  | createVolume (pool : StoragePool) (document : VolumeDocument)
  | uploadVolume (volume : StorageVol) (data : List UInt8)
  | deleteVolume (volume : StorageVol)
  | refreshPool (pool : StoragePool)
  | lookupDomain (name : String)
  | defineDomain (document : DomainDocument)
  | startDomain (domain : Domain)
  | domainState (domain : Domain)
  | destroyDomain (domain : Domain)
  | undefineDomain (domain : Domain)
  | ejectInstallMedia (domain : Domain) (drive : DomainCdrom)
  | domainAddresses (domain : Domain)
  | probeGuest (domain : Domain)
  | readEkCertificate (domain : Domain) (domainName domainUuid : String)
  | readSealedReport (domain : Domain)
  | now

/-- What the guest is asked for is never an error. -/
abbrev Reply : Call → Type
  | .lookupPool _ => Except Error (Option StoragePool)
  | .lookupVolume _ _ => Except Error (Option StorageVol)
  | .createVolume _ _ => Except Error StorageVol
  | .uploadVolume _ _ => Except Error Unit
  | .deleteVolume _ => Except Error Unit
  | .refreshPool _ => Except Error Unit
  | .lookupDomain _ => Except Error (Option Domain)
  | .defineDomain _ => Except Error Domain
  | .startDomain _ => Except Error Domain
  | .domainState _ => Except Error DomainState
  | .destroyDomain _ => Except Error Unit
  | .undefineDomain _ => Except Error Unit
  | .ejectInstallMedia _ _ => Except Error Unit
  | .domainAddresses _ => Except Error (Option (List DomainInterface × InterfaceAddressSource))
  | .probeGuest _ => GuestProbe
  | .readEkCertificate _ _ _ => EkProbe
  | .readSealedReport _ => List String
  | .now => Timestamp

/-! # The host -/

structure Volume where
  document : VolumeDocument
  /-- The bytes of a raw volume; those of a qcow2 one are not looked at. -/
  content : List UInt8
deriving DecidableEq

/-- A new raw volume reads as zeros. -/
def Volume.blank (document : VolumeDocument) : Volume :=
  ⟨document, match document.format with | .raw => List.replicate document.capacity 0 | .qcow2 => []⟩

def Volume.write (volume : Volume) (data : List UInt8) : Volume :=
  { volume with content := patch volume.content 0 data }

structure DomainRecord where
  uuid : Uuid
  document : DomainDocument
deriving DecidableEq

structure Host where
  path : String → String → String
  pools : List String
  volumes : AList fun _ : String × String => Volume
  domains : AList fun _ : String => DomainRecord

/-- What becomes of a call: it is answered, it never arrives, it is carried out and
the answer is lost, or it is a transfer that ends after some bytes. -/
inductive Fate where
  | answered
  | dropped
  | unanswered
  | cut (written : Nat)
deriving DecidableEq

theorem length_zeros : (List.replicate 16 (0 : UInt8)).length = 16 := rfl

/-- What the host decides about a call, with what there is to report. -/
structure Decision where
  fate : Fate := .answered
  reason : String := "io: broken pipe"
  /-- The identifier for a domain that is defined for the first time. -/
  uuid : Uuid := ⟨List.replicate 16 0, length_zeros⟩
  state : DomainState := .running
  addresses : Option (List DomainInterface × InterfaceAddressSource) := none
  guest : GuestProbe := .agentUnreachable
  ek : EkProbe := .notPublished
  sealed : List String := []
  now : Timestamp := ⟨0⟩

def formatUuid (uuid : Uuid) : String :=
  let hex := uuid.bytes.flatMap fun byte => [hexChar (byte.toNat / 16), hexChar (byte.toNat % 16)]
  String.ofList (slice hex 0 8) ++ "-" ++ String.ofList (slice hex 8 4) ++ "-" ++
    String.ofList (slice hex 12 4) ++ "-" ++ String.ofList (slice hex 16 4) ++ "-" ++
    String.ofList (slice hex 20 12)

/-- The reply the client gets and the host that is left, for a call that would be
carried out as `carriedOut`. -/
def Decision.deliver {ρ : Type} (decision : Decision) (host : Host)
    (carriedOut : Except Error ρ × Host) : Except Error ρ × Host :=
  match decision.fate with
  | .answered => carriedOut
  | .dropped | .cut _ => (.error (.libvirt decision.reason), host)
  | .unanswered => (.error (.libvirt decision.reason), carriedOut.2)

namespace Host

variable (host : Host)

def handle (pool name : String) : StorageVol := ⟨pool, name, host.path pool name⟩

def refused {ρ : Type} (text : String) : Except Error ρ × Host := (.error (.libvirt text), host)

def createVolume (pool : StoragePool) (document : VolumeDocument) : Except Error StorageVol × Host :=
  if pool.name ∉ host.pools then host.refused "libvirt error (code 49): Storage pool not found"
  else if (host.volumes.lookup (pool.name, document.name)).isSome then
    host.refused "libvirt error (code 90): storage volume exists already"
  else
    (.ok (host.handle pool.name document.name),
      { host with volumes := host.volumes.insert (pool.name, document.name) (.blank document) })

def writeVolume (volume : StorageVol) (data : List UInt8) : Except Error Unit × Host :=
  match host.volumes.lookup (volume.pool, volume.name) with
  | none => host.refused "libvirt error (code 50): Storage volume not found"
  | some stored =>
    (.ok (), { host with volumes := host.volumes.insert (volume.pool, volume.name) (stored.write data) })

/-- A domain is known by its identifier: a document for one that exists names it. -/
def defineDomain (fresh : Uuid) (document : DomainDocument) : Except Error Domain × Host :=
  match host.domains.lookup document.name with
  | some record =>
    if document.uuid = some (formatUuid record.uuid) then
      (.ok ⟨document.name, record.uuid⟩,
        { host with domains := host.domains.insert document.name ⟨record.uuid, document⟩ })
    else host.refused "libvirt error (code 9): operation failed: domain already exists"
  | none =>
    if document.uuid.all (· == formatUuid fresh) then
      (.ok ⟨document.name, fresh⟩,
        { host with domains := host.domains.insert document.name ⟨fresh, document⟩ })
    else host.refused "libvirt error (code 27): XML error: malformed uuid element"

def updatedDrives (drive : DomainCdrom) (document : DomainDocument) : DomainDocument :=
  { document with
    cdroms := document.cdroms.map fun cdrom => if cdrom.target = drive.target then drive else cdrom }

def updateDrive (domain : Domain) (drive : DomainCdrom) : Except Error Unit × Host :=
  match host.domains.lookup domain.name with
  | some record =>
    if record.document.cdroms.any (·.target == drive.target) then
      (.ok (), { host with
        domains := host.domains.insert domain.name ⟨record.uuid, updatedDrives drive record.document⟩ })
    else host.refused "libvirt error (code 55): device not found"
  | none => host.refused "libvirt error (code 42): Domain not found"

/-- A transfer that ends early has written what it had sent. -/
def uploadVolume (decision : Decision) (volume : StorageVol) (data : List UInt8) : Except Error Unit × Host :=
  match decision.fate with
  | .cut written => (.error (.libvirt decision.reason), (host.writeVolume volume (data.take written)).2)
  | _ => decision.deliver host (host.writeVolume volume data)

def serve (decision : Decision) : (call : Call) → Reply call × Host
  | .lookupPool name =>
    decision.deliver host (.ok (if name ∈ host.pools then some ⟨name⟩ else none), host)
  | .lookupVolume pool name =>
    decision.deliver host
      (.ok ((host.volumes.lookup (pool.name, name)).map fun _ => host.handle pool.name name), host)
  | .createVolume pool document => decision.deliver host (host.createVolume pool document)
  | .uploadVolume volume data => host.uploadVolume decision volume data
  | .deleteVolume volume =>
    decision.deliver host (.ok (), { host with volumes := host.volumes.erase (volume.pool, volume.name) })
  | .refreshPool _ => decision.deliver host (.ok (), host)
  | .lookupDomain name =>
    decision.deliver host (.ok ((host.domains.lookup name).map fun record => ⟨name, record.uuid⟩), host)
  | .defineDomain document => decision.deliver host (host.defineDomain decision.uuid document)
  | .startDomain domain => decision.deliver host (.ok domain, host)
  | .domainState _ => decision.deliver host (.ok decision.state, host)
  | .destroyDomain _ => decision.deliver host (.ok (), host)
  | .undefineDomain domain =>
    decision.deliver host (.ok (), { host with domains := host.domains.erase domain.name })
  | .ejectInstallMedia domain drive => decision.deliver host (host.updateDrive domain drive)
  | .domainAddresses _ => decision.deliver host (.ok decision.addresses, host)
  | .probeGuest _ => (decision.guest, host)
  | .readEkCertificate _ _ _ => (decision.ek, host)
  | .readSealedReport _ => (decision.sealed, host)
  | .now => (decision.now, host)

end Host

/-! ## What a call can change -/

def Call.volumeTarget : Call → Option (String × String)
  | .createVolume pool document => some (pool.name, document.name)
  | .uploadVolume volume _ | .deleteVolume volume => some (volume.pool, volume.name)
  | _ => none

def Call.domainTarget : Call → Option String
  | .defineDomain document => some document.name
  | .undefineDomain domain | .ejectInstallMedia domain _ => some domain.name
  | _ => none

theorem Decision.deliver_state {ρ : Type} {decision : Decision} {host : Host} {carriedOut : Except Error ρ × Host}
    {P : Host → Prop} (unchanged : P host) (changed : P carriedOut.2) : P (decision.deliver host carriedOut).2 := by
  cases fate : decision.fate <;> simpa [deliver, fate]

namespace Host

/-- All but this volume and this domain are as before. -/
structure Spares (volume : Option (String × String)) (domain : Option String) (before after : Host) : Prop where
  path : after.path = before.path
  volumes : ∀ {key}, volume ≠ some key → after.volumes.lookup key = before.volumes.lookup key
  domains : ∀ {name}, domain ≠ some name → after.domains.lookup name = before.domains.lookup name

variable {host : Host} {volume : Option (String × String)} {domain : Option String}

theorem Spares.refl : Spares volume domain host host := ⟨rfl, fun _ => rfl, fun _ => rfl⟩

theorem Spares.insertVolume {key : String × String} {stored : Volume} :
    Spares (some key) domain host { host with volumes := host.volumes.insert key stored } :=
  ⟨rfl, fun other => AList.lookup_insert_ne fun same => other (congrArg some same.symm), fun _ => rfl⟩

theorem Spares.insertDomain {name : String} {record : DomainRecord} :
    Spares volume (some name) host { host with domains := host.domains.insert name record } :=
  ⟨rfl, fun _ => rfl, fun other => AList.lookup_insert_ne fun same => other (congrArg some same.symm)⟩

theorem spares_writeVolume (volume : StorageVol) (data : List UInt8) :
    Spares (some (volume.pool, volume.name)) domain host (host.writeVolume volume data).2 := by
  unfold writeVolume
  split
  · exact .refl
  · exact .insertVolume

theorem spares_served (host : Host) (decision : Decision) (call : Call) :
    Spares call.volumeTarget call.domainTarget host (host.serve decision call).2 := by
  cases call with
  | createVolume pool document =>
    refine Decision.deliver_state .refl ?_
    unfold createVolume
    split
    · exact .refl
    · split
      · exact .refl
      · exact .insertVolume
  | uploadVolume volume data =>
    simp only [serve, uploadVolume]
    split
    · exact spares_writeVolume volume _
    · exact Decision.deliver_state .refl (spares_writeVolume volume data)
  | deleteVolume volume =>
    exact Decision.deliver_state .refl
      ⟨rfl, fun other => AList.lookup_erase_ne fun same => other (congrArg some same.symm), fun _ => rfl⟩
  | undefineDomain domain =>
    exact Decision.deliver_state .refl
      ⟨rfl, fun _ => rfl, fun other => AList.lookup_erase_ne fun same => other (congrArg some same.symm)⟩
  | defineDomain document =>
    refine Decision.deliver_state .refl ?_
    unfold defineDomain
    split <;> split
    · exact .insertDomain
    · exact .refl
    · exact .insertDomain
    · exact .refl
  | ejectInstallMedia domain drive =>
    refine Decision.deliver_state .refl ?_
    unfold updateDrive
    split
    · split
      · exact .insertDomain
      · exact .refl
    · exact .refl
  | probeGuest _ | readEkCertificate _ _ _ | readSealedReport _ | now => exact .refl
  | _ => exact Decision.deliver_state .refl .refl

theorem serve_uuid (host : Host) (decision : Decision) {call : Call}
    (defined : ∀ domain, call ≠ .undefineDomain domain) {name : String} {record : DomainRecord}
    (found : host.domains.lookup name = some record) :
    ∃ after, (host.serve decision call).2.domains.lookup name = some after ∧ after.uuid = record.uuid := by
  by_cases target : call.domainTarget = some name
  · cases call <;> simp only [Call.domainTarget, reduceCtorEq, Option.some.injEq] at target
    case defineDomain document =>
      subst target
      refine Decision.deliver_state (P := fun last => ∃ after, last.domains.lookup _ = some after ∧ after.uuid = _)
        ⟨record, found, rfl⟩ ?_
      simp only [defineDomain, found]
      split
      · exact ⟨_, AList.lookup_insert _, rfl⟩
      · exact ⟨record, found, rfl⟩
    case undefineDomain domain => exact absurd rfl (defined domain)
    case ejectInstallMedia domain drive =>
      subst target
      refine Decision.deliver_state (P := fun last => ∃ after, last.domains.lookup _ = some after ∧ after.uuid = _)
        ⟨record, found, rfl⟩ ?_
      simp only [updateDrive, found]
      split
      · exact ⟨_, AList.lookup_insert _, rfl⟩
      · exact ⟨record, found, rfl⟩
  · exact ⟨record, ((spares_served host decision call).domains target).trans found, rfl⟩

end Host

/-- The host for one pass after another. -/
abbrev hostBackend : Backend Call Reply := ⟨Host, Decision, Host.serve⟩

end Banlieue.ProviderLibvirt
