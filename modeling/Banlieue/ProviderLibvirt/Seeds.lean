import Banlieue.Cloudinit.Seed
import Banlieue.ProviderLibvirt.Names

namespace Banlieue.ProviderLibvirt

open Banlieue.Api Banlieue.Cloudinit Banlieue.Data Banlieue.Data.Program Banlieue.Infra Banlieue.Libvirt

/-! # Seeds over a sequence of passes -/

def createsRaw : Call → Bool
  | .createVolume _ document => document.format == .raw
  | _ => false

def uploads : Call → Bool
  | .uploadVolume _ _ => true
  | _ => false

/-- A seed that was created is uploaded to its end: the pass hears of the volume, and
nothing stops it or cuts the upload short. -/
def Uncut (_ : Host) (call : Call) (decision : Option Decision) : Prop :=
  (createsRaw call = true → decision.map Decision.fate ≠ some .unanswered) ∧
    (uploads call = true → decision.map Decision.fate = some .answered)

instance (host : Host) (call : Call) (decision : Option Decision) : Decidable (Uncut host call decision) :=
  inferInstanceAs (Decidable (_ ∧ _))

/-- Every seed of a domain is one that was built for it, by the description of some
machine that is `known`. -/
def Whole (known : LibvirtMachineSpec → Prop) (host : Host) : Prop :=
  ∀ pool domainName volume, host.volumes.lookup (pool, seedVolumeName domainName) = some volume →
    ∃ record, host.domains.lookup domainName = some record ∧
      ∃ spec, known spec ∧ spec.domainName = domainName ∧ seedImage spec record.uuid = .ok volume.content

/-- The domain reads its seed from a drive of its own, and the seed is a whole one. -/
def Seeded (known : LibvirtMachineSpec → Prop) (spec : LibvirtMachineSpec) (host : Host) : Prop :=
  ∃ record cdrom volume, host.domains.lookup spec.domainName = some record ∧
    cdrom ∈ record.document.cdroms ∧ cdrom.path = some (host.path spec.pool (seedVolumeName spec.domainName)) ∧
    host.volumes.lookup (spec.pool, seedVolumeName spec.domainName) = some volume ∧
    ∃ builder, known builder ∧ builder.domainName = spec.domainName ∧
      seedImage builder record.uuid = .ok volume.content

variable {known : LibvirtMachineSpec → Prop} {host : Host} {spec : LibvirtMachineSpec}

/-! ## Calls that are not about seeds -/

/-- Neither a seed nor the end of a domain. -/
structure Calm (call : Call) : Prop where
  volume : ∀ pool domainName, call.volumeTarget ≠ some (pool, seedVolumeName domainName)
  domain : ∀ domain, call ≠ .undefineDomain domain

variable {call : Call}

theorem Whole.served (whole : Whole known host) (calm : Calm call) (decision : Decision) :
    Whole known (host.serve decision call).2 := by
  intro pool domainName volume found
  rw [(host.spares_served decision call).volumes (calm.volume pool domainName)] at found
  obtain ⟨record, defined, builder, member, named, built⟩ := whole pool domainName volume found
  obtain ⟨after, kept, same⟩ := Host.serve_uuid host decision calm.domain defined
  exact ⟨after, kept, builder, member, named, same ▸ built⟩

theorem DiskCall.calm (disk : DiskCall spec call) : Calm call := by
  cases call <;> try exact disk.elim
  case lookupVolume pool name => exact ⟨fun _ _ => nofun, nofun⟩
  case createVolume pool document =>
    refine ⟨fun other domainName same => ?_, nofun⟩
    obtain ⟨member, -, named⟩ := List.mem_map.mp disk.2
    have equal : document.name = seedVolumeName domainName := (Prod.mk.inj (Option.some.inj same)).2
    exact volumeName_ne_seedVolumeName _ _ _ (named.trans equal)
  case refreshPool pool => exact ⟨fun _ _ => nofun, nofun⟩

variable {ejects : Bool}

theorem DomainCall.calm (domain : DomainCall spec ejects call) : Calm call := by
  cases call <;> first | exact domain.elim | exact ⟨fun _ _ => nofun, nofun⟩

/-! ## One call after another -/

theorem secured_lookupVolume {allowed : Host → Call → Option Decision → Prop} {safe : Host → Prop}
    (holds : safe host) (pool : StoragePool) (name : String) :
    Secured allowed safe (lookupVolume pool name) host fun found last =>
      last = host ∧ found = (host.volumes.lookup (pool.name, name)).map fun _ => host.handle pool.name name := by
  have unchanged (decision : Decision) : (host.serve decision (.lookupVolume pool name)).2 = host :=
    Decision.deliver_state (P := (· = host)) rfl rfl
  refine ⟨fun _ => holds, ?_⟩
  rintro _ _ ⟨decision, -, rfl, rfl⟩
  refine either_intro (fun found same => ⟨unchanged decision, ?_⟩) fun reason _ => ?_
  · obtain ⟨-, -, replied⟩ := Decision.deliver_ok same
    exact (Except.ok.inj replied).symm
  · exact (unchanged decision).symm ▸ holds

theorem secured_calm {α : Type} {pass : Pass α} {permits : Call → Prop} {post : α → Prop}
    (keeps : Calls permits pass post) (calm : ∀ call, permits call → Calm call) (whole : Whole known host) :
    Secured Uncut (Whole known) pass host fun value last => post value ∧ Whole known last :=
  Keeps.secures keeps (fun host call decision => Host.serve_truthful host call decision)
    (fun _ call decision permitted _ whole => Whole.served whole (calm call permitted) decision)
    (fun _ whole => whole) whole

variable {document : DomainDocument}

theorem secured_defineDomain (whole : Whole known host) :
    Secured Uncut (Whole known) (defineDomain document) host fun domain last =>
      domain.name = document.name ∧ Whole known last ∧
        last.domains.lookup document.name = some ⟨domain.uuid, document⟩ ∧
        last.volumes = host.volumes ∧ last.path = host.path := by
  have calm : Calm (.defineDomain document) := ⟨fun _ _ => nofun, nofun⟩
  refine ⟨fun _ => whole, ?_⟩
  rintro _ _ ⟨decision, -, rfl, rfl⟩
  refine either_intro (fun domain same => ?_) fun _ _ => whole.served calm decision
  obtain ⟨-, kept, replied⟩ := Decision.deliver_ok same
  obtain ⟨named, defined⟩ := Host.defineDomain_ok replied
  have last : (host.serve decision (.defineDomain document)).2 = _ := (congrArg Prod.snd kept).trans defined
  refine ⟨named, whole.served calm decision, ?_, ?_, ?_⟩
  · exact (congrArg (·.domains.lookup document.name) last).trans (AList.lookup_insert _)
  · exact (congrArg Host.volumes last).trans rfl
  · exact (congrArg Host.path last).trans rfl

variable {pool : StoragePool}

theorem secured_refreshPool (whole : Whole known host) :
    Secured Uncut (Whole known) (refreshPool pool) host fun _ last => last = host := by
  have unchanged (decision : Decision) : (host.serve decision (.refreshPool pool)).2 = host :=
    Decision.deliver_state (P := (· = host)) rfl rfl
  refine ⟨fun _ => whole, ?_⟩
  rintro _ _ ⟨decision, -, rfl, rfl⟩
  exact either_intro (fun _ _ => unchanged decision) fun _ _ => (unchanged decision).symm ▸ whole

theorem secured_createSeed {name : String} {size : Nat} (whole : Whole known host) :
    Secured Uncut (Whole known) (createVolume pool (rawVolumeXml name size)) host fun volume last =>
      volume = host.handle pool.name name ∧
        last = { host with
          volumes := host.volumes.insert (pool.name, name) (.blank (rawVolumeXml name size)) } := by
  refine ⟨fun _ => whole, ?_⟩
  rintro _ _ ⟨decision, permitted, rfl, rfl⟩
  refine either_intro (fun volume same => ?_) fun reason same => ?_
  · obtain ⟨-, kept, replied⟩ := Decision.deliver_ok same
    obtain ⟨rfl, created⟩ := Host.createVolume_ok replied
    exact ⟨rfl, (congrArg Prod.snd kept).trans created⟩
  · have heard : decision.fate ≠ .unanswered := fun lost => permitted.1 rfl (congrArg some lost)
    exact (Host.deliver_createVolume_error heard same).symm ▸ whole

variable {record : DomainRecord} (whole : Whole known host)

include whole

theorem whole_uploaded {pool : String} {volume : Volume} (defined : host.domains.lookup spec.domainName = some record)
    (member : known spec) (built : seedImage spec record.uuid = .ok volume.content) :
    Whole known { host with
      volumes := host.volumes.insert (pool, seedVolumeName spec.domainName) volume } := by
  intro other domainName found present
  by_cases same : (other, seedVolumeName domainName) = (pool, seedVolumeName spec.domainName)
  · obtain ⟨rfl, equal⟩ := Prod.mk.inj same
    obtain rfl := seedVolumeName_eq_iff.mp equal
    have stored : some volume = some found := (AList.lookup_insert _).symm.trans present
    obtain rfl := Option.some.inj stored
    exact ⟨record, defined, spec, member, rfl, built⟩
  · exact whole other domainName found ((AList.lookup_insert_ne same).symm.trans present)

theorem secured_uploadSeed {pool : String} {image : List UInt8}
    (defined : host.domains.lookup spec.domainName = some record)
    (member : known spec) (built : seedImage spec record.uuid = .ok image) :
    Secured Uncut (Whole known) (uploadVolume (host.handle pool (seedVolumeName spec.domainName)) image)
      { host with
        volumes := host.volumes.insert (pool, seedVolumeName spec.domainName)
          (.blank (rawVolumeXml (seedVolumeName spec.domainName) image.length)) }
      fun _ last => Whole known last ∧ last.domains = host.domains ∧ last.path = host.path ∧
        (last.volumes.lookup (pool, seedVolumeName spec.domainName)).isSome := by
  refine ⟨fun stopped => absurd (stopped.2 rfl) nofun, ?_⟩
  rintro _ _ ⟨decision, permitted, rfl, rfl⟩
  have answered : decision.fate = .answered := Option.some.inj (permitted.2 rfl)
  have served : Host.serve { host with
        volumes := host.volumes.insert (pool, seedVolumeName spec.domainName)
          (.blank (rawVolumeXml (seedVolumeName spec.domainName) image.length)) } decision
        (.uploadVolume (host.handle pool (seedVolumeName spec.domainName)) image) =
      (.ok (), { host with
        volumes := host.volumes.insert (pool, seedVolumeName spec.domainName)
          ((Volume.blank (rawVolumeXml (seedVolumeName spec.domainName) image.length)).write image) }) := by
    simp only [Host.serve, Host.uploadVolume, Decision.deliver, answered, Host.writeVolume, Host.handle,
      AList.lookup_insert, AList.insert_insert]
  have last := congrArg Prod.snd served
  refine either_intro (fun _ _ => ⟨?_, ?_, ?_, ?_⟩) fun reason failed => ?_
  · rw [last]
    exact whole_uploaded whole defined member (by rw [Host.write_blank]; exact built)
  · exact (congrArg Host.domains last).trans rfl
  · exact (congrArg Host.path last).trans rfl
  · rw [last, AList.lookup_insert]
    rfl
  · cases (congrArg Prod.fst served).symm.trans failed

theorem secured_ofIso {image : Except IsoError (List UInt8)} :
    Secured Uncut (Whole known) (ofIso image) host fun value last => image = .ok value ∧ last = host := by
  cases image with
  | ok value => exact Secures.pure ⟨rfl, rfl⟩
  | error reason => exact Secures.throw whole

theorem secured_ofDomainXml {document : Except DomainXmlError DomainDocument} :
    Secured Uncut (Whole known) (ofDomainXml document) host fun value last => document = .ok value ∧ last = host := by
  cases document with
  | ok value => exact Secures.pure ⟨rfl, rfl⟩
  | error reason => exact Secures.throw whole

omit whole

/-! ## The seed of one machine -/

theorem secured_ensureSeed {domain : Domain}
    (whole : Whole known host) (defined : host.domains.lookup spec.domainName = some record)
    (identified : domain.uuid = record.uuid) (member : known spec) :
    Secured Uncut (Whole known) (ensureSeed pool spec domain) host fun seed last =>
      seed = some (host.handle pool.name (seedVolumeName spec.domainName)) ∧ Whole known last ∧
        last.domains = host.domains ∧ last.path = host.path ∧
        (last.volumes.lookup (pool.name, seedVolumeName spec.domainName)).isSome := by
  refine Secures.bind (secured_lookupVolume whole pool _) ?_
  rintro found last ⟨rfl, told⟩
  cases stored : last.volumes.lookup (pool.name, seedVolumeName spec.domainName) with
  | some volume =>
    rw [stored] at told
    obtain rfl := told
    exact Secures.pure ⟨rfl, whole, rfl, rfl, by rw [stored]; rfl⟩
  | none =>
    rw [stored] at told
    obtain rfl := told
    refine Secures.bind (secured_ofIso whole) ?_
    rintro image last ⟨built, rfl⟩
    rw [identified] at built
    refine Secures.bind (secured_createSeed whole) ?_
    rintro volume created ⟨rfl, rfl⟩
    refine Secures.bind (secured_uploadSeed whole defined member built) ?_
    rintro _ uploaded ⟨whole, domains, path, present⟩
    refine Secures.bind (secured_refreshPool whole) ?_
    rintro _ last rfl
    exact Secures.pure ⟨rfl, whole, domains, path, present⟩

/-- The domain has the seed in a drive that the ejection of the installer does not
concern. -/
def Attached (spec : LibvirtMachineSpec) (ejects : Bool) (host : Host) : Prop :=
  ∃ record cdrom, host.domains.lookup spec.domainName = some record ∧ cdrom ∈ record.document.cdroms ∧
    cdrom.path = some (host.path spec.pool (seedVolumeName spec.domainName)) ∧
    (ejects = true → cdrom.target ≠ ejectedInstallCdromXml.target) ∧
    (host.volumes.lookup (spec.pool, seedVolumeName spec.domainName)).isSome

theorem cidata_mem_cdroms {input : DocumentInput} {uuid : Option Uuid} {seed : StorageVol}
    (built : input.document uuid (some seed) = .ok document) : ∃ cdrom ∈ document.cdroms, cdrom.path = some seed.key ∧
      ((needsInstallCdrom input.spec.bootSource && !input.alreadyDetached) = true →
        cdrom.target ≠ ejectedInstallCdromXml.target) := by
  obtain ⟨-, -, iso, found, rendered⟩ := buildDomainXml_eq_ok built
  have cdroms := renderCdroms_eq_ok rendered
  cases iso with
  | none =>
    refine ⟨⟨some seed.key, "sda"⟩, by rw [cdroms]; simp [deviceLetter], rfl, fun ejects => ?_⟩
    -- without an installer there is nothing to eject
    simp only [needsInstallCdrom, Bool.and_eq_true, beq_iff_eq, Bool.not_eq_true'] at ejects
    simp only [installIso, ejects.1, ejects.2, Bool.false_eq_true, if_false] at found
    cases given : input.installIso <;> simp only [given] at found <;> cases found
  | some path =>
    refine ⟨⟨some seed.key, "sdb"⟩, by rw [cdroms]; simp [deviceLetter], rfl, fun _ => ?_⟩
    change "sdb" ≠ "sda"
    decide

theorem secured_defineWithSeed {input : DocumentInput}
    (within : pool.name = input.spec.pool) (whole : Whole known host) (member : known input.spec) :
    Secured Uncut (Whole known) (defineWithSeed pool input) host fun domain last =>
      domain.name = input.spec.domainName ∧ Whole known last ∧
        Attached input.spec (needsInstallCdrom input.spec.bootSource && !input.alreadyDetached) last := by
  have looked : Calls (· = Call.lookupDomain input.spec.domainName) (lookupDomain input.spec.domainName) _ :=
    keeps_lookupDomain rfl
  refine Secures.bind (secured_calm looked (by rintro _ rfl; exact ⟨fun _ _ => nofun, nofun⟩) whole) ?_
  rintro existing host ⟨-, whole⟩
  refine Secures.bind (secured_ofDomainXml whole) ?_
  rintro document host ⟨built, rfl⟩
  have named := document_name built
  refine Secures.bind (secured_defineDomain whole) ?_
  rintro domain host ⟨-, whole, defined, -, -⟩
  rw [named] at defined
  refine Secures.bind (secured_ensureSeed whole defined rfl member) ?_
  rintro seed seeded ⟨rfl, whole, -, path, present⟩
  refine Secures.bind (secured_ofDomainXml whole) ?_
  rintro document seeded ⟨built, rfl⟩
  have named := document_name built
  refine (secured_defineDomain whole).mono ?_
  rintro domain last ⟨called, whole, defined, volumes, path'⟩
  obtain ⟨cdrom, drive, medium, clear⟩ := cidata_mem_cdroms built
  rw [named] at defined called
  refine ⟨called, whole, _, cdrom, defined, drive, ?_, clear, ?_⟩
  · rw [medium, path', path, ← within]
    rfl
  · rw [volumes, ← within]
    exact present

theorem drives_served (permitted : DomainCall spec ejects call) (decision : Decision) {cdrom : DomainCdrom}
    (defined : host.domains.lookup spec.domainName = some record) (drive : cdrom ∈ record.document.cdroms)
    (clear : ejects = true → cdrom.target ≠ ejectedInstallCdromXml.target) :
    ∃ after, (host.serve decision call).2.domains.lookup spec.domainName = some after ∧
      cdrom ∈ after.document.cdroms := by
  by_cases target : call.domainTarget = some spec.domainName
  · cases call <;> simp only [Call.domainTarget, reduceCtorEq, Option.some.injEq] at target
    case defineDomain document => exact permitted.elim
    case undefineDomain domain => exact permitted.elim
    case ejectInstallMedia domain ejected =>
      obtain ⟨named, ejecting, rfl⟩ := permitted
      rw [← named] at defined ⊢
      refine Decision.deliver_state (P := fun last => ∃ after, last.domains.lookup _ = some after ∧
        cdrom ∈ after.document.cdroms) ⟨record, defined, drive⟩ ?_
      simp only [Host.updateDrive, defined]
      split
      · exact ⟨_, AList.lookup_insert _, List.mem_map.mpr ⟨cdrom, drive, if_neg (clear ejecting)⟩⟩
      · exact ⟨record, defined, drive⟩
  · exact ⟨record, ((host.spares_served decision call).domains target).trans defined, drive⟩

theorem Attached.served (attached : Attached spec ejects host)
    (permitted : DomainCall spec ejects call) (decision : Decision) :
    Attached spec ejects (host.serve decision call).2 := by
  obtain ⟨record, cdrom, defined, drive, medium, clear, present⟩ := attached
  obtain ⟨after, defined, drive⟩ := drives_served permitted decision defined drive clear
  have spares := host.spares_served decision call
  refine ⟨after, cdrom, defined, drive, ?_, clear, ?_⟩
  · rw [spares.path]
    exact medium
  · rw [spares.volumes (permitted.calm.volume _ _)]
    exact present

theorem seeded_of_attached (whole : Whole known host) (attached : Attached spec ejects host) :
    Seeded known spec host := by
  obtain ⟨record, cdrom, defined, drive, medium, -, present⟩ := attached
  obtain ⟨volume, found⟩ := Option.isSome_iff_exists.mp present
  obtain ⟨owner, defined', builder, member, named, built⟩ := whole _ _ volume found
  obtain rfl : record = owner := Option.some.inj (defined.symm.trans defined')
  exact ⟨record, cdrom, volume, defined, drive, medium, found, builder, member, named, built⟩

/-! ## One pass -/

theorem secured_converge (alreadyDetached published : Bool) (whole : Whole known host) (member : known spec) :
    Secured Uncut (Whole known) (converge spec alreadyDetached published) host fun _ last =>
      Whole known last ∧ Seeded known spec last := by
  have pooled : Calls (· = Call.lookupPool spec.pool) (lookupPool spec.pool) _ := keeps_lookupPool rfl
  refine Secures.bind (secured_calm pooled (by rintro _ rfl; exact ⟨fun _ _ => nofun, nofun⟩) whole) ?_
  rintro pool host ⟨found, whole⟩
  cases pool with
  | none => exact Secures.throw whole
  | some pool =>
    have within := found pool rfl
    refine Secures.bind (secured_lookupVolume whole pool _) ?_
    rintro source host ⟨rfl, -⟩
    cases source with
    | none => exact Secures.throw whole
    | some source =>
      refine Secures.bind (secured_calm (keeps_ensureDisks within source) (fun _ => DiskCall.calm) whole) ?_
      rintro ⟨osDisk, extraDisks⟩ host ⟨-, whole⟩
      refine Secures.bind (secured_defineWithSeed within whole member) ?_
      rintro domain host ⟨named, whole, attached⟩
      have observed : Secured Uncut (Whole known) (observe spec alreadyDetached published domain) host
          fun observed last => observed.Of spec alreadyDetached ∧ Whole known last ∧
            Attached spec (needsInstallCdrom spec.bootSource && !alreadyDetached) last :=
        Keeps.secures (keeps_observe named published rfl)
          (fun host call decision => Host.serve_truthful host call decision)
          (fun _ _ decision permitted _ kept =>
            ⟨kept.1.served permitted.calm decision, kept.2.served permitted decision⟩)
          (fun _ kept => kept.1) ⟨whole, attached⟩
      refine observed.mono ?_
      rintro _ last ⟨-, whole, attached⟩
      exact ⟨whole, seeded_of_attached whole attached⟩

/-! ## Sequences of passes -/

/-- A pass for a machine, with what the host decides about its calls. -/
structure ConvergePass (μ : Type) where
  machine : μ
  spec : LibvirtMachineSpec
  alreadyDetached : Bool := false
  published : Bool := false
  decisions : List Decision

section

variable {μ : Type}

def ConvergePass.attempt (pass : ConvergePass μ) : Attempt hostBackend (Except Error Observed) :=
  ⟨(converge pass.spec pass.alreadyDetached pass.published).run, pass.decisions⟩

/-- The host after the passes. -/
def afterPasses (passes : List (ConvergePass μ)) (host : Host) : Host :=
  Attempt.lastOf (passes.map ConvergePass.attempt) host

/-- Where no pass is stopped or cut short between the creation of a seed and the end of
its upload, a pass that succeeds leaves its machine a seed that was built for it. -/
theorem seeds_whole (passes : List (ConvergePass μ)) (last : ConvergePass μ) (host : Host)
    (fresh : ∀ pool domainName, host.volumes.lookup (pool, seedVolumeName domainName) = none)
    (named : ∀ pass ∈ passes, pass.spec.domainName = last.spec.domainName → pass.machine = last.machine)
    (uncut : Attempt.AllWithin Uncut ((passes ++ [last]).map ConvergePass.attempt) host)
    (observed : Observed) (returned : last.attempt.result (afterPasses passes host) = some (.ok observed)) :
    Seeded (fun spec => ∃ pass ∈ passes ++ [last], pass.machine = last.machine ∧ pass.spec = spec) last.spec
      (last.attempt.last (afterPasses passes host)) := by
  rw [List.map_append] at uncut
  obtain ⟨before, within, -⟩ := Attempt.AllWithin.split uncut
  have whole : Whole (fun spec => ∃ pass ∈ passes ++ [last], pass.spec = spec) (afterPasses passes host) := by
    refine before.safe_lastOf (fun attempt member host whole => ?_) fun pool domainName volume found => ?_
    · obtain ⟨pass, listed, rfl⟩ := List.mem_map.mp member
      exact (secured_converge _ _ whole ⟨pass, List.mem_append_left _ listed, rfl⟩).mono fun _ _ reached => reached.1
    · rw [fresh] at found
      cases found
  have secured := secured_converge last.alreadyDetached last.published whole
    ⟨last, List.mem_append_right _ List.mem_cons_self, rfl⟩
  obtain ⟨-, record, cdrom, volume, defined, drive, medium, found, builder, ⟨pass, member, rfl⟩, same, built⟩ :=
    (secured.attempt within).1 observed returned
  refine ⟨record, cdrom, volume, defined, drive, medium, found, pass.spec, ⟨pass, member, ?_, rfl⟩, same, built⟩
  rcases List.mem_append.mp member with earlier | own
  · exact named pass earlier same
  · rw [List.mem_singleton.mp own]

end

/-! ## An upload that fails -/

/-- A host with an image for machines to start from. -/
def imageHost : Host where
  path pool name := "/var/lib/" ++ pool ++ "/" ++ name
  pools := ["default"]
  volumes := AList.insert ("default", "alpine.raw") (.blank (rawVolumeXml "alpine.raw" 1)) ∅
  domains := ∅

theorem imageHost_fresh (pool domainName : String) :
    imageHost.volumes.lookup (pool, seedVolumeName domainName) = none := by
  have other : (pool, seedVolumeName domainName) ≠ ("default", "alpine.raw") := by
    intro same
    have last := congrArg (fun key => key.2.toList.reverse.head?) same
    simp [seedVolumeName] at last
  rw [imageHost, AList.lookup_insert_ne other]
  rfl

/-- A pass whose calls meet these fates, one after the other. -/
def passOf (fates : List Fate) : ConvergePass Unit :=
  ⟨(), (machineOf "dev" "web" "os").2, false, false, fates.map fun fate => { fate := fate }⟩

/-- Two lookups, three calls for the disk, two for the domain, four for the seed and the
rest. -/
def smooth : List Fate := List.replicate 16 .answered

def succeeded : Option (Except Error Observed) → Bool
  | some (.ok _) => true
  | _ => false

theorem exists_of_succeeded {result : Option (Except Error Observed)} (success : succeeded result = true) :
    ∃ observed, result = some (.ok observed) := by
  match result with
  | some (.ok observed) => exact ⟨observed, rfl⟩

theorem seed_whole_after_smooth_pass :
    ∃ observed, (passOf smooth).attempt.result (afterPasses [passOf [.dropped]] imageHost) = some (.ok observed) ∧
      Seeded (fun spec => ∃ pass ∈ [passOf [.dropped]] ++ [passOf smooth], pass.machine = (passOf smooth).machine ∧
        pass.spec = spec) (passOf smooth).spec
        ((passOf smooth).attempt.last (afterPasses [passOf [.dropped]] imageHost)) := by
  have success : succeeded ((passOf smooth).attempt.result (afterPasses [passOf [.dropped]] imageHost)) = true := by
    decide +kernel
  obtain ⟨observed, returned⟩ := exists_of_succeeded success
  exact ⟨observed, returned, seeds_whole [passOf [.dropped]] (passOf smooth) imageHost imageHost_fresh
    (fun _ _ _ => rfl) (by decide +kernel) observed returned⟩

/-- Seeds that were never written to. -/
def Empty (host : Host) : Prop :=
  ∀ pool domainName volume, host.volumes.lookup (pool, seedVolumeName domainName) = some volume →
    ∀ byte ∈ volume.content, byte = 0

def Unwritten (_ : Host) (call : Call) (decision : Option Decision) : Prop :=
  uploads call = true → decision.map Decision.fate = some .dropped

instance (host : Host) (call : Call) (decision : Option Decision) : Decidable (Unwritten host call decision) :=
  inferInstanceAs (Decidable (_ → _))

theorem blank_content (document : VolumeDocument) : ∀ byte ∈ (Volume.blank document).content, byte = 0 := by
  intro byte member
  unfold Volume.blank at member
  cases format : document.format <;> simp only [format] at member
  · exact List.eq_of_mem_replicate member
  · cases member

theorem Empty.served {decision : Decision} (empty : Empty host)
    (unwritten : Unwritten host call (some decision)) : Empty (host.serve decision call).2 := by
  intro pool domainName volume found
  by_cases target : call.volumeTarget = some (pool, seedVolumeName domainName)
  · revert found
    cases call <;> simp only [Call.volumeTarget, reduceCtorEq, Option.some.injEq] at target
    case createVolume other document =>
      refine Decision.deliver_state (P := fun last => last.volumes.lookup _ = _ → _) (empty pool domainName volume) ?_
      rw [← target]
      cases created : (host.createVolume other document).1 with
      | error reason =>
        rw [Host.createVolume_error created, target]
        exact empty pool domainName volume
      | ok handle =>
        obtain ⟨-, last⟩ := Host.createVolume_ok created
        rw [last, AList.lookup_insert]
        rintro ⟨⟩
        exact blank_content document
    case uploadVolume other data =>
      have dropped : decision.fate = .dropped := Option.some.inj (unwritten rfl)
      simp only [Host.serve, Host.uploadVolume, Decision.deliver, dropped]
      exact empty pool domainName volume
    case deleteVolume other =>
      refine Decision.deliver_state (P := fun last => last.volumes.lookup _ = _ → _) (empty pool domainName volume) ?_
      rw [← target, AList.lookup_erase]
      exact fun never => by cases never
  · exact empty pool domainName volume (((host.spares_served decision call).volumes target).symm.trans found)

theorem empty_afterPasses {μ : Type} {passes : List (ConvergePass μ)} (empty : Empty host)
    (unwritten : Attempt.AllWithin Unwritten (passes.map ConvergePass.attempt) host) :
    Empty (afterPasses passes host) := by
  refine unwritten.safe_lastOf (fun attempt member host empty => ?_) empty
  obtain ⟨pass, -, rfl⟩ := List.mem_map.mp member
  refine Secures.mono (Keeps.secures (keeps_converge pass.alreadyDetached pass.published)
    (fun host call decision => Host.serve_truthful host call decision)
    (fun _ _ _ _ unwritten empty => Empty.served empty unwritten) (fun _ => id) empty) ?_
  exact fun _ _ reached => reached.2

theorem imageHost_empty : Empty imageHost := by
  intro pool domainName volume found
  rw [imageHost_fresh] at found
  cases found

theorem not_seeded_of_empty {uuid : Uuid} (empty : Empty host) (only : ∀ builder, known builder → builder = spec)
    (identified : (host.domains.lookup spec.domainName).map DomainRecord.uuid = some uuid)
    (fits : Fits (seedFiles spec.domainName (formatUuid uuid) spec.userData (seedNetworkConfig spec))) :
    ¬ Seeded known spec host := by
  rintro ⟨record, -, volume, defined, -, -, found, builder, member, -, built⟩
  have same : record.uuid = uuid :=
    Option.some.inj ((congrArg (Option.map DomainRecord.uuid) defined).symm.trans identified)
  rw [only builder member, same] at built
  obtain ⟨byte, inside, nonzero⟩ := exists_nonzero_of_buildSeedIso fits built
  exact nonzero (empty _ _ volume found byte inside)

/-- A pass whose upload of the seed never arrives. -/
def interrupted : List Fate := List.replicate 9 .answered ++ [.dropped]

/-- After an upload that never arrived, the next pass succeeds with an empty seed. -/
theorem empty_seed_after_dropped_upload :
    ∃ observed, (passOf smooth).attempt.result (afterPasses [passOf interrupted] imageHost) = some (.ok observed) ∧
      ¬ Seeded (fun spec => ∃ pass ∈ [passOf interrupted] ++ [passOf smooth],
          pass.machine = (passOf smooth).machine ∧ pass.spec = spec) (passOf smooth).spec
        ((passOf smooth).attempt.last (afterPasses [passOf interrupted] imageHost)) := by
  have success : succeeded ((passOf smooth).attempt.result (afterPasses [passOf interrupted] imageHost)) = true := by
    decide +kernel
  obtain ⟨observed, returned⟩ := exists_of_succeeded success
  have empty : Empty (afterPasses [passOf interrupted, passOf smooth] imageHost) :=
    empty_afterPasses imageHost_empty (by decide +kernel)
  have fits : Fits (seedFiles (passOf smooth).spec.domainName
      (formatUuid ({ fate := .answered } : Decision).uuid) (passOf smooth).spec.userData
      (seedNetworkConfig (passOf smooth).spec)) := by
    unfold Fits
    decide +kernel
  refine ⟨observed, returned, not_seeded_of_empty empty ?_ (by decide +kernel) fits⟩
  rintro builder ⟨pass, member, -, rfl⟩
  rcases List.mem_append.mp member with own | own <;> rw [List.mem_singleton.mp own]
  rfl

end Banlieue.ProviderLibvirt
