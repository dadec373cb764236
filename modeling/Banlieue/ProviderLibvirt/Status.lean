import Mathlib.Data.List.Induction
import Banlieue.Sdk.Sealing
import Banlieue.ProviderLibvirt.Seeds

namespace Banlieue.ProviderLibvirt

open Banlieue.Api Banlieue.Data Banlieue.Data.Program Banlieue.Infra Banlieue.Libvirt Banlieue.Sdk

/-! # The status of a machine -/

structure LibvirtMachineStatus where
  initialization : InitializationStatus := {}
  failureDomain : Option String := none
  addresses : List MachineAddress := []
  guestInstalled : Option Bool := none
  sealedPartitions : List String := []
  installMediaDetached : Option Bool := none
  domainUuid : Option String := none
  observedPowerState : Option PowerState := none
  addressSource : Option LibvirtAddressSource := none
  tpmAttached : Option Bool := none
  tpmEndorsementCertificates : List String := []
  conditions : List Condition := []
  observedGeneration : Option Int := none

def markerPath : String := "/run/banlieue/phase"

def ekPath : String := "/run/banlieue/ek.pem"

def sealedPath : String := "/run/banlieue/sealed"

/-- A state that is not known counts as off. -/
def toPowerState : DomainState → PowerState
  | .running | .blocked | .shuttingDown => .poweredOn
  | .paused | .pmSuspended => .suspended
  | .shutOff | .crashed | .noState | .unknown _ => .poweredOff

/-- How a state is printed in a message. -/
def debugState : DomainState → String
  | .noState => "NoState"
  | .running => "Running"
  | .blocked => "Blocked"
  | .paused => "Paused"
  | .shuttingDown => "ShuttingDown"
  | .shutOff => "ShutOff"
  | .crashed => "Crashed"
  | .pmSuspended => "PmSuspended"
  | .unknown code => "Unknown(" ++ toString code ++ ")"

def stickyInstallMediaDetached (previous observed : Option Bool) : Option Bool :=
  match previous with
  | some true => some true
  | _ => observed

def stickyGuestInstalled (previous : Option Bool) (observed : Bool) : Option Bool :=
  if previous = some true then some true else some observed

/-- A certificate that was read stays, also when the guest stops answering. -/
def stickyCertificates (previous : List String) : EkProbe → List String
  | .published pem => if previous.contains pem then previous else previous ++ [pem]
  | _ => previous

/-- All of the status but its conditions. -/
def observedStatus (spec : LibvirtMachineSpec) (status : LibvirtMachineStatus) (observed : Observed)
    (generation : Int) : LibvirtMachineStatus :=
  { status with
    initialization := ⟨some observed.state.isRunning⟩
    domainUuid := some (formatUuid observed.domain.uuid)
    observedPowerState := some (toPowerState observed.state)
    addresses := observed.addresses
    addressSource := observed.addressSource
    failureDomain := spec.failureDomain
    tpmAttached := if spec.tpmEnabled then some true else none
    guestInstalled := stickyGuestInstalled status.guestInstalled observed.guest.isInstalled
    tpmEndorsementCertificates := stickyCertificates status.tpmEndorsementCertificates observed.ek
    installMediaDetached := stickyInstallMediaDetached status.installMediaDetached observed.installMediaDetached
    sealedPartitions :=
      if spec.firstBootSealing.isSome then stickySealedPartitions status.sealedPartitions observed.sealed
      else status.sealedPartitions
    observedGeneration := some generation }

/-- What a condition says: its status, reason and message. -/
structure Verdict where
  status : String
  reason : String
  message : String

def readyVerdict (state : DomainState) : Verdict :=
  if state.isRunning then ⟨ConditionStatus.true, "DomainRunning", "domain is defined and running"⟩
  else ⟨ConditionStatus.false, "DomainNotRunning", "domain is defined but " ++ debugState state⟩

/-- An image that cannot say that it is installed gets no verdict. -/
def guestVerdict (spec : LibvirtMachineSpec) (status : LibvirtMachineStatus) (observed : Observed) :
    Option Verdict :=
  let installed := status.guestInstalled == some true
  let mediaPending := status.installMediaDetached == some false
  let ekPending := spec.tpmEnabled && status.tpmEndorsementCertificates.isEmpty
  let ekMismatch := observed.ek == .mismatch
  let gate := spec.firstBootSealing.map fun required =>
    sealingGate required status.sealedPartitions status.conditions observed.now
  match gate, installed with
  | some (.timedOut missing), _ =>
    some ⟨ConditionStatus.false, reasonFirstBootSealingTimeout,
      "no complete first-boot sealing report within the deadline; missing: " ++ ", ".intercalate missing ++
        " (a clone that cannot seal halts in its initramfs: check the serial console)"⟩
  | some (.pending missing), true =>
    some ⟨ConditionStatus.false, reasonFirstBootSealingUnverified,
      "the installed guest announced itself but has not reported " ++ ", ".intercalate missing ++
        " sealed in " ++ sealedPath ++ " (ADR-0088)"⟩
  | _, true =>
    some (
      if mediaPending then
        ⟨ConditionStatus.false, "InstallMediaAttached",
          "the installed guest announced itself, but its install medium has not been ejected yet (ADR-0044)"⟩
      else if ekMismatch then
        ⟨ConditionStatus.false, "TpmEndorsementMismatch",
          "the guest reported a vTPM endorsement certificate that is not issued to this domain; " ++
            "expected subject CN " ++ expectedEkCn spec.domainName (formatUuid observed.domain.uuid) ++
            " (ADR-0045)"⟩
      else if ekPending then
        ⟨ConditionStatus.false, "TpmEndorsementPending",
          "the installed guest announced itself, but has not exported its vTPM endorsement certificate to " ++
            ekPath ++ " yet (ADR-0045)"⟩
      else ⟨ConditionStatus.true, "GuestAnnounced", "the installed guest announced itself"⟩)
  | _, false =>
    if observed.guest = .notAnnounced then
      some ⟨ConditionStatus.false, "GuestNotAnnounced",
        "qemu-guest-agent is answering but reports no " ++ markerPath ++ " marker"⟩
    else none

def LibvirtMachineStatus.withVerdict (status : LibvirtMachineStatus) (type : String) (verdict : Verdict)
    (generation : Int) (now : Timestamp) : LibvirtMachineStatus :=
  { status with
    conditions := setCondition status.conditions type verdict.status verdict.reason verdict.message generation now }

/-- The status after a pass that succeeded. The clock is read for each condition. -/
def buildStatus (spec : LibvirtMachineSpec) (status : Option LibvirtMachineStatus) (observed : Observed)
    (generation : Int) (readyAt guestAt : Timestamp) : LibvirtMachineStatus :=
  let status := observedStatus spec (status.getD {}) observed generation
  let status := status.withVerdict ConditionTypes.ready (readyVerdict observed.state) generation readyAt
  match guestVerdict spec status observed with
  | some verdict => status.withVerdict ConditionTypes.guestReady verdict generation guestAt
  | none => status

/-- The status after a pass that failed keeps what was observed before. -/
def failureStatus (status : Option LibvirtMachineStatus) (detail : String) (generation : Int)
    (readyAt : Timestamp) : LibvirtMachineStatus :=
  let status := { status.getD {} with observedGeneration := some generation }
  status.withVerdict ConditionTypes.ready ⟨ConditionStatus.false, "ReconcileFailed", detail⟩ generation readyAt

/-! # One pass after another -/

def alreadyDetached (status : Option LibvirtMachineStatus) : Bool :=
  (status.bind LibvirtMachineStatus.installMediaDetached).getD false

def ekAlreadyPublished (status : Option LibvirtMachineStatus) : Bool :=
  status.any fun status => !status.tpmEndorsementCertificates.isEmpty

/-- A pass over a host, with the host's decisions about its calls. The interfaces of the
machine have got their addresses before. -/
structure StatusPass where
  host : Host
  decisions : List Decision
  network : List LibvirtNicSpec
  generation : Int
  readyAt : Timestamp
  guestAt : Timestamp

/-- The published status, with what the passes have observed so far. -/
structure Published where
  status : Option LibvirtMachineStatus := none
  observations : List Observed := []

def StatusPass.result (pass : StatusPass) (spec : LibvirtMachineSpec) (status : Option LibvirtMachineStatus) :
    Option (Except Error Observed) :=
  let program := converge { spec with network := pass.network } (alreadyDetached status) (ekAlreadyPublished status)
  (program.run.attempt hostBackend pass.decisions pass.host).1

/-- A pass that is stopped publishes nothing. -/
def StatusPass.publish (spec : LibvirtMachineSpec) (published : Published) (pass : StatusPass) : Published :=
  match pass.result spec published.status with
  | some (.ok observed) =>
    ⟨some (buildStatus spec published.status observed pass.generation pass.readyAt pass.guestAt),
      observed :: published.observations⟩
  | some (.error reason) =>
    ⟨some (failureStatus published.status reason.text pass.generation pass.readyAt), published.observations⟩
  | none => published

def publishAll (spec : LibvirtMachineSpec) (passes : List StatusPass) : Published :=
  passes.foldl (StatusPass.publish spec) {}

variable {spec : LibvirtMachineSpec} {observed : Observed} {generation : Int} {readyAt guestAt : Timestamp}

/-! ## What a verdict of readiness takes -/

/-- The status has all that a machine needs to be ready. -/
structure Complete (spec : LibvirtMachineSpec) (status : LibvirtMachineStatus) : Prop where
  installed : status.guestInstalled = some true
  detached : needsInstallCdrom spec.bootSource = true → status.installMediaDetached = some true
  certified : spec.tpmEnabled = true → status.tpmEndorsementCertificates ≠ []
  sealed : ∀ required, spec.firstBootSealing = some required →
    ∀ partition ∈ required.partitions, partition ∈ status.sealedPartitions

theorem complete_of_guestVerdict {status : LibvirtMachineStatus} {verdict : Verdict}
    (media : needsInstallCdrom spec.bootSource = true → status.installMediaDetached.isSome)
    (given : guestVerdict spec status observed = some verdict) (holds : verdict.status = ConditionStatus.true) :
    Complete spec status := by
  simp only [guestVerdict] at given
  split at given
  case h_1 =>
    obtain rfl := Option.some.inj given
    exact absurd holds ConditionStatus.false_ne_true
  case h_2 =>
    obtain rfl := Option.some.inj given
    exact absurd holds ConditionStatus.false_ne_true
  case h_3 _ _ installed notTimedOut notPending =>
    rw [← Option.some.inj given] at holds
    split_ifs at holds with mediaPending ekMismatch ekPending
    · exact absurd holds ConditionStatus.false_ne_true
    · exact absurd holds ConditionStatus.false_ne_true
    · exact absurd holds ConditionStatus.false_ne_true
    · refine ⟨beq_iff_eq.mp installed, fun needs => ?_, fun tpm empty => ekPending ?_, ?_⟩
      · obtain ⟨detached, found⟩ := Option.isSome_iff_exists.mp (media needs)
        cases detached with
        | false => exact absurd (beq_iff_eq.mpr found) mediaPending
        | true => exact found
      · rw [tpm, empty]
        rfl
      · intro required given
        simp only [given, Option.map_some, Option.some.injEq] at notTimedOut notPending
        exact mem_of_sealingGate notTimedOut notPending
  case h_4 =>
    split at given
    · obtain rfl := Option.some.inj given
      exact absurd holds ConditionStatus.false_ne_true
    · cases given

/-! ## What stays -/

/-- What was published before is not withdrawn. -/
structure Kept (earlier later : LibvirtMachineStatus) : Prop where
  installed : earlier.guestInstalled = some true → later.guestInstalled = some true
  detached : earlier.installMediaDetached = some true → later.installMediaDetached = some true
  certificates : earlier.tpmEndorsementCertificates ⊆ later.tpmEndorsementCertificates
  sealed : earlier.sealedPartitions ⊆ later.sealedPartitions

variable (status : LibvirtMachineStatus)

theorem Kept.refl : Kept status status :=
  ⟨id, id, List.Subset.refl _, List.Subset.refl _⟩

theorem Kept.trans {first second third : LibvirtMachineStatus} (before : Kept first second)
    (after : Kept second third) : Kept first third :=
  ⟨after.installed ∘ before.installed, after.detached ∘ before.detached,
    List.Subset.trans before.certificates after.certificates, List.Subset.trans before.sealed after.sealed⟩

theorem mem_stickyCertificates {previous : List String} {probe : EkProbe} {pem : String} :
    pem ∈ stickyCertificates previous probe ↔ pem ∈ previous ∨ probe = .published pem := by
  cases probe with
  | notPublished | mismatch => simp [stickyCertificates]
  | published read =>
    rw [stickyCertificates, EkProbe.published.injEq]
    split
    · rename_i known
      exact ⟨.inl, fun reported => reported.elim id fun same => same ▸ List.contains_iff_mem.mp known⟩
    · rw [List.mem_append, List.mem_singleton, eq_comm]

theorem kept_observedStatus : Kept status (observedStatus spec status observed generation) := by
  refine ⟨fun installed => ?_, fun detached => ?_, fun pem member => ?_, fun partition member => ?_⟩
  · exact if_pos installed
  · simp only [observedStatus, detached, stickyInstallMediaDetached]
  · exact mem_stickyCertificates.mpr (.inl member)
  · simp only [observedStatus]
    split
    · exact mem_stickySealedPartitions.mpr (.inl member)
    · exact member

theorem kept_withVerdict (type : String) (verdict : Verdict) (now : Timestamp) :
    Kept status (status.withVerdict type verdict generation now) :=
  ⟨id, id, List.Subset.refl _, List.Subset.refl _⟩

theorem kept_buildStatus (status : Option LibvirtMachineStatus) :
    Kept (status.getD {}) (buildStatus spec status observed generation readyAt guestAt) := by
  simp only [buildStatus]
  split
  · exact ((kept_observedStatus _).trans (kept_withVerdict ..)).trans (kept_withVerdict ..)
  · exact (kept_observedStatus _).trans (kept_withVerdict ..)

theorem Complete.kept {earlier later : LibvirtMachineStatus} (complete : Complete spec earlier)
    (kept : Kept earlier later) : Complete spec later where
  installed := kept.installed complete.installed
  detached needs := kept.detached (complete.detached needs)
  certified tpm empty := complete.certified tpm (List.eq_nil_of_subset_nil (empty ▸ kept.certificates))
  sealed required given partition member := kept.sealed (complete.sealed required given partition member)

/-! ## What a status rests on -/

/-- Whatever the status says was observed, and it says that the guest is ready only with
all that takes. -/
structure Grounded (spec : LibvirtMachineSpec) (status : LibvirtMachineStatus)
    (observations : List Observed) : Prop where
  unique : UniqueTypes status.conditions
  installed : status.guestInstalled = some true → ∃ observed ∈ observations, observed.guest = .installed
  detached : status.installMediaDetached = some true →
    ∃ observed ∈ observations, observed.installMediaDetached = some true ∧ observed.guest = .installed
  certificates : ∀ pem ∈ status.tpmEndorsementCertificates,
    ∃ observed ∈ observations, observed.ek = .published pem
  sealed : ∀ partition ∈ status.sealedPartitions, ∃ observed ∈ observations, partition ∈ observed.sealed
  complete : isConditionTrue status.conditions ConditionTypes.guestReady = true → Complete spec status

variable {status : LibvirtMachineStatus} {observations : List Observed}

theorem grounded_default : Grounded spec {} [] where
  unique := List.nodup_nil
  installed := nofun
  detached := nofun
  certificates := nofun
  sealed := nofun
  complete := nofun

theorem Grounded.observedStatus (grounded : Grounded spec status observations)
    (of : observed.Of spec (status.installMediaDetached.getD false)) :
    Grounded spec (ProviderLibvirt.observedStatus spec status observed generation) (observed :: observations) where
  unique := grounded.unique
  installed := by
    intro installed
    by_cases before : status.guestInstalled = some true
    · exact List.exists_mem_cons_of_exists (grounded.installed before)
    · simp only [ProviderLibvirt.observedStatus, stickyGuestInstalled, if_neg before, Option.some.injEq] at installed
      exact ⟨observed, List.mem_cons_self, beq_iff_eq.mp installed⟩
  detached := by
    intro detached
    by_cases before : status.installMediaDetached = some true
    · exact List.exists_mem_cons_of_exists (grounded.detached before)
    · -- the pass ejected the installer itself, so the guest had announced itself
      have now : observed.installMediaDetached = some true := by
        simpa only [ProviderLibvirt.observedStatus, stickyInstallMediaDetached] using detached
      rcases of.announced now with already | installed
      · cases stored : status.installMediaDetached with
        | none => rw [stored] at already; cases already
        | some value =>
          rw [stored] at already before
          exact absurd (congrArg some already) before
      · exact ⟨observed, List.mem_cons_self, now, beq_iff_eq.mp installed⟩
  certificates := by
    intro pem member
    rcases mem_stickyCertificates.mp member with before | now
    · exact List.exists_mem_cons_of_exists (grounded.certificates pem before)
    · exact ⟨observed, List.mem_cons_self, now⟩
  sealed := by
    intro partition member
    have reported : partition ∈ status.sealedPartitions ∨ partition ∈ observed.sealed := by
      simp only [ProviderLibvirt.observedStatus] at member
      split at member
      · exact mem_stickySealedPartitions.mp member
      · exact .inl member
    rcases reported with before | now
    · exact List.exists_mem_cons_of_exists (grounded.sealed partition before)
    · exact ⟨observed, List.mem_cons_self, now⟩
  complete ready := (grounded.complete ready).kept (kept_observedStatus status)

theorem Grounded.withVerdict (grounded : Grounded spec status observations) {type : String} {verdict : Verdict}
    {now : Timestamp}
    (given : type = ConditionTypes.guestReady → verdict.status = ConditionStatus.true → Complete spec status) :
    Grounded spec (status.withVerdict type verdict generation now) observations where
  unique := grounded.unique.setCondition
  installed := grounded.installed
  detached := grounded.detached
  certificates := grounded.certificates
  sealed := grounded.sealed
  complete ready := by
    refine Complete.kept ?_ (kept_withVerdict status type verdict now)
    have ready := (isConditionTrue_setCondition grounded.unique).mp ready
    split at ready
    · exact given (Eq.symm ‹_›) ready
    · exact grounded.complete ready

theorem isSome_installMediaDetached {alreadyDetached : Bool} (of : observed.Of spec alreadyDetached)
    (needs : needsInstallCdrom spec.bootSource = true) :
    (observedStatus spec status observed generation).installMediaDetached.isSome := by
  simp only [observedStatus, stickyInstallMediaDetached]
  split
  · rfl
  · exact of.media.trans needs

variable {previous : Option LibvirtMachineStatus}

theorem Grounded.buildStatus (grounded : Grounded spec (previous.getD {}) observations)
    (of : observed.Of spec (alreadyDetached previous)) :
    Grounded spec (buildStatus spec previous observed generation readyAt guestAt) (observed :: observations) := by
  have same : alreadyDetached previous = (previous.getD {}).installMediaDetached.getD false := by
    cases previous <;> rfl
  rw [same] at of
  have media : needsInstallCdrom spec.bootSource = true →
      (ProviderLibvirt.observedStatus spec (previous.getD {}) observed generation).installMediaDetached.isSome :=
    isSome_installMediaDetached of
  have ready : Grounded spec ((ProviderLibvirt.observedStatus spec (previous.getD {}) observed
      generation).withVerdict ConditionTypes.ready (readyVerdict observed.state) generation readyAt) _ :=
    (grounded.observedStatus of).withVerdict fun same => absurd same ConditionTypes.ready_ne_guestReady
  simp only [ProviderLibvirt.buildStatus]
  split
  · exact ready.withVerdict fun _ holds => complete_of_guestVerdict media ‹_› holds
  · exact ready

theorem Grounded.failureStatus {detail : String} (grounded : Grounded spec (previous.getD {}) observations) :
    Grounded spec (failureStatus previous detail generation readyAt) observations := by
  have counted : Grounded spec { previous.getD {} with observedGeneration := some generation } observations :=
    { grounded with
      complete := fun ready => (grounded.complete ready).kept ⟨id, id, List.Subset.refl _, List.Subset.refl _⟩ }
  exact counted.withVerdict fun same => absurd same ConditionTypes.ready_ne_guestReady

/-! ## Sequences of passes -/

theorem StatusPass.of_result {pass : StatusPass}
    (returned : pass.result spec previous = some (.ok observed)) : observed.Of spec (alreadyDetached previous) := by
  have secured : Secured (fun _ _ _ => True) (fun _ => True)
      (converge { spec with network := pass.network } (alreadyDetached previous) (ekAlreadyPublished previous))
      pass.host fun observed _ => observed.Of _ _ ∧ True :=
    Keeps.secures (keeps_converge _ _) (fun host call decision => Host.serve_truthful host call decision)
      (fun _ _ _ _ _ _ => trivial) (fun _ _ => trivial) trivial
  have of := ((secured.attempt (within_always (fun _ _ _ => trivial) _ _ _)).1 observed returned).1
  exact ⟨of.media, of.kept, of.announced⟩

theorem grounded_publish {published : Published} (pass : StatusPass)
    (grounded : Grounded spec (published.status.getD {}) published.observations) :
    Grounded spec ((pass.publish spec published).status.getD {}) (pass.publish spec published).observations := by
  unfold StatusPass.publish
  split
  · exact grounded.buildStatus (StatusPass.of_result ‹_›)
  · exact grounded.failureStatus
  · exact grounded

theorem grounded_publishAll (spec : LibvirtMachineSpec) (passes : List StatusPass) :
    Grounded spec ((publishAll spec passes).status.getD {}) (publishAll spec passes).observations := by
  induction passes using List.reverseRecOn with
  | nil => exact grounded_default
  | append_singleton passes pass ih =>
    rw [publishAll, List.foldl_concat]
    exact grounded_publish pass ih

theorem kept_publishAll {passes : List StatusPass} (published : (publishAll spec passes).status = some status)
    (later : List StatusPass) : ∃ last, (publishAll spec (passes ++ later)).status = some last ∧ Kept status last := by
  induction later using List.reverseRecOn with
  | nil => exact ⟨status, (List.append_nil passes).symm ▸ published, .refl _⟩
  | append_singleton later pass ih =>
    obtain ⟨middle, before, kept⟩ := ih
    rw [← List.append_assoc, publishAll, List.foldl_concat, ← publishAll]
    generalize publishAll spec (passes ++ later) = reached at before
    unfold StatusPass.publish
    rw [before]
    split
    · exact ⟨_, rfl, kept.trans (kept_buildStatus (some middle))⟩
    · exact ⟨_, rfl, kept.trans ⟨id, id, List.Subset.refl _, List.Subset.refl _⟩⟩
    · exact ⟨middle, before, kept⟩

/-- A machine with an installer, a TPM and a partition to seal. -/
def sealedMachine : LibvirtMachineSpec :=
  { (machineOf "dev" "web" "os").2 with
    bootSource := { kind := .installMedia, volume := "alpine.raw" }
    tpmEnabled := true
    firstBootSealing := some ⟨["COS_PERSISTENT"], 600⟩ }

/-- A pass over a host where all is well, at that many seconds. -/
def announcedPass (seconds : Int) : StatusPass where
  host := imageHost
  decisions := List.replicate 30
    { fate := .answered, guest := .installed, ek := .published "EK", sealed := ["COS_PERSISTENT"] }
  network := []
  generation := 1
  readyAt := ⟨seconds * Timestamp.nanosecondsPerSecond⟩
  guestAt := ⟨seconds * Timestamp.nanosecondsPerSecond⟩

end Banlieue.ProviderLibvirt
