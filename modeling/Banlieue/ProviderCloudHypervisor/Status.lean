import Mathlib.Logic.Relation
import Banlieue.ProviderCloudHypervisor.Machine
import Banlieue.Sdk.Sealing

namespace Banlieue.ProviderCloudHypervisor

open Banlieue.Api Banlieue.Data Banlieue.Data.Program Banlieue.Infra Banlieue.Sdk

/-! # The status of a machine -/

structure Verdict where
  status : String
  reason : String
  message : String

def powerStateOf : Phase → PowerState
  | .running | .stopping => .poweredOn
  | .startingTpm | .startingVmm | .stopped => .poweredOff

def readyVerdict : Phase → Verdict
  | .running => ⟨ConditionStatus.true, "GuestRunning", "VM is created and booted"⟩
  | .startingTpm => ⟨ConditionStatus.false, "StartingTpm", "manufacturing the vTPM or starting its swtpm"⟩
  | .startingVmm => ⟨ConditionStatus.false, "StartingVmm", "VMM unit started; waiting for its API"⟩
  | .stopping =>
    ⟨ConditionStatus.false, "Stopping", "power button pressed; waiting for the guest to shut down"⟩
  | .stopped => ⟨ConditionStatus.false, "Stopped", "VMM is not running, as desired"⟩

/-- A running guest keeps the addresses it was seen with; what its interfaces declare
stands in for what was never seen. -/
def addressesOf (status : CloudHypervisorMachineStatus) (observed : Observed) (plan : MachinePlan) :
    List MachineAddress × Option ChAddressSource :=
  if !observed.addresses.isEmpty then
    (observed.addresses.map fun ip => ⟨.internalIP, ip⟩, some .neighbour)
  else if observed.phase ≠ .running then ([], none)
  else if status.addressSource ≠ some .neighbour ∧ !plan.declaredAddresses.isEmpty then
    (plan.declaredAddresses, some .static)
  else (status.addresses, status.addressSource)

def stickyInstalled (previous : Option Bool) (observed : Observed) : Option Bool :=
  if observed.guestInstalled ∨ previous = some true then some true
  else if observed.phase = .running then some false
  else previous

def stickyDetached (plan : MachinePlan) (previous observed : Option Bool) : Option Bool :=
  if plan.emptyOsDisk then
    match previous, observed with
    | some true, _ => some true
    | _, some detached => some detached
    | previous, none => previous
  else none

/-- All of the status but its conditions. -/
def observedStatus (status : CloudHypervisorMachineStatus) (observed : Observed) (plan : MachinePlan)
    (failureDomain : String) (generation : Int) : CloudHypervisorMachineStatus where
  initialization := ⟨some (decide (observed.phase = .running))⟩
  failureDomain := some failureDomain
  addresses := (addressesOf status observed plan).1
  addressSource := (addressesOf status observed plan).2
  observedPowerState := some (powerStateOf observed.phase)
  guestInstalled := stickyInstalled status.guestInstalled observed
  installMediaDetached := stickyDetached plan status.installMediaDetached observed.installMediaDetached
  tpmAttached := some plan.tpm.isSome
  tpmEndorsementCertificates :=
    if observed.ekCertificates.isEmpty then status.tpmEndorsementCertificates else observed.ekCertificates
  sealedPartitions :=
    if plan.firstBootSealing.isSome then stickySealedPartitions status.sealedPartitions observed.sealed
    else status.sealedPartitions
  hostUid := some plan.hostUid
  conditions := status.conditions
  observedGeneration := some generation

/-- What is said about a guest that has reported. -/
def announcedVerdict (plan : MachinePlan) (status : CloudHypervisorMachineStatus) : Verdict :=
  if status.installMediaDetached = some false then
    ⟨ConditionStatus.false, "InstallMediaAttached",
      "the installed guest reported, but its installer is still attached (ADR-0044)"⟩
  else if plan.tpm.isSome && status.tpmEndorsementCertificates.isEmpty then
    ⟨ConditionStatus.false, "TpmEndorsementPending",
      "the installed guest reported, but its EK certificate is not published yet (ADR-0045)"⟩
  else ⟨ConditionStatus.true, "GuestAnnounced", "the installed guest reported"⟩

/-- What is said about the guest, if anything: an image that never reports says nothing. -/
def guestVerdict (plan : MachinePlan) (status : CloudHypervisorMachineStatus) (now : Timestamp) : Option Verdict :=
  let installed := status.guestInstalled == some true
  let gate := plan.firstBootSealing.map fun required =>
    sealingGate required status.sealedPartitions status.conditions now
  match gate, installed with
  | some (.timedOut missing), _ =>
    some ⟨ConditionStatus.false, reasonFirstBootSealingTimeout,
      "no complete first-boot sealing report within the deadline; missing: " ++ ", ".intercalate missing ++
        " (a clone that cannot seal halts in its initramfs: check the serial log)"⟩
  | some (.pending missing), true =>
    some ⟨ConditionStatus.false, reasonFirstBootSealingUnverified,
      "the installed guest reported, but not " ++ ", ".intercalate missing ++ " sealed on vsock port " ++
        toString reportPort ++ " (ADR-0112)"⟩
  | _, true => some (announcedVerdict plan status)
  | _, false =>
    if plan.emptyOsDisk then
      some ⟨ConditionStatus.false, "GuestNotAnnounced",
        "waiting for the installed system's phase=installed on vsock port " ++ toString reportPort⟩
    else none

def CloudHypervisorMachineStatus.withVerdict (status : CloudHypervisorMachineStatus) (type : String)
    (verdict : Verdict) (generation : Int) (now : Timestamp) : CloudHypervisorMachineStatus :=
  { status with
    conditions := setCondition status.conditions type verdict.status verdict.reason verdict.message generation now }

/-- The status after a pass that succeeded. The clock is read for each condition. -/
def buildStatus (previous : Option CloudHypervisorMachineStatus) (observed : Observed) (plan : MachinePlan)
    (failureDomain : String) (generation : Int) (readyAt guestAt : Timestamp) : CloudHypervisorMachineStatus :=
  let status := (observedStatus (previous.getD {}) observed plan failureDomain generation).withVerdict
    ConditionTypes.ready (readyVerdict observed.phase) generation readyAt
  match guestVerdict plan status observed.now with
  | some verdict => status.withVerdict ConditionTypes.guestReady verdict generation guestAt
  | none => status

/-- The status after a pass that failed keeps what was observed before. -/
def failureStatus (previous : Option CloudHypervisorMachineStatus) (detail reason : String) (generation : Int)
    (readyAt : Timestamp) : CloudHypervisorMachineStatus :=
  { previous.getD {} with initialization := ⟨some false⟩, observedGeneration := some generation }.withVerdict
    ConditionTypes.ready ⟨ConditionStatus.false, reason, detail⟩ generation readyAt

/-- Once ejected, the installer stays out of every later start. -/
def effectivePlan (plan : MachinePlan) (previous : Option CloudHypervisorMachineStatus) : MachinePlan :=
  if previous.bind CloudHypervisorMachineStatus.installMediaDetached = some true then plan.withoutInstallMedia
  else plan

/-! ## What a pass can observe -/

/-- Only a running machine is asked about its guest, and its installer is out exactly if
the guest has reported. -/
structure Observed.Of (plan : MachinePlan) (observed : Observed) : Prop where
  announced : observed.guestInstalled = true → observed.phase = .running
  media : observed.phase = .running →
    observed.installMediaDetached = if plan.hasInstallMedia then some observed.guestInstalled else none
  quiet : observed.phase ≠ .running → observed.installMediaDetached = none

variable {provider : Provider} {plan : MachinePlan} {hostname : String} {userData : Option String}
  {desired : PowerState} {observed : Observed}

theorem keeps_ejectInstaller (installed : Bool) :
    Keeps anything (ejectInstaller plan installed) fun detached =>
      detached = if plan.hasInstallMedia then some installed else none := by
  unfold ejectInstaller
  cases plan.hasInstallMedia with
  | false => simp
  | true =>
    cases installed with
    | false => simp
    | true => exact Heeds.bind (heeds_anything _) fun _ => by simp

theorem keeps_observe : Keeps anything (observe provider plan) (Observed.Of plan) := by
  refine Heeds.bind (heeds_anything _) fun addresses => Heeds.bind (heeds_anything _) fun certificates =>
    Heeds.bind (heeds_anything _) fun installed => Heeds.bind (heeds_anything _) fun sealed =>
      Heeds.bind (heeds_anything _) fun now => Keeps.bind (keeps_ejectInstaller installed) fun detached told => ?_
  have known : Observed.Of plan ⟨.running, addresses, certificates, installed, detached, sealed, now⟩ :=
    ⟨fun _ => rfl, fun _ => told, fun off => absurd rfl off⟩
  simp [known]

theorem keeps_of_phase {phase : Phase} (still : phase ≠ .running) :
    Keeps anything (pure { phase := phase } : Pass Observed) (Observed.Of plan) := by
  have known : Observed.Of plan { phase := phase } := ⟨nofun, fun running => absurd running still, fun _ => rfl⟩
  simp [known]

theorem keeps_stopAll : Keeps anything (stopAll plan) (Observed.Of plan) :=
  Heeds.bind (heeds_anything _) fun _ => Heeds.bind (heeds_anything _) fun _ => Heeds.bind (heeds_anything _) fun _ =>
    keeps_of_phase nofun

theorem keeps_powerOff : Keeps anything (powerOff provider plan) (Observed.Of plan) := by
  refine Heeds.bind (heeds_anything _) fun state => ?_
  split
  · refine Heeds.bind (heeds_anything _) fun vm => ?_
    split
    · exact Heeds.bind (heeds_anything _) fun _ => keeps_of_phase nofun
    · exact keeps_stopAll
  · exact keeps_stopAll

theorem keeps_powerOn : Keeps anything (powerOn provider plan hostname userData) (Observed.Of plan) := by
  refine Heeds.bind (heeds_anything _) fun _ => Heeds.bind (heeds_anything _) fun serving => ?_
  split
  · refine Heeds.bind (heeds_anything _) fun _ => Heeds.bind (heeds_anything _) fun reachable => ?_
    split
    · exact Heeds.bind (heeds_anything _) fun _ => keeps_observe
    · exact keeps_of_phase nofun
  · exact keeps_of_phase nofun

theorem Observed.of_converge (returned : (converge provider plan hostname userData desired).run.Yields (.ok observed)) :
    Observed.Of plan observed := by
  refine Keeps.yields ?_ returned
  unfold converge
  split
  · exact keeps_powerOff
  · exact keeps_powerOn

/-! ## What a verdict of readiness takes -/

/-- The status has all that a machine needs to be ready. -/
structure Complete (plan : MachinePlan) (status : CloudHypervisorMachineStatus) : Prop where
  installed : status.guestInstalled = some true
  detached : plan.emptyOsDisk = true → status.installMediaDetached = some true
  certified : plan.tpm.isSome = true → status.tpmEndorsementCertificates ≠ []
  sealed : ∀ required, plan.firstBootSealing = some required →
    ∀ partition ∈ required.partitions, partition ∈ status.sealedPartitions

variable {status : CloudHypervisorMachineStatus} {verdict : Verdict} {now readyAt guestAt : Timestamp}
  {failureDomain : String} {generation : Int}

theorem announcedVerdict_iff : (announcedVerdict plan status).status = ConditionStatus.true ↔
      status.installMediaDetached ≠ some false ∧ (plan.tpm.isSome = true → status.tpmEndorsementCertificates ≠ []) := by
  unfold announcedVerdict
  split_ifs with attached uncertified
  · exact ⟨fun holds => absurd holds ConditionStatus.false_ne_true, fun ready => absurd attached ready.1⟩
  · simp only [Bool.and_eq_true, List.isEmpty_iff] at uncertified
    exact ⟨fun holds => absurd holds ConditionStatus.false_ne_true, fun ready => absurd uncertified.2 (ready.2 uncertified.1)⟩
  · simp only [Bool.and_eq_true, List.isEmpty_iff, not_and] at uncertified
    exact ⟨fun _ => ⟨attached, uncertified⟩, fun _ => rfl⟩

theorem complete_of_guestVerdict
    (media : plan.emptyOsDisk = true → status.guestInstalled = some true → status.installMediaDetached.isSome)
    (given : guestVerdict plan status now = some verdict) (holds : verdict.status = ConditionStatus.true) :
    Complete plan status := by
  simp only [guestVerdict] at given
  split at given
  case h_1 =>
    obtain rfl := Option.some.inj given
    exact absurd holds ConditionStatus.false_ne_true
  case h_2 =>
    obtain rfl := Option.some.inj given
    exact absurd holds ConditionStatus.false_ne_true
  case h_3 _ _ installed notTimedOut notPending =>
    rw [← Option.some.inj given] at holds
    obtain ⟨attached, certified⟩ := announcedVerdict_iff.mp holds
    have reported : status.guestInstalled = some true := beq_iff_eq.mp installed
    refine ⟨reported, fun empty => ?_, certified, fun required needed => ?_⟩
    · obtain ⟨detached, found⟩ := Option.isSome_iff_exists.mp (media empty reported)
      cases detached with
      | false => exact absurd found attached
      | true => exact found
    · simp only [needed, Option.map_some, Option.some.injEq] at notTimedOut notPending
      exact mem_of_sealingGate notTimedOut notPending
  case h_4 =>
    split at given
    · obtain rfl := Option.some.inj given
      exact absurd holds ConditionStatus.false_ne_true
    · cases given

theorem guestVerdict_of_complete (complete : Complete plan status) :
    guestVerdict plan status now = some (announcedVerdict plan status) := by
  have gate : (plan.firstBootSealing.map fun required =>
      sealingGate required status.sealedPartitions status.conditions now) = none ∨
      (plan.firstBootSealing.map fun required =>
        sealingGate required status.sealedPartitions status.conditions now) = some .satisfied := by
    cases needed : plan.firstBootSealing with
    | none => exact .inl rfl
    | some required => exact .inr (congrArg some (sealingGate_eq_satisfied (complete.sealed required needed)))
  have installed : (status.guestInstalled == some true) = true := beq_iff_eq.mpr complete.installed
  rcases gate with none | satisfied
  · simp only [guestVerdict, none, installed]
  · simp only [guestVerdict, satisfied, installed]

/-! ## What stays -/

/-- What was published before is not withdrawn. -/
structure Kept (earlier later : CloudHypervisorMachineStatus) : Prop where
  installed : earlier.guestInstalled = some true → later.guestInstalled = some true
  certificates : earlier.tpmEndorsementCertificates ≠ [] → later.tpmEndorsementCertificates ≠ []
  sealed : earlier.sealedPartitions ⊆ later.sealedPartitions

theorem kept_observedStatus (status : CloudHypervisorMachineStatus) :
    Kept status (observedStatus status observed plan failureDomain generation) := by
  refine ⟨fun installed => if_pos (.inr installed), fun certified => ?_, fun partition member => ?_⟩
  · simp only [observedStatus]
    split
    · exact certified
    · rename_i some
      exact fun none => some (none ▸ rfl)
  · simp only [observedStatus]
    split
    · exact mem_stickySealedPartitions.mpr (.inl member)
    · exact member

theorem Complete.observedStatus (complete : Complete plan status) :
    Complete plan (observedStatus status observed plan failureDomain generation) where
  installed := (kept_observedStatus status).installed complete.installed
  detached empty := by
    simp only [ProviderCloudHypervisor.observedStatus, stickyDetached, if_pos empty, complete.detached empty]
  certified tpm := (kept_observedStatus status).certificates (complete.certified tpm)
  sealed required needed partition member :=
    (kept_observedStatus status).sealed (complete.sealed required needed partition member)

variable {type : String} {later : Published}

theorem Complete.withVerdict (complete : Complete plan status) :
    Complete plan (status.withVerdict type verdict generation now) :=
  ⟨complete.installed, complete.detached, complete.certified, complete.sealed⟩

/-! ## One pass after another -/

/-- The plan a pass works with: the machine's own, or the one without its installer once
that was recorded as ejected. -/
inductive WorksWith (plan : MachinePlan) (previous : Option CloudHypervisorMachineStatus) : MachinePlan → Prop where
  | whole : WorksWith plan previous plan
  | ejected : previous.bind CloudHypervisorMachineStatus.installMediaDetached = some true →
      WorksWith plan previous plan.withoutInstallMedia

/-- The published status, with what the passes have observed so far. -/
structure Published where
  status : Option CloudHypervisorMachineStatus := none
  observations : List Observed := []

inductive Publishes (provider : Provider) (plan : MachinePlan) : Published → Published → Prop where
  | built {published : Published} {used : MachinePlan} {hostname : String} {userData : Option String}
      {desired : PowerState} {observed : Observed} {failureDomain : String} {generation : Int}
      {readyAt guestAt : Timestamp} (works : WorksWith plan published.status used)
      (returned : (converge provider used hostname userData desired).run.Yields (.ok observed)) :
      Publishes provider plan published
        ⟨some (buildStatus published.status observed used failureDomain generation readyAt guestAt),
          observed :: published.observations⟩
  | failed {published : Published} {detail reason : String} {generation : Int} {readyAt : Timestamp} :
      Publishes provider plan published
        ⟨some (failureStatus published.status detail reason generation readyAt), published.observations⟩

/-- Whatever the status says was observed, and it says that the guest is ready only with
all that takes. -/
structure Grounded (plan : MachinePlan) (status : CloudHypervisorMachineStatus) (observations : List Observed) :
    Prop where
  unique : UniqueTypes status.conditions
  installed : status.guestInstalled = some true → ∃ observed ∈ observations, observed.guestInstalled = true
  media : plan.emptyOsDisk = true → status.guestInstalled = some true → status.installMediaDetached.isSome
  detached : status.installMediaDetached = some true →
    ∃ observed ∈ observations, observed.installMediaDetached = some true
  certificates : status.tpmEndorsementCertificates ≠ [] →
    ∃ observed ∈ observations, observed.ekCertificates = status.tpmEndorsementCertificates
  sealed : ∀ partition ∈ status.sealedPartitions, ∃ observed ∈ observations, partition ∈ observed.sealed
  complete : isConditionTrue status.conditions ConditionTypes.guestReady = true → Complete plan status

variable {observations : List Observed} {used : MachinePlan} {previous : Option CloudHypervisorMachineStatus}

theorem grounded_default : Grounded plan {} [] where
  unique := List.nodup_nil
  installed := nofun
  media := nofun
  detached := nofun
  certificates none := absurd rfl none
  sealed := nofun
  complete := nofun

theorem WorksWith.same (works : WorksWith plan previous used) :
    used.emptyOsDisk = plan.emptyOsDisk ∧ used.tpm = plan.tpm ∧ used.firstBootSealing = plan.firstBootSealing := by
  cases works <;> exact ⟨rfl, rfl, rfl⟩

theorem WorksWith.complete_iff (works : WorksWith plan previous used) : Complete used status ↔ Complete plan status := by
  obtain ⟨empty, tpm, sealing⟩ := works.same
  constructor
  · rintro ⟨installed, detached, certified, sealed⟩
    exact ⟨installed, empty ▸ detached, tpm ▸ certified, sealing ▸ sealed⟩
  · rintro ⟨installed, detached, certified, sealed⟩
    exact ⟨installed, empty ▸ detached, tpm ▸ certified, sealing ▸ sealed⟩

theorem stickyInstalled_eq_true {before : Option Bool} (reported : stickyInstalled before observed = some true) :
    before = some true ∨ observed.guestInstalled = true := by
  unfold stickyInstalled at reported
  split_ifs at reported with told
  · exact told.symm
  · cases reported
  · exact .inl reported

theorem stickyDetached_isSome {before now : Option Bool} (empty : plan.emptyOsDisk = true)
    (known : before.isSome ∨ now.isSome) : (stickyDetached plan before now).isSome := by
  simp only [stickyDetached, empty, if_true]
  rcases before with _ | _ | _ <;> rcases now with _ | _ <;> simp_all

theorem stickyDetached_eq_true {before now : Option Bool} (detached : stickyDetached plan before now = some true) :
    before = some true ∨ now = some true := by
  simp only [stickyDetached] at detached
  split at detached
  · rcases before with _ | _ | _ <;> rcases now with _ | _ <;> simp_all
  · contradiction

theorem media_observed (installer : plan.hasInstallMedia = plan.emptyOsDisk)
    (works : WorksWith plan previous used) (of : Observed.Of used observed) (empty : plan.emptyOsDisk = true)
    (reported : observed.guestInstalled = true) :
    (previous.getD {}).installMediaDetached.isSome ∨ observed.installMediaDetached.isSome := by
  have media := of.media (of.announced reported)
  cases works with
  | whole =>
    rw [installer, empty, if_pos rfl] at media
    exact .inr (media ▸ rfl)
  | ejected recorded =>
    obtain ⟨status, found, detached⟩ := Option.bind_eq_some_iff.mp recorded
    refine .inl ?_
    rw [found, Option.getD_some, detached]
    rfl

theorem Grounded.observedStatus (grounded : Grounded plan (previous.getD {}) observations)
    (installer : plan.hasInstallMedia = plan.emptyOsDisk) (works : WorksWith plan previous used)
    (of : Observed.Of used observed) :
    Grounded plan (observedStatus (previous.getD {}) observed used failureDomain generation)
      (observed :: observations) where
  unique := grounded.unique
  installed reported := by
    rcases stickyInstalled_eq_true reported with before | now
    · exact List.exists_mem_cons_of_exists (grounded.installed before)
    · exact ⟨observed, List.mem_cons_self, now⟩
  media empty reported := by
    refine stickyDetached_isSome (works.same.1.trans empty) ?_
    rcases stickyInstalled_eq_true reported with before | now
    · exact .inl (grounded.media empty before)
    · exact media_observed installer works of empty now
  detached detached := by
    rcases stickyDetached_eq_true detached with before | now
    · exact List.exists_mem_cons_of_exists (grounded.detached before)
    · exact ⟨observed, List.mem_cons_self, now⟩
  certificates := by
    simp only [ProviderCloudHypervisor.observedStatus]
    split
    · exact fun certified => List.exists_mem_cons_of_exists (grounded.certificates certified)
    · exact fun _ => ⟨observed, List.mem_cons_self, rfl⟩
  sealed := by
    intro partition member
    have reported : partition ∈ (previous.getD {}).sealedPartitions ∨ partition ∈ observed.sealed := by
      simp only [ProviderCloudHypervisor.observedStatus] at member
      split at member
      · exact mem_stickySealedPartitions.mp member
      · exact .inl member
    rcases reported with before | now
    · exact List.exists_mem_cons_of_exists (grounded.sealed partition before)
    · exact ⟨observed, List.mem_cons_self, now⟩
  complete ready := works.complete_iff.mp (works.complete_iff.mpr (grounded.complete ready)).observedStatus

theorem Grounded.withVerdict (grounded : Grounded plan status observations)
    (given : type = ConditionTypes.guestReady → verdict.status = ConditionStatus.true → Complete plan status) :
    Grounded plan (status.withVerdict type verdict generation now) observations where
  unique := grounded.unique.setCondition
  installed := grounded.installed
  media := grounded.media
  detached := grounded.detached
  certificates := grounded.certificates
  sealed := grounded.sealed
  complete ready := by
    refine Complete.withVerdict ?_
    have ready := (isConditionTrue_setCondition grounded.unique).mp ready
    split at ready
    · exact given (Eq.symm ‹_›) ready
    · exact grounded.complete ready

theorem Grounded.buildStatus (grounded : Grounded plan (previous.getD {}) observations)
    (installer : plan.hasInstallMedia = plan.emptyOsDisk) (works : WorksWith plan previous used)
    (of : Observed.Of used observed) :
    Grounded plan (buildStatus previous observed used failureDomain generation readyAt guestAt)
      (observed :: observations) := by
  have ready : Grounded plan ((ProviderCloudHypervisor.observedStatus (previous.getD {}) observed used failureDomain
      generation).withVerdict ConditionTypes.ready (readyVerdict observed.phase) generation readyAt) _ :=
    (grounded.observedStatus installer works of).withVerdict fun same => absurd same ConditionTypes.ready_ne_guestReady
  simp only [ProviderCloudHypervisor.buildStatus]
  split
  · refine ready.withVerdict fun _ holds => works.complete_iff.mp (complete_of_guestVerdict ?_ ‹_› holds)
    rw [works.same.1]
    exact ready.media
  · exact ready

theorem Grounded.failureStatus {detail reason : String} (grounded : Grounded plan (previous.getD {}) observations) :
    Grounded plan (failureStatus previous detail reason generation readyAt) observations := by
  have counted : Grounded plan { previous.getD {} with
      initialization := ⟨some false⟩, observedGeneration := some generation } observations :=
    { grounded with
      complete := fun ready =>
        have complete := grounded.complete ready
        ⟨complete.installed, complete.detached, complete.certified, complete.sealed⟩ }
  exact counted.withVerdict fun same => absurd same ConditionTypes.ready_ne_guestReady

variable {published : Published}

theorem grounded_publishes (installer : plan.hasInstallMedia = plan.emptyOsDisk)
    (step : Publishes provider plan published later)
    (grounded : Grounded plan (published.status.getD {}) published.observations) :
    Grounded plan (later.status.getD {}) later.observations := by
  cases step with
  | built works returned => exact grounded.buildStatus installer works (Observed.of_converge returned)
  | failed => exact grounded.failureStatus

/-! ## Readiness stays -/

theorem ready_buildStatus (works : WorksWith plan previous used) (complete : Complete plan (previous.getD {})) :
    isConditionTrue (buildStatus previous observed used failureDomain generation readyAt guestAt).conditions
      ConditionTypes.guestReady = true := by
  have still : Complete used ((observedStatus (previous.getD {}) observed used failureDomain generation).withVerdict
      ConditionTypes.ready (readyVerdict observed.phase) generation readyAt) :=
    (works.complete_iff.mpr complete).observedStatus.withVerdict
  have attached : stickyDetached used (previous.getD {}).installMediaDetached observed.installMediaDetached ≠
      some false := by
    cases empty : used.emptyOsDisk with
    | false => simp [stickyDetached, empty]
    | true =>
      have out : stickyDetached used (previous.getD {}).installMediaDetached observed.installMediaDetached =
        some true := still.detached empty
      simp [out]
  simp only [buildStatus, guestVerdict_of_complete still]
  refine isConditionTrue_of_findCondition (status_findCondition_setCondition_self.trans (congrArg some ?_))
  exact announcedVerdict_iff.mpr ⟨attached, still.certified⟩

theorem ready_publishes (step : Publishes provider plan published later)
    (grounded : Grounded plan (published.status.getD {}) published.observations)
    (ready : isConditionTrue (published.status.getD {}).conditions ConditionTypes.guestReady = true) :
    isConditionTrue (later.status.getD {}).conditions ConditionTypes.guestReady = true := by
  cases step with
  | built works returned => exact ready_buildStatus works (grounded.complete ready)
  | failed => exact (isConditionTrue_setCondition grounded.unique).mpr ((if_neg ConditionTypes.ready_ne_guestReady.symm).mpr ready)

theorem grounded_of_reached (installer : plan.hasInstallMedia = plan.emptyOsDisk)
    (reached : Relation.ReflTransGen (Publishes provider plan) {} published) :
    Grounded plan (published.status.getD {}) published.observations := by
  induction reached with
  | refl => exact grounded_default
  | tail _ step ih => exact grounded_publishes installer step ih

theorem ready_of_reached (installer : plan.hasInstallMedia = plan.emptyOsDisk)
    (after : Relation.ReflTransGen (Publishes provider plan) published later)
    (grounded : Grounded plan (published.status.getD {}) published.observations)
    (ready : isConditionTrue (published.status.getD {}).conditions ConditionTypes.guestReady = true) :
    isConditionTrue (later.status.getD {}).conditions ConditionTypes.guestReady = true := by
  have both : Grounded plan (later.status.getD {}) later.observations ∧
      isConditionTrue (later.status.getD {}).conditions ConditionTypes.guestReady = true := by
    induction after with
    | refl => exact ⟨grounded, ready⟩
    | tail _ step ih => exact ⟨grounded_publishes installer step ih.1, ready_publishes step ih.1 ih.2⟩
  exact both.2

def sampleConfig : HostConfig where
  provider := ⟨"host-a", "default"⟩
  firmware := ⟨["usr", "CLOUDHV.fd"]⟩
  paths := ⟨⟨["run"]⟩, ⟨["state"]⟩⟩
  guests := { uidBase := 1000, uidCount := 2 }
  tpm := true
  storageClasses := .ofList [("fast", ⟨["fast"]⟩), ("slow", ⟨["slow"]⟩)]
  networkClasses := .ofList [("lan", "br0")]

/-- A machine with an installer, a TPM and a partition to seal. -/
def sampleSpec : CloudHypervisorMachineSpec where
  providerId := none
  failureDomain := none
  providerRef := ⟨"host-a"⟩
  cpus := ⟨1, none⟩
  memory := ⟨1024, false⟩
  storageClass := "fast"
  bootSource := ⟨.installMedia, "kairos.iso"⟩
  osDiskSizeGiB := 1
  nics := [⟨"eth0", "lan", none, ⟨none, none⟩⟩]
  tpmEnabled := true
  userData := none
  desiredPowerState := .poweredOn
  firstBootSealing := some ⟨["COS_PERSISTENT"], 600⟩

def sampleUid : String := "01234567-89ab-cdef-0123-456789abcdef"

def sampleProvider : Provider := ⟨⟨900, 900⟩, fun _ => "PEM"⟩

/-- Everything is there already: sockets at the names of sockets, files elsewhere. -/
def smoothMetadata (path : Path) : Metadata where
  fileType := if path.components.contains "fast" then .regular else .socket
  uid := 1000
  gid := 900
  mode := 0o660
  length := 0

def smoothFile : (call : FileCall) → Except IoError call.Value
  | .openDirectory _ | .openPath _ | .openForReading _ | .openEntry _ _ | .openSource _ | .createNew _ _ => .ok 3
  | .metadata path | .linkMetadata path => .ok (smoothMetadata path)
  | .handleMetadata _ => .ok (smoothMetadata ⟨[]⟩)
  | .readToEnd _ => .ok []
  | .entryNames _ => .ok []
  | .listDirectory _ => .ok ["ek.crt"]
  | .createDir _ | .createDirAll _ | .reflink _ _ | .sparseCopy _ _ | .changeOwner _ _ _ | .changeMode _ _
  | .changePathMode _ _ | .setLength _ _ | .writeAll _ _ | .syncAll _ | .removeFile _ | .removeDirAll _
  | .rename _ _ | .bindSocket _ => .ok ()

/-- All units run but the one that manufactures. -/
def smoothState (name : String) : UnitState :=
  if name = instanceUnit swtpmSetupTemplate "1000" then .inactive else .active

def smoothReply : (call : Call) → Reply call
  | .file call => smoothFile call
  | .tap (.interfaceExists _) => true
  | .tap (.createPersistentTap _ _) | .tap (.addToBridge _ _) | .tap (.setLinkUp _)
  | .tap (.deletePersistentTap _) => .ok ()
  | .listener (.listening _) | .listener (.installed _) => true
  | .listener (.sealed _) => ["COS_PERSISTENT"]
  | .listener (.listen _) | .listener (.forget _) => ()
  | .unit (.state name) => .ok (some (smoothState name))
  | .unit (.failure _) => .ok none
  | .unit (.setMemoryMax _ _) | .unit (.start _) | .unit (.stop _) => .ok ()
  | .vmm _ _ .ping => .ok "53.0.0"
  | .vmm _ _ .info => .ok .running
  | .vmm _ _ (.create _) | .vmm _ _ .boot | .vmm _ _ .powerButton | .vmm _ _ (.removeDevice _) => .ok ()
  | .neighbours => .ok []
  | .clock => ⟨0⟩

def samplePlan : MachinePlan :=
  planOf sampleUid "web" "host-a" sampleSpec sampleConfig 1000 ⟨["fast"]⟩
    [⟨"eth0", "bch0123456789" ++ "0", "br0", "02:ab:cd:ef:01:00"⟩]

def sampleObserved : Observed where
  phase := .running
  ekCertificates := ["PEM"]
  guestInstalled := true
  installMediaDetached := some true
  sealed := ["COS_PERSISTENT"]

theorem sample_planned : planMachine sampleUid "web" "host-a" sampleSpec sampleConfig 1000 = .ok samplePlan := by
  decide +kernel

theorem sample_observed :
    (converge sampleProvider samplePlan "web" none .poweredOn).run.Yields (.ok sampleObserved) := by
  have performed : ((converge sampleProvider samplePlan "web" none .poweredOn).run.perform
      (fun (_ : Unit) call => (smoothReply call, ())) ()).result = .ok sampleObserved := by
    decide +kernel
  exact performed ▸ yields_perform _ _ _

end Banlieue.ProviderCloudHypervisor
