import Banlieue.ProviderCloudHypervisor.Reconciler

namespace Banlieue.ProviderCloudHypervisor

open Banlieue.Api Banlieue.Cloudinit Banlieue.Data Banlieue.Data.Program Banlieue.Infra Banlieue.Sdk

/-! # What a pass touches

Units, directories, interfaces and files that a pass makes or removes are named by its
plan, and what it gives away or reads it has opened itself.
-/

def MachinePlan.units (plan : MachinePlan) : List String :=
  plan.unit :: plan.tpm.elim [] fun tpm => [tpm.unit, tpm.setupUnit]

/-- The files that are written under another name first. -/
def MachinePlan.written (plan : MachinePlan) : List Path :=
  [plan.osDisk, plan.installMedia, plan.seed] ++ plan.tpm.elim [] fun tpm => [tpm.setupEnv]

def MachinePlan.removedFiles (plan : MachinePlan) : List Path :=
  plan.written.map tmpPath ++ [plan.installMedia, plan.reportSocket] ++ plan.tpm.elim [] fun tpm => [tpm.setupEnv]

/-- What a pass has done so far: the handles it got, with the calls it got them from, and
the directories it made. -/
structure Acts where
  opened : List (Handle × FileCall) := []
  made : List Path := []

namespace Acts

/-- What is known once a call has been answered. -/
@[simp]
def after (acts : Acts) : (call : Call) → Reply call → Acts
  | .file (.openDirectory path), .ok handle =>
    { acts with opened := (handle, .openDirectory path) :: acts.opened }
  | .file (.openPath path), .ok handle => { acts with opened := (handle, .openPath path) :: acts.opened }
  | .file (.openForReading path), .ok handle => { acts with opened := (handle, .openForReading path) :: acts.opened }
  | .file (.openEntry directory name), .ok handle =>
    { acts with opened := (handle, .openEntry directory name) :: acts.opened }
  | .file (.openSource path), .ok handle => { acts with opened := (handle, .openSource path) :: acts.opened }
  | .file (.createNew path mode), .ok handle => { acts with opened := (handle, .createNew path mode) :: acts.opened }
  | .file (.createDir path), .ok _ => { acts with made := path :: acts.made }
  | _, _ => acts

@[simp]
def Created (acts : Acts) (handle : Handle) : Prop := ∃ path mode, (handle, .createNew path mode) ∈ acts.opened

/-- A handle whose file may be given away. -/
@[simp]
def Grantable (acts : Acts) (handle : Handle) : Prop :=
  acts.Created handle ∨ (∃ path, (handle, .openDirectory path) ∈ acts.opened) ∨
    (∃ path, (handle, .openPath path) ∈ acts.opened) ∨ ∃ directory name, (handle, .openEntry directory name) ∈ acts.opened

end Acts

/-- The calls on files that a pass may make. -/
@[simp]
def MayFile (plan : MachinePlan) (acts : Acts) : FileCall → Prop
  | .createDir path => path ∈ machineTrees plan ∨ ∃ tpm ∈ plan.tpm, path = tpm.setupEnv.parent
  | .createDirAll path => ∃ tpm ∈ plan.tpm, path = tpm.ekDir.parent ∨ path = tpm.stateDir.parent
  | .openDirectory path | .removeDirAll path => path ∈ machineTrees plan
  | .openPath path => path = plan.apiSocket ∨ path = plan.reportSocket
  | .openForReading path => path = plan.seed ∨ ∃ tpm ∈ plan.tpm, ∃ name, path = tpm.ekDir.join name
  | .openEntry directory _ | .entryNames directory =>
    ∃ tpm ∈ plan.tpm, (directory, .openDirectory tpm.stateDir) ∈ acts.opened
  | .openSource path => path = plan.image
  | .createNew path _ => ∃ target ∈ plan.written, path = tmpPath target
  | .reflink target source | .sparseCopy target source =>
    acts.Created target ∧ (source, .openSource plan.image) ∈ acts.opened
  | .changeOwner handle _ _ | .changeMode handle _ => acts.Grantable handle
  | .changePathMode path _ => (∃ tpm ∈ plan.tpm, path = tpm.setupEnv.parent) ∧ path ∈ acts.made
  | .setLength handle _ | .writeAll handle _ | .syncAll handle => acts.Created handle
  | .readToEnd handle => ∃ path, (handle, .openForReading path) ∈ acts.opened
  | .listDirectory path => ∃ tpm ∈ plan.tpm, path = tpm.ekDir
  | .removeFile path => path ∈ plan.removedFiles
  | .rename source target => target ∈ plan.written ∧ source = tmpPath target
  | .bindSocket path => path = plan.reportSocket
  | .metadata _ | .linkMetadata _ | .handleMetadata _ => True

@[simp]
def May (plan : MachinePlan) (acts : Acts) : Call → Prop
  | .file call => MayFile plan acts call
  | .unit (.start name) | .unit (.stop name) => name ∈ plan.units
  | .tap (.createPersistentTap name _) | .tap (.deletePersistentTap name) => name ∈ plan.nics.map NicPlan.tap
  | .vmm socket owner _ => socket = plan.apiSocket ∧ owner = plan.hostUid
  | _ => True

@[simp]
def hostRules (plan : MachinePlan) : Rules Acts Call Reply := fun call =>
  { pre acts := May plan acts call
    post acts reply later := later = acts.after call reply }

/-- Whatever was done before, the work does only what the plan names. -/
@[simp]
abbrev Tidy {ε α : Type} (plan : MachinePlan) (work : Work ε α) : Prop :=
  wpe (hostRules plan) work (fun _ _ => True) (fun _ _ => True) = fun _ => True

section Work

variable {σ ε ε' α : Type} {rules : Rules σ Call Reply}
  {wrap : ε → ε'} {work : Work ε α} {post : α → σ → Prop} {failed : ε' → σ → Prop}

@[simp]
theorem wpe_wrapped :
    wpe rules (wrapped wrap work) post failed = wpe rules work post fun reason => failed (wrap reason) := by
  unfold wrapped wpe
  rw [ExceptT.run_mk, wp_bind]
  congr 1
  funext result
  cases result <;> rfl

@[simp]
theorem wpe_outcome {post : Except ε α → σ → Prop} :
    wpe rules (outcome work) post failed =
      wpe rules work (fun value => post (.ok value)) fun reason => post (.error reason) := by
  unfold outcome
  rw [wpe_lift]
  unfold wpe
  congr 1
  funext result
  cases result <;> rfl

@[simp]
theorem wpe_ofExcept {value : Except ε α} :
    wpe rules (ofExcept wrap value) post failed = either post (fun reason => failed (wrap reason)) value := by
  cases value <;> rfl

end Work

attribute [local simp] exists_or file fileAt tolerate removeIfPresent removeDirIfPresent createDirIfAbsent createDirNofollow own systemd vmm
  ask onHost

section Files

variable {ε : Type} {plan : MachinePlan} {path : Path} {group : Nat} {identity : Identity}

@[simp]
theorem tidy_pathExists : Tidy plan (pathExists path : Work ε Bool) := by simp [pathExists]

variable {α β : Type} {nic : NicPlan}

theorem Tidy.bind {work : Work ε α} {next : α → Work ε β} (first : Tidy plan work)
    (rest : ∀ value, Tidy plan (next value)) : Tidy plan (work >>= next) := by
  simp_all

theorem tidy_forM {items : List α} {each : α → Work ε PUnit}
    (tidy : ∀ item ∈ items, Tidy plan (each item)) : Tidy plan (forM items each) :=
  funext fun _ => eq_true (wpe_forM (fun _ => True) (fun item member _ _ => by simp [tidy item member]) trivial)

theorem tidy_mapM {items : List α} {each : α → Work ε β}
    (tidy : ∀ item ∈ items, Tidy plan (each item)) : Tidy plan (items.mapM each) := by
  induction items with
  | nil => simp
  | cons item rest ih =>
    have later := ih fun other member => tidy other (List.mem_cons_of_mem _ member)
    simp_all

theorem tidy_prepareDirs : Tidy plan (prepareDirs plan group) := by
  simp [prepareDirs, prepareDir, machineTrees]

/-! ## Disks and seeds -/

theorem tmpPath_mem_removedFiles {target : Path} (written : target ∈ plan.written) :
    tmpPath target ∈ plan.removedFiles :=
  List.mem_append_left _ (List.mem_append_left _ (List.mem_map_of_mem written))

@[simp]
theorem osDisk_mem_written : plan.osDisk ∈ plan.written := by simp [MachinePlan.written]

@[simp]
theorem installMedia_mem_written : plan.installMedia ∈ plan.written := by simp [MachinePlan.written]

@[simp]
theorem seed_mem_written : plan.seed ∈ plan.written := by simp [MachinePlan.written]

@[simp]
theorem installMedia_mem_removedFiles : plan.installMedia ∈ plan.removedFiles := by simp [MachinePlan.removedFiles]

@[simp]
theorem reportSocket_mem_removedFiles : plan.reportSocket ∈ plan.removedFiles := by simp [MachinePlan.removedFiles]

theorem tidy_ensureOsDisk : Tidy plan (ensureOsDisk plan group) := by
  have scratch : tmpPath plan.osDisk ∈ plan.removedFiles := tmpPath_mem_removedFiles osDisk_mem_written
  have target : ∃ target ∈ plan.written, tmpPath plan.osDisk = tmpPath target := ⟨_, osDisk_mem_written, rfl⟩
  simp [ensureOsDisk, createEmptyOsDisk, createOsDisk, cloneFile, scratch, target]

theorem tidy_ensureInstallMedia : Tidy plan (ensureInstallMedia plan group) := by
  have scratch : tmpPath plan.installMedia ∈ plan.removedFiles := tmpPath_mem_removedFiles installMedia_mem_written
  have target : ∃ target ∈ plan.written, tmpPath plan.installMedia = tmpPath target := ⟨_, installMedia_mem_written, rfl⟩
  simp [ensureInstallMedia, stageInstallMedia, cloneFile, scratch, target]

theorem tidy_writeSeed {iso : List UInt8} : Tidy plan (writeSeed plan iso group) := by
  have scratch : tmpPath plan.seed ∈ plan.removedFiles := tmpPath_mem_removedFiles seed_mem_written
  have target : ∃ target ∈ plan.written, tmpPath plan.seed = tmpPath target := ⟨_, seed_mem_written, rfl⟩
  simp [writeSeed, replaceSeed, readNofollow, scratch, target]

/-! ## Sockets -/

@[simp]
theorem tidy_grantApiSocket {uid : Nat} : Tidy plan (grantApiSocket plan.apiSocket uid group) := by
  funext acts
  simp [grantApiSocket]
  intro handle found
  split <;> simp

theorem tidy_ensureReportListener : Tidy plan (ensureReportListener identity plan) := by
  simp [ensureReportListener, bindListener, handToGuest]

theorem tidy_stopReportListener : Tidy plan (stopReportListener plan : Work ε Unit) := by
  simp [stopReportListener]

/-! ## The TPM -/

variable {tpm : TpmPlan} (planned : plan.tpm = some tpm)

include planned

theorem mem_of_tpm : tpm.ekDir ∈ machineTrees plan ∧ tpm.stateDir ∈ machineTrees plan ∧ tpm.setupEnv ∈ plan.written ∧
      tpm.setupEnv ∈ plan.removedFiles ∧ tpm.unit ∈ plan.units ∧ tpm.setupUnit ∈ plan.units := by
  simp [machineTrees, MachinePlan.written, MachinePlan.removedFiles, MachinePlan.units, planned]

theorem tidy_prepareTpm : Tidy plan (prepareTpm tpm identity) := by
  simp [prepareTpm, planned, mem_of_tpm planned]

theorem tidy_resetTpmState : Tidy plan (resetTpmState tpm identity) := by
  simp [resetTpmState, planned, mem_of_tpm planned]

theorem tidy_tpmManufactured : Tidy plan (tpmManufactured tpm : Work ε Bool) := by
  simp [tpmManufactured, ekFiles, planned]

theorem tidy_adoptTpmState : Tidy plan (adoptTpmState plan tpm group) := by
  funext acts
  simp [adoptTpmState, planned, mem_of_tpm planned]
  intro directory names
  -- the directory stays open while its entries are handed over
  refine wpe_mono (wpe_forM (fun acts => (directory, .openDirectory tpm.stateDir) ∈ acts.opened) (fun name _ acts opened => ?_)
    List.mem_cons_self) fun _ _ opened => .inr (.inl ⟨_, opened⟩)
  simp [adoptEntry, planned, opened]

omit planned

theorem tidy_ekCertificates {derToPem : List UInt8 → String} : Tidy plan (ekCertificates derToPem plan) := by
  unfold ekCertificates
  cases planned : plan.tpm with
  | none => simp
  | some tpm =>
    have read : ∀ names : List String, Tidy plan (names.mapM ((fun path => derToPem <$> readNofollow path) ∘ tpm.ekDir.join)) :=
      fun names => tidy_mapM fun name _ => by simp [readNofollow, planned]
    simp [ekFiles, planned, read]

theorem tidy_tpmSocketReady : Tidy plan (tpmSocketReady tpm : Work ε Bool) := by simp [tpmSocketReady]

/-! ## Removal -/

theorem tidy_removeMachine : Tidy plan (removeMachine plan) := by
  have trees : Tidy plan (forM (machineTrees plan) removeTree) :=
    tidy_forM fun path member => by simp [removeTree, member]
  unfold removeMachine removeEnvFile
  cases planned : plan.tpm with
  | none => simp [trees]
  | some tpm => simp [trees, mem_of_tpm planned]

theorem tidy_anyExists {paths : List Path} : Tidy plan (anyExists paths : Work ε Bool) := by
  induction paths with
  | nil => simp [anyExists]
  | cons path rest ih => simp_all [anyExists]

/-! ## Environment files and interfaces -/

theorem tidy_writeEnvFile {text : String} (planned : plan.tpm = some tpm) : Tidy plan (writeEnvFile tpm.setupEnv text) := by
  have scratch := tmpPath_mem_removedFiles (mem_of_tpm planned).2.2.1
  have target : ∃ target ∈ plan.written, tmpPath tpm.setupEnv = tmpPath target := ⟨_, (mem_of_tpm planned).2.2.1, rfl⟩
  simp [writeEnvFile, ensureEnvDir, planned, mem_of_tpm planned, scratch, target]

theorem tidy_ensureTap {owner : Nat} (planned : nic ∈ plan.nics) : Tidy plan (ensureTap nic owner) := by
  have named : nic.tap ∈ plan.nics.map NicPlan.tap := List.mem_map_of_mem planned
  simp [-List.mem_map, ensureTap, createTap, named]

theorem tidy_removeTap (planned : nic ∈ plan.nics) : Tidy plan (removeTap nic) := by
  have named : nic.tap ∈ plan.nics.map NicPlan.tap := List.mem_map_of_mem planned
  simp [-List.mem_map, removeTap, deletePersistentTap, named]

end Files

/-! ## The machine -/

section Converge

variable {plan : MachinePlan} {provider : Provider} {tpm : TpmPlan}

theorem tidy_startUnit {spec : UnitStart} (named : spec.name ∈ plan.units)
    (environment : ∀ env ∈ spec.environment, ∃ tpm, plan.tpm = some tpm ∧ env.path = tpm.setupEnv) :
    Tidy plan (startUnit spec) := by
  unfold startUnit setMemoryMax writeEnvironment
  cases given : spec.environment with
  | none => cases spec.memoryMax <;> simp [named]
  | some env =>
    obtain ⟨tpm, planned, same⟩ := environment env given
    have written : ∀ text, Tidy plan (writeEnvFile tpm.setupEnv text) := fun _ => tidy_writeEnvFile planned
    cases spec.memoryMax <;> cases rendered : env.render <;> simp_all

theorem unit_mem_units : plan.unit ∈ plan.units := List.mem_cons_self

theorem tidy_manufacture (planned : plan.tpm = some tpm) : Tidy plan (manufacture provider tpm) := by
  have setup : Tidy plan (startUnit (swtpmSetupUnit tpm)) :=
    tidy_startUnit (mem_of_tpm planned).2.2.2.2.2 fun env given => ⟨tpm, planned, by cases given; rfl⟩
  refine .bind (by simp) fun state => ?_
  split <;> simp [failureOf, tidy_resetTpmState planned, setup]

theorem tidy_runSwtpm (planned : plan.tpm = some tpm) : Tidy plan (runSwtpm provider plan tpm) := by
  have unit := (mem_of_tpm planned).2.2.2.2.1
  have started : Tidy plan (startUnit (swtpmUnit tpm)) := tidy_startUnit unit nofun
  refine .bind (by simp) fun state => ?_
  cases state <;>
    simp [startSwtpm, reportFailed, failureOf, tidy_adoptTpmState planned, tidy_tpmSocketReady, unit, started]

theorem tidy_ensureTpm (planned : plan.tpm = some tpm) : Tidy plan (ensureTpm provider plan tpm) := by
  simp [ensureTpm, tidy_prepareTpm planned, tidy_tpmManufactured planned, tidy_manufacture planned, tidy_runSwtpm planned]

theorem tidy_tpmServing : Tidy plan (tpmServing provider plan) := by
  unfold tpmServing
  cases planned : plan.tpm with
  | none => simp
  | some tpm => exact tidy_ensureTpm planned

theorem tidy_stopTpm : Tidy plan (stopTpm plan) := by
  unfold stopTpm
  cases planned : plan.tpm with
  | none => simp
  | some tpm => simp [mem_of_tpm planned]

theorem tidy_vmInfo : Tidy plan (vmInfo plan) := by simp [vmInfo]

theorem tidy_ensureVmm : Tidy plan (ensureVmm provider plan) := by
  have started : Tidy plan (startUnit (vmmUnit plan)) := tidy_startUnit unit_mem_units nofun
  refine .bind (by simp) fun state => ?_
  cases state <;> simp [apiSocketReady, failureOf, started, unit_mem_units]

theorem tidy_ensureVm : Tidy plan (ensureVm plan) := by
  refine .bind (by simp) fun version => .bind ?_ fun _ => .bind tidy_vmInfo fun state => ?_
  · cases checkVersion version <;> simp
  · split <;> simp

theorem tidy_observe : Tidy plan (observe provider plan) := by
  simp [observe, ejectInstaller, sealedReport, guestAddresses, tidy_ekCertificates]

theorem tidy_stopAll : Tidy plan (stopAll plan) := by
  simp [stopAll, tidy_stopTpm, tidy_stopReportListener, unit_mem_units]

theorem tidy_powerOff : Tidy plan (powerOff provider plan) := by
  have running : Tidy plan (runningVm provider plan) := by
    refine .bind (by simp [apiSocketReady]) fun result => ?_
    split <;> simp [tidy_vmInfo]
  simp [powerOff, running, tidy_stopAll]

variable {hostname : String} {userData : Option String}

theorem tidy_prepareHost : Tidy plan (prepareHost provider plan hostname userData) := by
  have taps : Tidy plan (forM plan.nics (ensureTap · plan.hostUid)) := tidy_forM fun _ => tidy_ensureTap
  simp [prepareHost, ensureSeed, tidy_prepareDirs, tidy_ensureOsDisk, tidy_ensureInstallMedia, tidy_writeSeed, taps]

theorem tidy_powerOn : Tidy plan (powerOn provider plan hostname userData) := by
  simp [powerOn, tidy_prepareHost, tidy_tpmServing, tidy_ensureReportListener, tidy_ensureVmm, tidy_ensureVm, tidy_observe]

theorem tidy_teardown (plan : MachinePlan) : Tidy plan (teardown plan) := by
  have taps : Tidy plan (forM plan.nics removeTap) := tidy_forM fun _ => tidy_removeTap
  simp [teardown, machineFilesExist, tidy_stopTpm, tidy_stopReportListener, tidy_removeMachine, tidy_anyExists, taps,
    unit_mem_units]

end Converge

/-! ## The whole pass -/

/-- What a pass over a copy may ask for: the finalizer goes only with a machine that is
being deleted, and on the host a pass does what its plan names, if there is one. -/
def Asks (config : HostConfig) (copy : HostMachine) : ControlCall → Prop
  | .host call => call = .clock ∨ isOurs copy config = true ∧ ∃ uid hostUid, copy.uid = some uid ∧
      copy.hostUid = some hostUid ∧
        ((∃ plan acts, planMachine uid copy.metadata.name config.provider.name copy.spec config hostUid = .ok plan ∧
            May plan acts call) ∨
          call = .unit (.stop (instanceUnit vmmTemplate (toString hostUid))))
  | .patchFinalizers _ finalizers =>
    copy.metadata.deletionTimestamp = none → machineFinalizer ∈ finalizers
  | _ => True

section Passes

variable {α : Type} {config : HostConfig} {copy : HostMachine} {provider : Provider} {key : String} {hostUid : Nat}
  {plan : MachinePlan}

theorem heeds_onMachine {pass : Pass α} (heeds : Heeds (permitting fun call => Asks config copy (.host call)) pass) :
    Heeds (permitting (Asks config copy)) (onMachine pass) :=
  heeds.embed

@[simp]
theorem heeds_clock : Heeds (permitting (Asks config copy)) clock :=
  heeds_onMachine (by simp [ask, Asks])

attribute [local simp] patchStatus patchProviderId patchFinalizers listMachines reportFailure

variable (ours : isOurs copy config = true)

include ours

theorem heeds_of_tidy {work : Pass α} (identified : copy.uid = some key) (recorded : copy.hostUid = some hostUid)
    (planned : planMachine key copy.metadata.name config.provider.name copy.spec config hostUid = .ok plan)
    (status : Option CloudHypervisorMachineStatus) (tidy : Tidy (effectivePlan plan status) work) :
    Heeds (permitting (Asks config copy)) (onMachine work) := by
  have walked : wpe (hostRules (effectivePlan plan status)) work (fun _ _ => True) (fun _ _ => True) {} := by rw [tidy]; trivial
  refine heeds_onMachine (heeds_of_wpe (fun _ => True) walked trivial (fun acts call _ may => ?_) fun _ _ _ _ =>
    ⟨_, rfl, trivial⟩)
  refine .inr ⟨ours, key, hostUid, identified, recorded, .inl ⟨plan, acts, planned, ?_⟩⟩
  unfold effectivePlan at may
  split at may <;> exact may

theorem heeds_convergeMachine (identified : copy.uid = some key) (recorded : copy.hostUid = some hostUid) :
    Heeds (permitting (Asks config copy)) (convergeMachine provider config copy key hostUid) := by
  unfold convergeMachine
  split
  · simp [Asks]
  · rename_i plan planned
    refine Heeds.bind (by simp [publishProviderId, Asks]) fun _ => Heeds.bind (Heeds.lift (heeds_of_tidy ours identified
      recorded planned copy.status (by simp [converge, tidy_powerOff, tidy_powerOn]))) fun result => ?_
    cases result <;> simp [publishObserved, Asks]

theorem heeds_tearDown (identified : copy.uid = some key) :
    Heeds (permitting (Asks config copy)) (tearDown config copy key) := by
  unfold tearDown
  cases recorded : copy.hostUid with
  | none => rfl
  | some hostUid =>
    simp only [Option.elim]
    split
    · rename_i plan planned
      have tidy : Tidy (effectivePlan plan none) (teardown plan) := tidy_teardown plan
      exact heeds_of_tidy ours identified recorded planned none tidy
    · refine heeds_onMachine ?_
      simp [systemd, Asks, ours, identified, recorded]

omit ours

theorem heeds_ensureFinalizer : Heeds (permitting (Asks config copy)) (ensureFinalizer copy) := by
  unfold ensureFinalizer
  cases sent : finalizerListWith copy.metadata.finalizers machineFinalizer with
  | none => rfl
  | some finalizers => simp [Asks, Operation.ensure_keeps sent]

theorem heeds_removeFinalizer (deleting : copy.metadata.deletionTimestamp.isSome = true) :
    Heeds (permitting (Asks config copy)) (removeFinalizer copy) := by
  have gone : copy.metadata.deletionTimestamp ≠ none := Option.isSome_iff_ne_none.mp deleting
  unfold removeFinalizer
  cases finalizerListWithout copy.metadata.finalizers machineFinalizer <;> simp [Asks, gone]

theorem heeds_reconcileLive (ours : isOurs copy config = true) (identified : copy.uid = some key) :
    Heeds (permitting (Asks config copy)) (reconcileLive provider config copy key) := by
  refine Heeds.bind heeds_ensureFinalizer fun _ => ?_
  cases recorded : copy.hostUid with
  | some hostUid => exact heeds_convergeMachine ours identified recorded
  | none => simp [recordUid, Asks, Option.forall]

theorem asks_reconcile (provider : Provider) (config : HostConfig) (copy : HostMachine) :
    Makes (Asks config copy) (reconcile provider config copy).run := by
  refine Heeds.makes ?_
  unfold reconcile
  cases ours : isOurs copy config with
  | false => rfl
  | true =>
    simp only [Bool.not_true, Bool.false_eq_true, if_false]
    cases identified : copy.uid with
    | none => rfl
    | some key =>
      simp only
      split
      · rename_i deleting
        refine Heeds.bind (heeds_tearDown ours identified) fun _ => Heeds.bind (heeds_removeFinalizer deleting) fun _ => ?_
        simp [Asks]
      · exact heeds_reconcileLive ours identified

end Passes

end Banlieue.ProviderCloudHypervisor
