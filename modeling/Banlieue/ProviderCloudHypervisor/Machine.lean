import Banlieue.ProviderCloudHypervisor.HostFiles

namespace Banlieue.ProviderCloudHypervisor

open Banlieue.Api Banlieue.Cloudinit Banlieue.Data Banlieue.Data.Program

/-! # Converging one machine, and tearing it down -/

/-- The process that runs the passes.  How a certificate is encoded is left open. -/
structure Provider where
  identity : Identity
  derToPem : List UInt8 → String

inductive Phase where
  | startingTpm | startingVmm | running | stopping | stopped
deriving DecidableEq

structure Observed where
  phase : Phase := .stopped
  addresses : List String := []
  ekCertificates : List String := []
  guestInstalled : Bool := false
  installMediaDetached : Option Bool := none
  sealed : List String := []
  now : Timestamp := ⟨0⟩
deriving DecidableEq

def onHost {α : Type} (work : FileWork α) : Pass α := wrapped .io work

/-! ## The version of the VMM -/

structure VmmVersion where
  major : Nat
  minor : Nat
  patch : Nat
deriving DecidableEq

def pinnedVersion : VmmVersion := ⟨53, 0, 0⟩

def trim (text : List Char) : List Char :=
  ((text.dropWhile Char.isWhitespace).reverse.dropWhile Char.isWhitespace).reverse

def parseVersion (text : String) : Option VmmVersion := do
  let core := ((trim text.toList).dropWhile (· == 'v')).takeWhile fun char => char != '-' && char != '+'
  match (core.splitOn '.').map fun part => parseUnsigned (2 ^ 32) (String.ofList part) with
  | some major :: some minor :: [] => some ⟨major, minor, 0⟩
  | some major :: some minor :: some patch :: _ => some ⟨major, minor, patch⟩
  | _ => none

def checkVersion (found : String) : Except VmmError VmmVersion :=
  let unsupported := .versionUnsupported found (toString pinnedVersion.major ++ "." ++ toString pinnedVersion.minor)
  match parseVersion found with
  | none => .error unsupported
  | some version =>
    if version.major < pinnedVersion.major ∨
        version.major = pinnedVersion.major ∧ version.minor < pinnedVersion.minor then .error unsupported
    else .ok version

/-! ## Units -/

def writeEnvironment : Option EnvFile → Pass Unit
  | none => return
  | some env => do
    let text ← ofExcept .systemd env.render
    onHost (writeEnvFile env.path text)

def setMemoryMax (spec : UnitStart) : Pass Unit :=
  spec.memoryMax.elim (pure ()) fun bytes => systemd (.setMemoryMax spec.name bytes)

def startUnit (spec : UnitStart) : Pass Unit := do
  writeEnvironment spec.environment
  setMemoryMax spec
  systemd (.start spec.name)

def failureOf (unit : String) : Pass String := do
  return (← systemd (.failure unit)).getD "failed, reason unknown"

/-- Why a unit failed; its failure is cleared, so that a later pass can try again. -/
def reportFailed (unit : String) : Pass Error := do
  let why ← failureOf unit
  systemd (.stop unit)
  return .vmmExited (unit ++ ": " ++ why)

/-! ## The TPM -/

def manufacture (provider : Provider) (tpm : TpmPlan) : Pass Unit := do
  match ← systemd (.state tpm.setupUnit) with
  | some .failed =>
    let why ← failureOf tpm.setupUnit
    throw (.vmmExited (tpm.setupUnit ++ ": " ++ why ++ "; fix the host, then \x60systemctl reset-failed " ++
      tpm.setupUnit ++ "\x60 to retry"))
  | some _ => return
  | none =>
    onHost (resetTpmState tpm provider.identity)
    startUnit (swtpmSetupUnit tpm)

def startSwtpm (provider : Provider) (plan : MachinePlan) (tpm : TpmPlan) : Pass Unit := do
  onHost (adoptTpmState plan tpm provider.identity.group)
  startUnit (swtpmUnit tpm)

def runSwtpm (provider : Provider) (plan : MachinePlan) (tpm : TpmPlan) : Pass Bool := do
  match ← systemd (.state tpm.unit) with
  | none =>
    startSwtpm provider plan tpm
    return false
  | some state =>
    if state.isRunning then tpmSocketReady tpm
    else if state = .failed then throw (← reportFailed tpm.unit)
    else
      systemd (.stop tpm.unit)
      startSwtpm provider plan tpm
      return false

/-- One step towards a serving TPM.  Whether it was manufactured is told by the
certificates, which the guest cannot reach. -/
def ensureTpm (provider : Provider) (plan : MachinePlan) (tpm : TpmPlan) : Pass Bool := do
  onHost (prepareTpm tpm provider.identity)
  if ← tpmManufactured tpm then
    -- the certificates are written before the state is saved, so the setup may still be running
    if ((← systemd (.state tpm.setupUnit)).map UnitState.isRunning).getD false then return false
    else runSwtpm provider plan tpm
  else
    manufacture provider tpm
    return false

def tpmServing (provider : Provider) (plan : MachinePlan) : Pass Bool :=
  plan.tpm.elim (pure true) (ensureTpm provider plan)

/-- The units of the TPM stop after the VMM that uses them. -/
def stopTpm (plan : MachinePlan) : Pass Unit :=
  plan.tpm.elim (pure ()) fun tpm => do
    systemd (.stop tpm.unit)
    systemd (.stop tpm.setupUnit)

/-! ## The VMM -/

def vmInfo (plan : MachinePlan) : Pass (Option VmState) := do
  match ← outcome (vmm plan .info) with
  | .ok state => return some state
  | .error error => if error.isNotFound then return none else throw (.vmm error)

def apiSocketReady (provider : Provider) (plan : MachinePlan) : Pass Bool :=
  onHost (grantApiSocket plan.apiSocket plan.hostUid provider.identity.group)

/-- Whether the VMM can be talked to.  One that failed is reported before it is started
again. -/
def ensureVmm (provider : Provider) (plan : MachinePlan) : Pass Bool := do
  match ← systemd (.state plan.unit) with
  | none =>
    startUnit (vmmUnit plan)
    return false
  | some state =>
    if state.isRunning then apiSocketReady provider plan
    else if state = .failed then
      let why ← failureOf plan.unit
      systemd (.stop plan.unit)
      throw (.vmmExited why)
    else
      systemd (.stop plan.unit)
      startUnit (vmmUnit plan)
      return false

def ensureVm (plan : MachinePlan) : Pass Unit := do
  let version ← wrapped .vmm (vmm plan .ping)
  discard (ofExcept .vmm (checkVersion version))
  match ← vmInfo plan with
  | none =>
    wrapped .vmm (vmm plan (.create plan.guest))
    wrapped .vmm (vmm plan .boot)
  | some .created | some .shutdown => wrapped .vmm (vmm plan .boot)
  | some _ => return

/-- Once the installed guest has reported, the installer is taken from the running VM. -/
def ejectInstaller (plan : MachinePlan) (installed : Bool) : Pass (Option Bool) := do
  if plan.hasInstallMedia then
    if installed then
      wrapped .vmm (vmm plan (.removeDevice diskIdInstall))
      return some true
    else return some false
  else return none

def sealedReport (plan : MachinePlan) : Pass (List String) :=
  if plan.firstBootSealing.isSome then ask (.listener (.sealed plan.uid)) else return []

def observe (provider : Provider) (plan : MachinePlan) : Pass Observed := do
  let addresses ← onHost (guestAddresses plan)
  let certificates ← onHost (ekCertificates provider.derToPem plan)
  let installed ← ask (.listener (.installed plan.uid))
  let sealed ← sealedReport plan
  let now ← ask .clock
  let detached ← ejectInstaller plan installed
  return ⟨.running, addresses, certificates, installed, detached, sealed, now⟩

/-! ## The whole machine -/

def stopAll (plan : MachinePlan) : Pass Observed := do
  systemd (.stop plan.unit)
  stopTpm plan
  stopReportListener plan
  return { phase := .stopped }

/-- A socket that cannot be trusted does not keep the machine on. -/
def runningVm (provider : Provider) (plan : MachinePlan) : Pass (Option VmState) := do
  match ← outcome (apiSocketReady provider plan) with
  | .ok true => vmInfo plan
  | _ => return none

def powerOff (provider : Provider) (plan : MachinePlan) : Pass Observed := do
  if ((← systemd (.state plan.unit)).map UnitState.isRunning).getD false then
    if (← runningVm provider plan) = some .running then
      wrapped .vmm (vmm plan .powerButton)
      return { phase := .stopping }
    else stopAll plan
  else stopAll plan

def ensureSeed (provider : Provider) (plan : MachinePlan) (hostname : String) (userData : Option String) :
    Pass Unit := do
  if plan.needsSeed then
    let iso ← ofExcept (fun error => .io (.other (IsoError.text error)))
      (buildSeedIso hostname plan.uid userData plan.networkConfig)
    onHost (writeSeed plan iso provider.identity.group)
  else return

def prepareHost (provider : Provider) (plan : MachinePlan) (hostname : String) (userData : Option String) :
    Pass Unit := do
  onHost (prepareDirs plan provider.identity.group)
  discard (onHost (ensureOsDisk plan provider.identity.group))
  onHost (ensureInstallMedia plan provider.identity.group)
  ensureSeed provider plan hostname userData
  onHost (plan.nics.forM (ensureTap · plan.hostUid))

def powerOn (provider : Provider) (plan : MachinePlan) (hostname : String) (userData : Option String) :
    Pass Observed := do
  prepareHost provider plan hostname userData
  if ← tpmServing provider plan then
    -- before the VMM, so that a report of the first boot is not lost
    onHost (ensureReportListener provider.identity plan)
    if ← ensureVmm provider plan then
      ensureVm plan
      observe provider plan
    else return { phase := .startingVmm }
  else return { phase := .startingTpm }

/-- One step towards the desired state. -/
def converge (provider : Provider) (plan : MachinePlan) (hostname : String) (userData : Option String)
    (desired : PowerState) : Pass Observed :=
  if desired = .poweredOff then powerOff provider plan else powerOn provider plan hostname userData

/-- Remove all that the plan names, and check that it is gone. -/
def teardown (plan : MachinePlan) : Pass Unit := do
  systemd (.stop plan.unit)
  stopTpm plan
  stopReportListener plan
  if (← systemd (.state plan.unit)).isSome then throw (.systemd (plan.unit ++ " is still loaded after stop"))
  else
    onHost (plan.nics.forM removeTap)
    onHost (removeMachine plan)
    if ← machineFilesExist plan then throw (.io (.other (plan.uid ++ " still has files after removal")))
    else return

end Banlieue.ProviderCloudHypervisor
