import Banlieue.Cloudinit.Iso9660
import Banlieue.ProviderCloudHypervisor.Calls

namespace Banlieue.ProviderCloudHypervisor

open Banlieue.Api Banlieue.Data Banlieue.Data.Program

/-! # A machine's files on the host -/

/-- Whom the provider runs as. -/
structure Identity where
  uid : Nat
  group : Nat

def dirMode : Nat := 0o2770

def socketMode : Nat := 0o660

def permissionBits : Nat := 0o777

def otherBits : Nat := 0o007

def diskMode : Nat := 0o660

def seedMode : Nat := 0o440

def installMediaMode : Nat := 0o440

def tpmStateFileMode : Nat := 0o660

def ekDirMode : Nat := 0o700

def envFileMode : Nat := 0o600

def envDirMode : Nat := 0o700

def tmpPath (path : Path) : Path := path.withSuffix ".tmp"

/-- A call whose error names the path. -/
def fileAt (path : Path) (call : FileCall) : FileWork call.Value := wrapped (IoError.withPath · path) (file call)

/-- Whether there is something behind the path; links are followed. -/
def pathExists {ε : Type} (path : Path) : Work ε Bool := do
  return (← outcome (file (.metadata path))).toBool

/-- One kind of failure is as good as success; any other is passed on. -/
def tolerate (kind : IoErrorKind) (pass : IoError → IoError) (work : FileWork Unit) : FileWork Unit := do
  match ← outcome work with
  | .ok () => return
  | .error error => if error.kind = kind then return else throw (pass error)

def removeIfPresent (path : Path) : FileWork Unit :=
  tolerate .notFound (IoError.withPath · path) (file (.removeFile path))

def removeDirIfPresent (path : Path) : FileWork Unit :=
  tolerate .notFound (IoError.withPath · path) (file (.removeDirAll path))

def createDirIfAbsent (path : Path) : FileWork Unit :=
  tolerate .alreadyExists (IoError.withPath · path) (file (.createDir path))

def own (handle : Handle) (path : Path) (uid gid mode : Nat) : FileWork Unit := do
  fileAt path (.changeOwner handle uid gid)
  fileAt path (.changeMode handle mode)

def createDirNofollow (path : Path) : FileWork Handle := do
  createDirIfAbsent path
  fileAt path (.openDirectory path)

def prepareDir (plan : MachinePlan) (group : Nat) (path : Path) : FileWork Unit := do
  let handle ← createDirNofollow path
  own handle path plan.hostUid group dirMode

def prepareDirs (plan : MachinePlan) (group : Nat) : FileWork Unit := do
  prepareDir plan group plan.machineDir
  prepareDir plan group plan.runDir

/-! ## Disks -/

inductive CloneKind where
  | reflink | copy
deriving DecidableEq

inductive DiskOutcome where
  | existing
  | created (kind : CloneKind)
  | createdEmpty
deriving DecidableEq

/-- Copy into a file that did not exist before. -/
def cloneFile (source target : Path) : FileWork (Handle × CloneKind) := do
  let original ← file (.openSource source)
  let copy ← file (.createNew target none)
  match ← outcome (file (.reflink copy original)) with
  | .ok () => return (copy, .reflink)
  | .error _ =>
    file (.sparseCopy copy original)
    return (copy, .copy)

def createEmptyOsDisk (plan : MachinePlan) (group : Nat) : FileWork DiskOutcome := do
  let scratch := tmpPath plan.osDisk
  removeIfPresent scratch
  let disk ← fileAt scratch (.createNew scratch none)
  fileAt scratch (.setLength disk plan.osDiskBytes)
  own disk scratch plan.hostUid group diskMode
  file (.rename scratch plan.osDisk)
  return .createdEmpty

def createOsDisk (plan : MachinePlan) (group : Nat) : FileWork DiskOutcome := do
  let image ← fileAt plan.image (.metadata plan.image)
  if image.length > plan.osDiskBytes then
    throw ⟨.invalidInput, s!"image {plan.image.display} is {image.length} bytes, larger than the {plan.osDiskBytes}-byte OS disk requested"⟩
  else
    let scratch := tmpPath plan.osDisk
    removeIfPresent scratch
    let (disk, kind) ← wrapped (IoError.withPath · scratch) (cloneFile plan.image scratch)
    fileAt scratch (.setLength disk plan.osDiskBytes)
    own disk scratch plan.hostUid group diskMode
    file (.rename scratch plan.osDisk)
    return .created kind

/-- A disk that is there is never replaced: it may hold an installed guest. -/
def ensureOsDisk (plan : MachinePlan) (group : Nat) : FileWork DiskOutcome := do
  if ← pathExists plan.osDisk then return .existing
  else if plan.emptyOsDisk then createEmptyOsDisk plan group
  else createOsDisk plan group

def stageInstallMedia (plan : MachinePlan) (group : Nat) : FileWork Unit := do
  let scratch := tmpPath plan.installMedia
  removeIfPresent scratch
  let (copy, _) ← wrapped (IoError.withPath · plan.image) (cloneFile plan.image scratch)
  own copy scratch plan.hostUid group installMediaMode
  fileAt plan.installMedia (.rename scratch plan.installMedia)

/-- Staged while the installer is attached, deleted once it was ejected. -/
def ensureInstallMedia (plan : MachinePlan) (group : Nat) : FileWork Unit := do
  if !plan.hasInstallMedia then removeIfPresent plan.installMedia
  else
    match ← outcome (file (.linkMetadata plan.installMedia)) with
    | .ok found =>
      if found.fileType = .regular then return
      else
        removeIfPresent plan.installMedia
        stageInstallMedia plan group
    | .error error =>
      if error.kind = .notFound then stageInstallMedia plan group
      else throw (error.withPath plan.installMedia)

/-! ## The seed -/

def readNofollow (path : Path) : FileWork (List UInt8) := do
  let handle ← file (.openForReading path)
  file (.readToEnd handle)

def replaceSeed (plan : MachinePlan) (iso : List UInt8) (group : Nat) : FileWork Unit := do
  let scratch := tmpPath plan.seed
  removeIfPresent scratch
  let seed ← file (.createNew scratch none)
  file (.writeAll seed iso)
  own seed scratch plan.hostUid group seedMode
  file (.syncAll seed)
  file (.rename scratch plan.seed)

/-- A seed with the same bytes stays. -/
def writeSeed (plan : MachinePlan) (iso : List UInt8) (group : Nat) : FileWork Unit := do
  match ← outcome (readNofollow plan.seed) with
  | .ok existing => if existing = iso then return else replaceSeed plan iso group
  | .error _ => replaceSeed plan iso group

/-! ## Sockets -/

def octal (mode : Nat) : String := String.ofList (Nat.toDigits 8 mode)

def debugFileType (fileType : FileType) : String :=
  s!"FileType \x7b is_file: {decide (fileType = .regular)}, is_dir: {decide (fileType = .directory)}, is_symlink: {decide (fileType = .symlink)}, .. \x7d"

/-- Why a socket is not the one the guest's VMM has made. -/
def socketRefusal (found : Metadata) (uid group : Nat) : Option String :=
  if found.fileType ≠ .socket then some s!"not a socket ({debugFileType found.fileType})"
  else if found.uid ≠ uid ∨ found.gid ≠ group then
    some s!"owned {found.uid}:{found.gid}, expected {uid}:{group}"
  else if found.mode &&& permissionBits &&& otherBits ≠ 0 then
    some s!"mode {octal (found.mode &&& permissionBits)} grants access to others"
  else none

def grantApiSocket (path : Path) (uid group : Nat) : FileWork Bool := do
  match ← outcome (file (.openPath path)) with
  | .error error => if error.kind = .notFound then return false else throw (error.withPath path)
  | .ok handle =>
    let found ← file (.handleMetadata handle)
    match socketRefusal found uid group with
    | some why => throw ⟨.invalidData, path.display ++ ": " ++ why⟩
    | none =>
      if found.mode &&& permissionBits ≠ socketMode then
        fileAt path (.changeMode handle socketMode)
        return true
      else return true

def handToGuest (identity : Identity) (path : Path) (guestUid : Nat) : FileWork Unit := do
  let handle ← file (.openPath path)
  let found ← file (.handleMetadata handle)
  if found.fileType ≠ .socket ∨ found.uid ≠ identity.uid then
    throw ⟨.invalidData, path.display ++ ": not the socket this provider bound"⟩
  else
    file (.changeOwner handle guestUid identity.group)
    file (.changeMode handle socketMode)

def bindListener (identity : Identity) (plan : MachinePlan) : FileWork Unit := do
  tolerate .notFound id (file (.removeFile plan.reportSocket))
  file (.bindSocket plan.reportSocket)
  handToGuest identity plan.reportSocket plan.hostUid
  ask (.listener (.listen plan.uid))

def ensureReportListener (identity : Identity) (plan : MachinePlan) : FileWork Unit := do
  if ← ask (.listener (.listening plan.uid)) then
    match ← outcome (file (.linkMetadata plan.reportSocket)) with
    | .ok found => if found.fileType = .socket then return else bindListener identity plan
    | .error _ => bindListener identity plan
  else bindListener identity plan

def stopReportListener {ε : Type} (plan : MachinePlan) : Work ε Unit := do
  ask (.listener (.forget plan.uid))
  discard (outcome (file (.removeFile plan.reportSocket)))

/-! ## The TPM -/

def ekCertExtension : String := ".crt"

/-- The names of the certificates in a directory, in order. -/
def ekFiles (directory : Path) : FileWork (List Path) := do
  match ← outcome (file (.listDirectory directory)) with
  | .ok names =>
    return ((names.filter fun name => ekCertExtension.toList.isSuffixOf name.toList &&
      ekCertExtension.length < name.length).insertionSort (· ≤ ·)).map directory.join
  | .error error => if error.kind = .notFound then return [] else throw (error.withPath directory)

def prepareTpm (tpm : TpmPlan) (identity : Identity) : FileWork Unit := do
  fileAt tpm.ekDir.parent (.createDirAll tpm.ekDir.parent)
  let directory ← createDirNofollow tpm.ekDir
  own directory tpm.ekDir identity.uid identity.group ekDirMode

def resetTpmState (tpm : TpmPlan) (identity : Identity) : FileWork Unit := do
  fileAt tpm.stateDir.parent (.createDirAll tpm.stateDir.parent)
  removeDirIfPresent tpm.stateDir
  let directory ← createDirNofollow tpm.stateDir
  own directory tpm.stateDir identity.uid identity.group dirMode

/-- The certificates are the record that the TPM was manufactured. -/
def tpmManufactured {ε : Type} (tpm : TpmPlan) : Work ε Bool := do
  match ← outcome (ekFiles tpm.ekDir) with
  | .ok files => return !files.isEmpty
  | .error _ => return false

def adoptEntry (plan : MachinePlan) (tpm : TpmPlan) (group : Nat) (directory : Handle) (name : String) :
    FileWork Unit := do
  let shown := tpm.stateDir.join name
  let handle ← fileAt shown (.openEntry directory name)
  let found ← file (.handleMetadata handle)
  if found.fileType = .regular then own handle shown plan.hostUid group tpmStateFileMode
  else throw ⟨.invalidData, shown.display ++ ": not a regular file"⟩

def adoptTpmState (plan : MachinePlan) (tpm : TpmPlan) (group : Nat) : FileWork Unit := do
  let directory ← fileAt tpm.stateDir (.openDirectory tpm.stateDir)
  let names ← file (.entryNames directory)
  (names.filter fun name => name != "." && name != "..").forM (adoptEntry plan tpm group directory)
  own directory tpm.stateDir plan.hostUid group dirMode

/-- The certificates of a machine's TPM; the encoding of a certificate is left open. -/
def ekCertificates (derToPem : List UInt8 → String) (plan : MachinePlan) : FileWork (List String) := do
  match plan.tpm with
  | none => return []
  | some tpm =>
    let files ← ekFiles tpm.ekDir
    files.mapM fun path => do return derToPem (← readNofollow path)

def tpmSocketReady {ε : Type} (tpm : TpmPlan) : Work ε Bool := do
  match ← outcome (file (.linkMetadata tpm.socket)) with
  | .ok found => return decide (found.fileType = .socket)
  | .error _ => return false

/-! ## Removal -/

def removeTree (directory : Path) : FileWork Unit := do
  removeDirIfPresent directory
  if ← pathExists directory then
    throw (.other (directory.display ++ " still exists after removal"))
  else return

def machineTrees (plan : MachinePlan) : List Path :=
  [plan.runDir, plan.machineDir] ++ plan.tpm.elim [] fun tpm => [tpm.stateDir, tpm.ekDir]

def removeEnvFile (plan : MachinePlan) : FileWork Unit := plan.tpm.elim (pure ()) (removeIfPresent ·.setupEnv)

def removeMachine (plan : MachinePlan) : FileWork Unit := do
  removeEnvFile plan
  (machineTrees plan).forM removeTree

/-- Whether one of the paths is there; the ones after it are not looked at. -/
def anyExists {ε : Type} : List Path → Work ε Bool
  | [] => return false
  | path :: rest => do if ← pathExists path then return true else anyExists rest

def machineFilesExist {ε : Type} (plan : MachinePlan) : Work ε Bool :=
  anyExists ([plan.machineDir, plan.runDir] ++
    plan.tpm.elim [] fun tpm => [tpm.ekDir, tpm.stateDir, tpm.setupEnv])

/-! ## Environment files -/

def ensureEnvDir (directory : Path) : FileWork Unit := do
  match ← outcome (file (.createDir directory)) with
  | .ok () => file (.changePathMode directory envDirMode)
  | .error error => if error.kind = .alreadyExists then return else throw (error.withPath directory)

def writeEnvFile (path : Path) (text : String) : FileWork Unit := do
  ensureEnvDir path.parent
  let scratch := tmpPath path
  removeIfPresent scratch
  let handle ← fileAt scratch (.createNew scratch (some envFileMode))
  file (.writeAll handle text.toUTF8.toList)
  file (.syncAll handle)
  fileAt path (.rename scratch path)

/-! ## Interfaces -/

def createTap (nic : NicPlan) (owner : Nat) : FileWork Unit := do
  if ← ask (.tap (.interfaceExists nic.tap)) then return
  else consult (.tap (.createPersistentTap nic.tap owner)) id

def ensureTap (nic : NicPlan) (owner : Nat) : FileWork Unit := do
  createTap nic owner
  consult (.tap (.addToBridge nic.bridge nic.tap)) id
  consult (.tap (.setLinkUp nic.tap)) id

def deletePersistentTap (nic : NicPlan) : FileWork Unit := do
  if ← ask (.tap (.interfaceExists nic.tap)) then consult (.tap (.deletePersistentTap nic.tap)) id
  else return

def removeTap (nic : NicPlan) : FileWork Unit := do
  deletePersistentTap nic
  if ← ask (.tap (.interfaceExists nic.tap)) then
    throw (.other ("tap " ++ nic.tap ++ " still exists after delete"))
  else return

def addressesFor (table : List Neighbour) (nic : NicPlan) : List String :=
  let mac := String.ofList (nic.mac.toList.map Char.toLower)
  ((table.filter fun entry => entry.mac == mac && entry.device == nic.bridge).map Neighbour.ip).reverse.dedup.reverse

def guestAddresses (plan : MachinePlan) : FileWork (List String) := do
  let table ← consult .neighbours id
  return (plan.nics.flatMap (addressesFor table)).reverse.dedup.reverse

end Banlieue.ProviderCloudHypervisor
