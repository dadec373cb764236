import Banlieue.Image.Jobs

namespace Banlieue.ProviderLibvirt.Images

open Banlieue.Api hiding BuildArtifactStatus ImageSource ZoneImageStatus ImagePerProviderStatus
open Banlieue.Data Banlieue.Data.Program Banlieue.Image
open Banlieue.Imagebuilder (BuildArtifactKind BuildArtifactPhase OciArtifactPhase OciArtifactStatus BuildArtifactStatus ImageSource)

/-! # Images of the libvirt provider -/

namespace Reasons

def reconciled : String := "Reconciled"
def buildPending : String := "BuildPending"
def buildFailed : String := "BuildFailed"
def noFailureDomains : String := "NoFailureDomains"
def importing : String := "Importing"
def importFailed : String := "ImportFailed"
def volumeNotFound : String := "VolumeNotFound"
def hostUnreachable : String := "HostUnreachable"
def unsupportedSourceKind : String := "UnsupportedSourceKind"

end Reasons

structure Context where
  providerName : Option String := none
  importImage : String
  importServiceAccount : String

def findLibvirtSource (sources : List ImageSource) : Option ImageSource :=
  sources.find? fun source =>
    source.providerClass == "libvirt" && (source.kind == .backingFile || source.kind == .url)

def gateOnRawDisk (rawDisk : Option BuildArtifactStatus) : Except (String × String) BuildArtifactStatus :=
  match rawDisk with
  | none => .error (Reasons.buildPending, "waiting for banlieue-imagebuilder to build the raw disk")
  | some artifact =>
    match artifact.phase with
    | .ready => .ok artifact
    | .failed => .error (Reasons.buildFailed, artifact.message.getD "raw disk build failed")
    | phase => .error (Reasons.buildPending, "raw disk build in progress (" ++ phase.debug ++ ")")

/-- The pools of the declared storage classes that were found on the host, each once. -/
def targetPools (provider : Provider) : List String :=
  let verified := provider.failureDomains.flatMap fun domain => domain.attributes.availableStorageClasses
  let pools := (provider.spec.capabilities.storageClasses.filter fun mapping => verified.contains mapping.name)
    |>.filterMap fun mapping => mapping.target.bind (·.get "pool")
  pools.dedup.mergeSort (· ≤ ·)

def importJobName (image provider pool : String) : String :=
  let raw := "import-" ++ image ++ "-" ++ provider ++ "-" ++ pool
  String.ofList ((raw.toList.map fun char => (if char.isAlphanum then char else '-').toLower).take 63)

def zone (pool : String) (ready : Bool) (reason message : String) : ZoneImageStatus :=
  { name := pool, ready := ready, reason := some reason, message := some message }

def rowWithRef (provider : Provider) (ready : Bool) (reason : String) (message : Option String)
    (zones : List ZoneImageStatus) (resolvedRef : Option String) : ImagePerProviderStatus :=
  { providerName := provider.name
    providerNamespace := namespaceOf provider
    ready := ready
    resolvedRef := resolvedRef
    reason := some reason
    message := message
    zones := zones }

def row (provider : Provider) (ready : Bool) (reason : String) (message : Option String)
    (zones : List ZoneImageStatus) : ImagePerProviderStatus :=
  rowWithRef provider ready reason message zones none

def zoneFromJob (pool jobName : String) (job : Job) : ZoneImageStatus :=
  if job.status.succeeded > 0 then
    { name := pool, ready := true, resolvedRef := some (pool ++ "/" ++ jobName), reason := some Reasons.reconciled }
  else if job.status.failed > 0 then
    zone pool false Reasons.importFailed ("import Job " ++ jobName ++ " failed")
  else zone pool false Reasons.importing "import Job running"

/-- A reference may be a path; a volume is looked up by its last component. -/
def backingFileVolumeName (reference : String) : String :=
  String.ofList ((reference.toList.reverse.takeWhile (· != '/')).reverse)

def urlVolumeName (imageName : String) (kind : BuildArtifactKind) : String :=
  let suffix := match kind with
    | .cloudImage => ".raw"
    | .iso => ".iso"
  if suffix.toList.isSuffixOf imageName.toList then imageName else imageName ++ suffix

def buildImportJob (ctx : Context) (jobName vmimage : String) (provider : Provider) (pool : String)
    (artifact : BuildArtifactStatus) : JobManifest :=
  { name := jobName
    labels := [("app.kubernetes.io/name", "banlieue"), ("app.kubernetes.io/component", "libvirt-import"),
      ("banlieue.io/vmimage", vmimage), ("banlieue.io/pool", pool)]
    owner := ownerReferences artifact
    image := ctx.importImage
    serviceAccount := some ctx.importServiceAccount
    args := ["provider", "libvirt", "import", "--vmimage", vmimage, "--provider", provider.name,
        "--provider-namespace", namespaceOf provider, "--pool", pool] ++
      ["--source", "/artifacts/" ++ artifact.file.getD "", "--volume-name", urlVolumeName vmimage artifact.kind] ++
      match artifact.checksum with
      | some checksum => ["--checksum", checksum]
      | none => []
    claimName := artifact.pvcRef.getD "" }

/-- The Job for one pool: reported as it is, or made where there is none. -/
def ensureImportJob (ctx : Context) (provider : Provider) (imageName : String) (artifact : BuildArtifactStatus)
    (pool : String) : Work ZoneImageStatus := do
  let jobName := importJobName imageName provider.name pool
  match ← getJob jobName with
  | .ok job => return zoneFromJob pool jobName job
  | .error .notFound =>
    match ← applyJob (buildImportJob ctx jobName imageName provider pool artifact) with
    | .ok _ => return zone pool false Reasons.importing "import Job created"
    | .error why => return zone pool false Reasons.importFailed why
  | .error why => return zone pool false Reasons.importFailed why.message

def ensureImportJobs (ctx : Context) (provider : Provider) (imageName : String) (artifact : BuildArtifactStatus)
    (pools : List String) : Work (List ZoneImageStatus) :=
  pools.mapM (ensureImportJob ctx provider imageName artifact)

/-- Which of the pools hold the volume. -/
def backingFilePresence (provider : Provider) (pools : List String) (volume : String) :
    ExceptT String Work (List (String × Bool)) := do
  consult (.resolveCredentials provider) (·.mapError ("credentials: " ++ ·))
  consult (.connect provider) (·.mapError ("connecting to the host: " ++ ·))
  pools.mapM fun pool => do
    let names : List String ← consult (.volumes provider pool) id
    return (pool, names.contains volume)

def backingFileRow (provider : Provider) (source : ImageSource) (present : List (String × Bool)) :
    ImagePerProviderStatus :=
  let volume := backingFileVolumeName source.reference
  let missing := (present.filter fun entry => !entry.2).map Prod.fst
  if present.isEmpty then
    row provider false Reasons.volumeNotFound (some ("no pool was checked for volume " ++ volume)) []
  else if !missing.isEmpty then
    row provider false Reasons.volumeNotFound
      (some ("volume " ++ volume ++ " is not in pool(s) " ++ ", ".intercalate missing)) []
  else rowWithRef provider true Reasons.reconciled none [] (some volume)

def noFailureDomainsRow (provider : Provider) : ImagePerProviderStatus :=
  row provider false Reasons.noFailureDomains (some "Provider has published no failure domains yet") []

def reconcileForProvider (ctx : Context) (provider : Provider) (source : ImageSource)
    (rawDisk : Option BuildArtifactStatus) (imageName : String) : Work ImagePerProviderStatus :=
  match source.kind with
  | .backingFile => do
    let pools := targetPools provider
    if pools.isEmpty then return noFailureDomainsRow provider
    match ← (backingFilePresence provider pools (backingFileVolumeName source.reference)).run with
    | .ok present => return backingFileRow provider source present
    | .error why => return row provider false Reasons.hostUnreachable (some why) []
  | .url =>
    match gateOnRawDisk rawDisk with
    | .error (reason, message) => return row provider false reason (some message) []
    | .ok artifact => do
      let pools := targetPools provider
      if pools.isEmpty then return noFailureDomainsRow provider
      let zones ← ensureImportJobs ctx provider imageName artifact pools
      let ready := zones.all ZoneImageStatus.ready
      let reason :=
        if ready then Reasons.reconciled
        else if zones.any fun zone => zone.reason == some Reasons.importFailed then Reasons.importFailed
        else Reasons.importing
      return rowWithRef provider ready reason none zones
        (if ready then some (urlVolumeName imageName artifact.kind) else none)
  | .template =>
    return row provider false Reasons.unsupportedSourceKind (some "Template sources are a vSphere concept") []

/-- A pass over an image, with the artifact its copy of the image reports. -/
def reconcile (ctx : Context) (imageName : String) (sources : List ImageSource)
    (rawDisk : Option BuildArtifactStatus) : Pass Unit := do
  match findLibvirtSource sources with
  | none => return
  | some source => do
    let listed : List Provider ← consult .listProviders id
    let providers := providersInScope (providersOfClass listed "libvirt") ctx.providerName
    if providers.isEmpty then return
    let rows ← ExceptT.lift (providers.mapM fun provider =>
      reconcileForProvider ctx provider source rawDisk imageName)
    consult (.patchStatus .libvirt imageName rows) id

end Banlieue.ProviderLibvirt.Images
