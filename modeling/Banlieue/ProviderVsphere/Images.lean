import Banlieue.Data.Basics
import Banlieue.Image.Jobs
import Banlieue.Sdk.Naming

namespace Banlieue.ProviderVsphere.Images

open Banlieue.Api hiding BuildArtifactStatus ImageSource ZoneImageStatus ImagePerProviderStatus
open Banlieue.Data Banlieue.Data.Program Banlieue.Image
open Banlieue.Imagebuilder (BuildArtifactKind BuildArtifactPhase OciArtifactPhase OciArtifactStatus BuildArtifactStatus ImageSource)

/-! # Images of the vSphere provider -/

/-! ## Names -/

/-- Runs of anything but letters and digits become one dash, with none at the ends. -/
def slugify (text : List Char) : List Char :=
  let slug := text.foldl (fun (state : List Char × Bool) char =>
    if char.isAlphanum then (char.toLower :: state.1, false)
    else if state.2 then state
    else ('-' :: state.1, true)) ([], true)
  (slug.1.dropWhile (· == '-')).reverse

/-- Names that fit are the joined parts; others keep their head and get a hash of the
parts. -/
def collisionSafeName (parts : List String) : String :=
  let slug := slugify ("-".intercalate parts).toList
  if slug.length ≤ Sdk.maxNameLen then String.ofList slug
  else
    let hash := Sdk.lowerHex Sdk.hashSuffixLen (Sdk.fnv1a32 ("\x00".intercalate parts)).toNat
    let head := ((slug.take (Sdk.maxNameLen - Sdk.hashSuffixLen - 1)).reverse.dropWhile (· == '-')).reverse
    String.ofList (head ++ '-' :: hash)

def importJobName (image provider failureDomain : String) : String :=
  collisionSafeName ["import", image, provider, failureDomain]

/-- Every zone has a folder of its own, under the root if there is one. -/
def effectiveFolder (root : Option String) (failureDomain : String) : String :=
  match root with
  | some folder =>
    if folder = "" then failureDomain
    else String.ofList ((folder.toList.reverse.dropWhile (· == '/')).reverse) ++ "/" ++ failureDomain
  | none => failureDomain

/-! ## Forced imports -/

def annotationForceReimport : String := "banlieue.io/force-reimport"

def forceReimportHandledDomain : String := "force-reimport-handled.banlieue.io"

/-- What a pass reads of the annotations and the template settings of an image. -/
structure VMImageView where
  name : String
  annotations : List (String × String) := []
  sources : List ImageSource := []
  buildArtifact : Option BuildArtifactStatus := none
  forceUpload : Bool := false
  forceCreate : Bool := false
  /-- The settings of the template as flags of the import, `--nic` to `--disk-controller`. -/
  settings : List (String × String) := []
  rootFolder : Option String := none
  installTimeoutSeconds : Option Int := none
  installMode : Option InstallMode := none

def forceReimportRequested (annotations : List (String × String)) : Bool :=
  (annotations.lookup annotationForceReimport).any fun value => value.toList.map Char.toLower == "true".toList

def forceReimportHandledKey (provider : Provider) : String :=
  forceReimportHandledDomain ++ "/" ++ collisionSafeName [namespaceOf provider, provider.name]

def forceReimportHandled (keys : List String) (provider : Provider) : Bool :=
  keys.contains (forceReimportHandledKey provider)

def forceReimportPendingFor (image : VMImageView) (provider : Provider) : Bool :=
  forceReimportRequested image.annotations && !forceReimportHandled (image.annotations.map Prod.fst) provider

def forceReimportComplete (keys : List String) (all : List Provider) : Bool :=
  all.all (forceReimportHandled keys)

/-- The request goes, with every marker that is on the image. -/
def clearForceReimportPatch (keys : List String) : List (String × Option String) :=
  let marker := (forceReimportHandledDomain ++ "/").toList
  (annotationForceReimport, none) ::
    (keys.filter fun key => marker.isPrefixOf key.toList).map fun key => (key, none)

def settleForceReimport (image : VMImageView) (actedFor all : List Provider) : Pass Unit := do
  let current : List String ←
    if actedFor.isEmpty then pure (image.annotations.map Prod.fst)
    else consult (.patchAnnotations image.name
      (actedFor.map fun provider => (forceReimportHandledKey provider, some "true"))) id
  if forceReimportComplete current all then
    discard (consult (.patchAnnotations image.name (clearForceReimportPatch current)) id : Pass (List String))

/-! ## The Jobs -/

namespace Reasons

def reconciled : String := "Reconciled"
def templateNotFound : String := "TemplateNotFound"
def secretUnavailable : String := "SecretUnavailable"
def connectFailed : String := "ConnectFailed"
def lookupFailed : String := "LookupFailed"
def buildPending : String := "BuildPending"
def buildFailed : String := "BuildFailed"
def noFailureDomains : String := "NoFailureDomains"
def importing : String := "Importing"
def importFailed : String := "ImportFailed"
def wrongArtifactKind : String := "WrongArtifactKind"
def contentLibraryNotImplemented : String := "ContentLibraryNotImplemented"
def unsupportedSourceKind : String := "UnsupportedSourceKind"

end Reasons

structure Context where
  providerName : Option String := none
  importImage : String
  importServiceAccount : String
  /-- `spec.useContentLibrary` of each provider. -/
  useContentLibrary : Provider → Bool := fun _ => false

def findVsphereSource (sources : List ImageSource) : Option ImageSource :=
  sources.find? fun source =>
    source.providerClass == "vsphere" && (source.kind == .template || source.kind == .url)

def gateOnBuildArtifact (buildArtifact : Option BuildArtifactStatus) : Except (String × String) BuildArtifactStatus :=
  match buildArtifact with
  | none => .error (Reasons.buildPending,
      "waiting for banlieue-imagebuilder (VMImage.status.buildArtifact not set yet)")
  | some artifact =>
    match artifact.phase with
    | .failed => .error (Reasons.buildFailed, artifact.message.getD "ISO build failed")
    | .ready =>
      if artifact.kind = .iso then .ok artifact
      else .error (Reasons.wrongArtifactKind, "buildArtifact.kind is " ++ artifact.kind.debug ++
        ", but the vSphere provider imports only iso artifacts")
    | phase => .error (Reasons.buildPending, "ISO build in progress (" ++ phase.debug ++ ")")

def zoneRow (failureDomain : String) (ready : Bool) (reason message : String) : ZoneImageStatus :=
  { name := failureDomain, ready := ready, reason := some reason, message := some message }

def zoneFromJob (failureDomain imageName folder jobName : String) (job : Job) : ZoneImageStatus :=
  if job.status.succeeded > 0 then
    { name := failureDomain, ready := true, resolvedRef := some imageName, templateFolder := some folder,
      reason := some Reasons.reconciled }
  else if job.status.failed > 0 then
    zoneRow failureDomain false Reasons.importFailed ("import Job " ++ jobName ++ " failed")
  else zoneRow failureDomain false Reasons.importing "import Job running"

def perProviderFailure (provider : Provider) (reason message : String) : ImagePerProviderStatus :=
  { providerName := provider.name, providerNamespace := namespaceOf provider, ready := false,
    reason := some reason, message := some message }

def installModeText : InstallMode → String
  | .immediate => "immediate"
  | .deferred => "deferred"
  | .manual => "manual"

def optionFlag {α : Type} (flag : String) (text : α → String) (value : Option α) : List String :=
  match value with
  | some value => [flag, text value]
  | none => []

def buildImportJob (ctx : Context) (jobName : String) (image : VMImageView) (provider : Provider)
    (failureDomain : String) (artifact : BuildArtifactStatus) : JobManifest :=
  { name := jobName
    labels := [("app.kubernetes.io/name", "banlieue"), ("app.kubernetes.io/component", "vsphere-import"),
      ("banlieue.io/vmimage", image.name), ("banlieue.io/failure-domain", failureDomain)]
    owner := ownerReferences artifact
    image := ctx.importImage
    serviceAccount := some ctx.importServiceAccount
    args := ["provider", "vsphere", "image-import", "--vmimage", image.name, "--provider", provider.name,
        "--provider-namespace", namespaceOf provider, "--failure-domain", failureDomain] ++
      (["--source", "/artifacts/" ++ artifact.file.getD ""] ++ optionFlag "--checksum" id artifact.checksum ++
        (if image.forceUpload then ["--force-upload"] else []) ++
        (if image.forceCreate then ["--force-create"] else []) ++
        image.settings.flatMap (fun setting => [setting.1, setting.2]) ++
        optionFlag "--root-folder" id image.rootFolder ++
        optionFlag "--install-timeout-seconds" toString image.installTimeoutSeconds ++
        optionFlag "--install-mode" installModeText image.installMode)
    claimName := artifact.pvcRef.getD "" }

def importRetryAfterSecs : Nat := 600

/-- Whether the Job has failed, and that long ago. -/
def importRetryDue (job : Job) (now : Nat) : Bool :=
  if job.status.failed = 0 ∨ job.status.succeeded > 0 then false
  else
    ((job.status.conditions.filter fun condition => condition.type == "Failed" && condition.status == "True")
      |>.filterMap JobCondition.lastTransitionTime).any fun failedAt => decide (now - failedAt ≥ importRetryAfterSecs)

def retryFailedImportJob (failureDomain jobName : String) : Work ZoneImageStatus := do
  match ← deleteJob jobName with
  | .ok _ => return zoneRow failureDomain false Reasons.importing ("import Job " ++ jobName ++
      " failed more than " ++ toString importRetryAfterSecs ++ "s ago; retrying (ADR-0020)")
  | .error why => return zoneRow failureDomain false Reasons.importFailed ("import Job " ++ jobName ++
      " failed, and deleting it to retry failed: " ++ why.message)

def createImportJob (ctx : Context) (image : VMImageView) (provider : Provider) (failureDomain jobName : String)
    (artifact : BuildArtifactStatus) : Work ZoneImageStatus := do
  match ← applyJob (buildImportJob ctx jobName image provider failureDomain artifact) with
  | .ok _ => return zoneRow failureDomain false Reasons.importing "import Job created"
  | .error why => return zoneRow failureDomain false Reasons.importing why

/-- The Job for one failure domain: made anew if that is asked for, else reported as it
is, and made where there is none. -/
def ensureImportJob (ctx : Context) (provider : Provider) (image : VMImageView) (reimport : Bool)
    (artifact : BuildArtifactStatus) (domain : FailureDomain) : Work ZoneImageStatus := do
  let jobName := importJobName image.name provider.name domain.name
  if reimport then
    match ← deleteJob jobName with
    | .error (.other why) => return zoneRow domain.name false Reasons.importFailed why
    | _ => createImportJob ctx image provider domain.name jobName artifact
  else
    match ← getJob jobName with
    | .ok job => do
      let now : Nat ← request Call.clock
      if importRetryDue job now then retryFailedImportJob domain.name jobName
      else return zoneFromJob domain.name image.name (effectiveFolder image.rootFolder domain.name) jobName job
    | .error .notFound => createImportJob ctx image provider domain.name jobName artifact
    | .error why => return zoneRow domain.name false Reasons.importFailed why.message

def ensureImportJobs (ctx : Context) (provider : Provider) (image : VMImageView) (reimport : Bool)
    (artifact : BuildArtifactStatus) (domains : List FailureDomain) : Work (List ZoneImageStatus) :=
  domains.mapM (ensureImportJob ctx provider image reimport artifact)

def noFailureDomainsRow (provider : Provider) : ImagePerProviderStatus :=
  perProviderFailure provider Reasons.noFailureDomains "Provider has no status.failureDomains[] published yet"

def reconcileUrlSource (ctx : Context) (provider : Provider) (image : VMImageView) (reimport : Bool) :
    Work ImagePerProviderStatus :=
  match gateOnBuildArtifact image.buildArtifact with
  | .error (reason, message) => return perProviderFailure provider reason message
  | .ok artifact => do
    if ctx.useContentLibrary provider then
      return perProviderFailure provider Reasons.contentLibraryNotImplemented
        ("Provider.spec.useContentLibrary=true, but the Content Library import path is not " ++
          "implemented yet (ADR-0020 follow-up)")
    let domains := provider.failureDomains
    if domains.isEmpty then return noFailureDomainsRow provider
    let zones ← ensureImportJobs ctx provider image reimport artifact domains
    let ready := zones.all ZoneImageStatus.ready
    let reason :=
      if ready then Reasons.reconciled
      else if zones.any fun zone => zone.reason == some Reasons.importFailed then Reasons.importFailed
      else Reasons.importing
    return { providerName := provider.name, providerNamespace := namespaceOf provider, ready := ready,
             reason := some reason, zones := zones }

/-! ## Adopted templates -/

/-- The datacenters of the failure domains that vCenter still has; all of them before
there are failure domains. -/
def dcsFromProviderStatus (provider : Provider) : Pass (List String) := do
  let fromStatus := provider.failureDomains.filterMap fun domain => domain.attributes.raw.get "datacenter"
  let live : List String ← consult (.listDatacenters provider) id
  return if fromStatus.isEmpty then live else live.filter fromStatus.contains

def templateZoneStatus (datacenters : List String) (domain : FailureDomain) (templateName : String)
    (rootFolder : Option String) : Work ZoneImageStatus :=
  match domain.attributes.raw.get "datacenter" with
  | none => return zoneRow domain.name false Reasons.templateNotFound "failure domain has no datacenter attribute"
  | some datacenter =>
    if datacenters.contains datacenter then do
      let folder := effectiveFolder rootFolder domain.name
      let found : Except String Bool ← request (Call.findTemplate datacenter folder templateName)
      match found with
      | .ok true => return {
          name := domain.name, ready := true, resolvedRef := some templateName,
          templateFolder := some folder, reason := some Reasons.reconciled }
      | .ok false => return zoneRow domain.name false Reasons.templateNotFound ("template " ++
          debugText templateName.toList ++ " not found in folder " ++ debugText folder.toList ++
          " of datacenter " ++ debugText datacenter.toList)
      | .error why => return zoneRow domain.name false Reasons.lookupFailed why
    else return zoneRow domain.name false Reasons.templateNotFound ("datacenter " ++ debugText datacenter.toList ++
      " of this failure domain is not available in vCenter")

def computeTemplateStatus (datacenters : List String) (templateName : String) (rootFolder : Option String)
    (provider : Provider) : Work ImagePerProviderStatus := do
  let domains := provider.failureDomains
  if domains.isEmpty then return noFailureDomainsRow provider
  let zones ← domains.mapM fun domain => templateZoneStatus datacenters domain templateName rootFolder
  let ready := zones.any ZoneImageStatus.ready
  let (reason, message) :=
    if ready then (Reasons.reconciled, none)
    else if zones.any fun zone => zone.reason == some Reasons.lookupFailed then
      (Reasons.lookupFailed, some "vCenter rejected the template lookup in at least one zone")
    else (Reasons.templateNotFound, some ("template " ++ debugText templateName.toList ++ " not found in any zone"))
  return { providerName := provider.name, providerNamespace := namespaceOf provider, ready := ready,
           reason := some reason, message := message, zones := zones }

def reconcileTemplateSource (provider : Provider) (image : VMImageView) (source : ImageSource) :
    Work ImagePerProviderStatus := do
  let credentials : Except String Unit ← request (Call.resolveCredentials provider)
  match credentials with
  | .error why => return perProviderFailure provider Reasons.secretUnavailable why
  | .ok _ =>
    let opened ← (do
      consult (.resolveCaBundle provider) id
      consult (.connect provider) id : Pass Unit).run
    match opened with
    | .error why => return perProviderFailure provider Reasons.connectFailed why
    | .ok _ =>
      match ← (dcsFromProviderStatus provider).run with
      | .error why => return perProviderFailure provider Reasons.lookupFailed why
      | .ok datacenters => computeTemplateStatus datacenters source.reference image.rootFolder provider

def reconcileForProvider (ctx : Context) (provider : Provider) (source : ImageSource) (image : VMImageView)
    (reimport : Bool) : Work ImagePerProviderStatus :=
  match source.kind with
  | .url => reconcileUrlSource ctx provider image reimport
  | .backingFile =>
    return perProviderFailure provider Reasons.unsupportedSourceKind
      "BackingFile sources are not supported by the vsphere provider"
  | .template => reconcileTemplateSource provider image source

/-- A pass over an image that is not being deleted. -/
def reconcile (ctx : Context) (image : VMImageView) : Pass Unit := do
  consult (.ensureFinalizer image.name) id
  match findVsphereSource image.sources with
  | none => return
  | some source => do
    let listed : List Provider ← consult .listProviders id
    let allProviders := providersOfClass listed "vsphere"
    let providers := providersInScope allProviders ctx.providerName
    if providers.isEmpty then return
    let rows ← ExceptT.lift (providers.mapM fun provider =>
      reconcileForProvider ctx provider source image (forceReimportPendingFor image provider))
    consult (.patchStatus .vsphere image.name rows) id
    if forceReimportRequested image.annotations then
      settleForceReimport image (providers.filter (forceReimportPendingFor image)) allProviders

end Banlieue.ProviderVsphere.Images
