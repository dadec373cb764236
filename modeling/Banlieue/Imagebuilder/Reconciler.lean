import Banlieue.Imagebuilder.Jobs

namespace Banlieue.Imagebuilder

open Banlieue.Api hiding BuildArtifactStatus ImageSource VMImageSpec VMImage
open Banlieue.Data Banlieue.Data.Program

/-! # The reconciler of image builds -/

inductive ApiError where
  | notFound
  | other (message : String)
deriving DecidableEq

inductive Error where
  | kube (why : ApiError)
  | cloudConfigMerge (why : MergeError)

inductive Requeue where
  | default | long
deriving DecidableEq

structure Context where
  buildNamespace : String
  scheduling : BuildScheduling := {}
  importerImage : ImporterImage := {}
  registry : Option Push.RegistryConfig := none
  prelayImage : Option String := none

inductive Call where
  | getSecret (name : String)
  | applySecret (name : String) (owner : OwnerRef) (key content : String)
  | getOsArtifact (name : String)
  | deleteOsArtifact (name : String)
  | applyOsArtifact (manifest : OsArtifactManifest)
  | getPvc (name : String)
  | getPv (name : String)
  /-- The creation times of the nodes with this host name. -/
  | listNodes (host : String)
  | getJob (name : String)
  | applyJob (manifest : JobManifest)
  | deleteJob (name : String)
  | listPods (jobName : String)
  | patchStatus (vmimage : String) (status : BuildArtifactStatus)

abbrev Reply : Call → Type
  | .getSecret _ => Except ApiError (List (String × String))
  | .applySecret _ _ _ _ => Except ApiError Unit
  | .getOsArtifact _ => Except ApiError OsArtifact
  | .deleteOsArtifact _ => Except ApiError Unit
  | .applyOsArtifact _ => Except ApiError Unit
  | .getPvc _ => Except ApiError (Option PersistentVolumeClaim)
  | .getPv _ => Except ApiError (Option PersistentVolume)
  | .listNodes _ => Except ApiError (List (Option Timestamp))
  | .getJob _ => Except ApiError Job
  | .applyJob _ => Except ApiError Unit
  | .deleteJob _ => Except ApiError Unit
  | .listPods _ => Except ApiError (List Pod)
  | .patchStatus _ _ => Except ApiError Unit

abbrev Work := Program Call Reply

abbrev Pass := ExceptT Error Work

/-- What is not there is no error. -/
def optional {α : Type} : Except ApiError α → Except Error (Option α)
  | .ok found => .ok (some found)
  | .error .notFound => .ok none
  | .error why => .error (.kube why)

def kube {α : Type} (reply : Except ApiError α) : Except Error α := reply.mapError Error.kube

section Replies

variable {α : Type} {value : α} {why : ApiError} {message : String}

@[simp]
theorem optional_ok : optional (.ok value) = .ok (some value) := rfl

@[simp]
theorem optional_notFound : optional (.error .notFound : Except ApiError α) = .ok none := rfl

@[simp]
theorem optional_other : optional (.error (.other message) : Except ApiError α) = .error (.kube (.other message)) := rfl

@[simp]
theorem kube_ok : kube (.ok value) = .ok value := rfl

@[simp]
theorem kube_error : kube (.error why : Except ApiError α) = .error (.kube why) := rfl

@[simp]
theorem forall_apiError {condition : ApiError → Prop} :
    (∀ error, condition error) ↔ condition .notFound ∧ ∀ message, condition (.other message) := by
  refine ⟨fun all => ⟨all _, fun _ => all _⟩, fun both error => ?_⟩
  cases error with
  | notFound => exact both.1
  | other message => exact both.2 message

end Replies

def patchVmimageStatus (name : String) (status : BuildArtifactStatus) : Pass Unit :=
  consult (.patchStatus name status) kube

/-- The keys that are missing from the Secret of a trusted boot build. -/
def trustedBootMissing (trustedBoot : Option TrustedBootSource) : Pass (Option (String × List String)) :=
  match trustedBoot with
  | none => return none
  | some boot => do
    let secret : Option (List (String × String)) ← consult (.getSecret boot.secretRef) optional
    let missing := missingTrustedBootKeys ((secret.getD []).map Prod.fst)
    return if missing.isEmpty then none else some (boot.secretRef, missing)

def trustedBootMissingMessage (secret : String) (missing : List String) : String :=
  "Secret/" ++ secret ++ " is missing required trustedBoot key(s): " ++ ", ".intercalate missing ++
    " — generate via \x60auroraboot genkey\x60 (ADR-0051)"

/-- Whatever cannot be seen is not lost. -/
def nodesLost (created : Timestamp) : Except ApiError (List (Option Timestamp)) → Bool
  | .ok nodes => volumeLost created (nodes.filterMap id)
  | .error _ => false

def artifactVolumeLost (claim : PersistentVolumeClaim) : Work Bool :=
  match claim.volumeName with
  | none => return false
  | some name => do
    let found : Except ApiError (Option PersistentVolume) ← request (Call.getPv name)
    match found with
    | .ok (some volume) =>
      match pinnedHostname volume, volume.created with
      | some host, some created => return nodesLost created (← request (Call.listNodes host))
      | _, _ => return false
    | .ok none => return false
    | .error _ => return false

/-- Only the volume of an artifact that is there to stay is judged. -/
def judgeVolume (live : Option OsArtifact) (claim : Option PersistentVolumeClaim) : Work Bool :=
  match live, claim with
  | some artifact, some claim => if artifact.deleting then return false else artifactVolumeLost claim
  | _, _ => return false

def isCurrent (artifact : OsArtifact) (source : ImageSource) (kind : BuildArtifactKind) (spec : VMImageSpec) : Bool :=
  specMatches artifact.spec (source.importFrom.getD "") (archStr spec.architecture) kind spec.trustedBoot

def liveView (image : VMImage) (source : ImageSource) (kind : BuildArtifactKind) (lost : Bool)
    (artifact : OsArtifact) : LiveArtifactView :=
  { owned := ownerUidMatches artifact.ownerUids image.uid
    current := isCurrent artifact source kind image.spec
    terminating := artifact.deleting
    volumeLost := lost }

/-- Nothing is built as long as an earlier artifact is in the way. -/
def standDown (image : VMImage) (source : ImageSource) (kind : BuildArtifactKind) (lost : Bool)
    (gate : ArtifactGate) : Pass Requeue := do
  let name := osArtifactName image.name
  if gate = .deleteForRebuild then consult (.deleteOsArtifact name) kube
  let message :=
    if gate = .deleteForRebuild then
      if lost then rebuildVolumeLostMessage
      else "replaced a stale or foreign OSArtifact; rebuild starts once it is gone"
    else "waiting for the previous OSArtifact and its volume to be removed"
  patchVmimageStatus image.name
    (computeBuildArtifactStatus name kind ⟨none, some message⟩ source.checksum none image.spec.trustedBoot.isSome)
  return .default

inductive CloudConfigOutcome where
  | applied (source : Option CloudConfigSource) (sealingLayer : Bool)
  | sealingRefused (why : SealingLayerError)

/-- The document of one of the operator's Secrets. -/
def cloudConfigDocument (source : CloudConfigSource) : Pass String :=
  match source.secretRef with
  | none => throw (.cloudConfigMerge (.typeMismatch "secretRef" "cloudConfigs entry has no secretRef"))
  | some selector => do
    let data : List (String × String) ← consult (.getSecret selector.name) kube
    let key := selector.keyOr defaultCloudConfigKey
    match data.lookup key with
    | some document => return document
    | none =>
      throw (.cloudConfigMerge
        (.typeMismatch ("Secret/" ++ selector.name ++ ".data[" ++ key ++ "]") "key not found in Secret data"))

section

variable (yaml : Yaml) (ctx : Context)

def mergeAndApplyCloudConfigs (image : VMImage) (sealing : Option SealingRequest) : Pass CloudConfigOutcome := do
  let documents ← image.spec.cloudConfigs.mapM cloudConfigDocument
  match mergeWithSealing yaml documents sealing with
  | .error why => throw (.cloudConfigMerge why)
  | .ok (.sealingRefused why) => return .sealingRefused why
  | .ok (.ready merged layer) => do
    let name := mergedCloudConfigSecretName image.name
    consult (.applySecret name ⟨image.name, image.uid⟩ defaultCloudConfigKey merged) kube
    return .applied (some ⟨some ⟨name, none⟩⟩) layer

/-- An image that seals itself has a cloud-config even if the operator gives none. -/
def cloudConfigFor (image : VMImage) (kind : BuildArtifactKind) : Pass CloudConfigOutcome :=
  let sealing := image.spec.sealingRequest kind
  if !image.spec.cloudConfigs.isEmpty || sealing.isSome then mergeAndApplyCloudConfigs yaml image sealing
  else return .applied none false

def reconcilePrelay (image : VMImage) (artifact : BuildArtifactStatus) (diskSizeGib : UInt32) :
    Pass Prelay.PrelayOutcome :=
  match ctx.prelayImage, artifact.osArtifactUid with
  | some prelayImage, some uid => do
    let name := Prelay.prelayJobName artifact.osArtifactRef
    match ← (consult (.getJob name) optional : Pass (Option Job)) with
    | none =>
      consult (.applyJob (Prelay.buildPrelayJob name ctx.buildNamespace image.name prelayImage artifact uid
        diskSizeGib ctx.scheduling)) kube
      return .running
    | some job =>
      if !ownerUidMatches job.ownerUids uid then
        consult (.deleteJob name) kube
        return .running
      else if jobSucceeded job then
        let pods : List Pod ← consult (.listPods name) kube
        return Prelay.prelayOutcome job (terminationMessage pods)
      else return Prelay.prelayOutcome job none
  | _, _ => return .running

/-- Until a raw disk that is to be pre-laid is, nothing may start on it. -/
def withPrelay (image : VMImage) (status : BuildArtifactStatus) : Pass BuildArtifactStatus :=
  match image.spec.prelay with
  | none => return status
  | some size =>
    match Prelay.prelayRefusal status.kind ctx.prelayImage with
    | some refusal => return Prelay.applyRefusal status refusal
    | none =>
      if status.phase = .ready then
        return Prelay.applyPrelay status (← reconcilePrelay ctx image status size) size
      else return status

/-- A Job that has succeeded and whose result is gone is made again. -/
def pushResult (registry : Push.RegistryConfig) (name : String) (job : Job) (message : Option String) :
    Pass OciArtifactStatus := do
  let status := Push.ociStatus registry job message
  if status.phase = .pushing ∧ message = none ∧ jobSucceeded job = true then consult (.deleteJob name) kube
  return status

def reconcilePush (image : VMImage) (artifact : BuildArtifactStatus) : Pass OciArtifactStatus :=
  match ctx.registry, artifact.osArtifactUid with
  | none, _ =>
    return Push.failedStatus "a cloud-hypervisor source needs a registry: set --registry-repository (ADR-0064)"
  | some _, none => return { phase := .pushing, message := some "waiting to observe the OSArtifact" }
  | some registry, some uid => do
    let name := Push.pushJobName artifact.osArtifactRef
    match ← (consult (.getJob name) optional : Pass (Option Job)) with
    | none =>
      consult (.applyJob (Push.buildPushJob name ctx.buildNamespace image.name image.generation registry artifact
        uid ctx.scheduling.tolerations)) kube
      return { phase := .pushing, message := some ("push Job " ++ name ++ " created") }
    | some job =>
      if !ownerUidMatches job.ownerUids uid then
        consult (.deleteJob name) kube
        return { phase := .pushing, message := some "replacing a previous build's push Job" }
      else if jobSucceeded job then
        let pods : List Pod ← consult (.listPods name) kube
        pushResult registry name job (terminationMessage pods)
      else pushResult registry name job none

def withPush (image : VMImage) (status : BuildArtifactStatus) : Pass BuildArtifactStatus :=
  if status.phase = .ready ∧ Push.needsPush image.spec.sources = true then
    return { status with ociArtifact := some (← reconcilePush ctx image status) }
  else return status

def requeueFor (status : BuildArtifactStatus) : Requeue :=
  if status.ociArtifact.any fun artifact => artifact.phase == .pushing then .default
  else if status.phase = .ready ∨ status.phase = .failed then .long
  else .default

def desiredFor (image : VMImage) (source : ImageSource) (kind : BuildArtifactKind)
    (cloudConfig : Option CloudConfigSource) : OsArtifactManifest :=
  desiredOsArtifact (osArtifactName image.name) ctx.buildNamespace source image.spec.architecture kind cloudConfig
    (some ⟨image.name, image.uid⟩) ctx.scheduling image.spec.isoOverlay ctx.importerImage image.spec.trustedBoot

/-- The status of the build, before what follows it. -/
def builtStatus (image : VMImage) (source : ImageSource) (kind : BuildArtifactKind) (live : Option OsArtifact)
    (sealingLayer : Bool) : BuildArtifactStatus :=
  { computeBuildArtifactStatus (osArtifactName image.name) kind ((live.map extractKairosStatus).getD {}) source.checksum
      (live.bind OsArtifact.uid) image.spec.trustedBoot.isSome with
    firstBootSealingLayer := sealingLayer }

def reconcileBuild (image : VMImage) (source : ImageSource) (kind : BuildArtifactKind) (live : Option OsArtifact) :
    Pass Requeue := do
  match ← cloudConfigFor yaml image kind with
  | .sealingRefused why =>
    patchVmimageStatus image.name (sealingRefusedStatus (osArtifactName image.name) kind source.checksum why)
    return .long
  | .applied cloudConfig sealingLayer =>
    consult (.applyOsArtifact (desiredFor ctx image source kind cloudConfig)) kube
    let status ← withPrelay ctx image (builtStatus image source kind live sealingLayer)
    let status ← withPush ctx image status
    patchVmimageStatus image.name status
    return requeueFor status

def reconcileSource (image : VMImage) (source : ImageSource) (kind : BuildArtifactKind) : Pass Requeue := do
  let live : Option OsArtifact ← consult (.getOsArtifact (osArtifactName image.name)) optional
  let claim : Option PersistentVolumeClaim ←
    consult (.getPvc (artifactsPvcName (osArtifactName image.name))) kube
  let lost ← ExceptT.lift (judgeVolume live claim)
  let gate := artifactGate (live.map (liveView image source kind lost)) (claim.any PersistentVolumeClaim.deleting)
  if gate ≠ .proceed then standDown image source kind lost gate
  else reconcileBuild yaml ctx image source kind live

def reconcile (image : VMImage) : Pass Requeue :=
  match findUrlSource image.spec.sources with
  | none => return .long
  | some source => do
    let kind := artifactKindFor source.providerClass image.spec.mode
    match ← trustedBootMissing image.spec.trustedBoot with
    | some (secret, missing) =>
      patchVmimageStatus image.name (refusedStatus (osArtifactName image.name) kind source.checksum
        reasonTrustedBootKeysMissing (trustedBootMissingMessage secret missing))
      return .default
    | none => reconcileSource yaml ctx image source kind

end

end Banlieue.Imagebuilder
