import Banlieue.Imagebuilder.FirstBootSealing

namespace Banlieue.Imagebuilder

open Banlieue.Api hiding BuildArtifactStatus ImageSource VMImageSpec VMImage
open Banlieue.Data

/-! # The build of an image as an `OSArtifact`

The image builder describes the build as an `OSArtifact`, which another operator carries
out, and reads its state back.
-/

/-! ## Images -/

inductive Architecture where
  | amd64 | arm64
deriving DecidableEq

def archStr : Architecture → String
  | .amd64 => "amd64"
  | .arm64 => "arm64"

structure KeySelector where
  name : String
  key : Option String := none
deriving DecidableEq

def KeySelector.keyOr (selector : KeySelector) (default : String) : String := selector.key.getD default

structure CloudConfigSource where
  secretRef : Option KeySelector := none
deriving DecidableEq

def defaultCloudConfigKey : String := "cloud-config.yaml"

structure IsoOverlayFile where
  key : String
  path : String
deriving DecidableEq

structure IsoOverlaySource where
  secretRef : String
  files : List IsoOverlayFile := []
deriving DecidableEq

structure TrustedBootSource where
  secretRef : String
deriving DecidableEq

/-- What a build reads of the spec of an image. -/
structure VMImageSpec where
  sources : List ImageSource := []
  architecture : Architecture := .amd64
  installMode : Option InstallMode := none
  cloudConfigs : List CloudConfigSource := []
  isoOverlay : Option IsoOverlaySource := none
  trustedBoot : Option TrustedBootSource := none
  firstBootSealing : Option FirstBootSealing := none
  /-- `prelay.diskSizeGiB` -/
  prelay : Option UInt32 := none
deriving DecidableEq

structure VMImage where
  name : String
  uid : String
  generation : Nat := 0
  spec : VMImageSpec
deriving DecidableEq

def providerClassVsphere : String := "vsphere"

def artifactKindForClass (providerClass : String) : BuildArtifactKind :=
  if providerClass = providerClassVsphere then .iso else .cloudImage

def deferredIsoClasses : List String := ["libvirt", "cloud-hypervisor"]

/-- A deferred install boots the installer on the classes that can attach it. -/
def artifactKindFor (providerClass : String) (installMode : InstallMode) : BuildArtifactKind :=
  if deferredIsoClasses.contains providerClass ∧ installMode = .deferred then .iso
  else artifactKindForClass providerClass

def osArtifactName (vmimageName : String) : String := vmimageName ++ "-build"

def mergedCloudConfigSecretName (vmimageName : String) : String := vmimageName ++ "-cloud-config-merged"

def findUrlSource (sources : List ImageSource) : Option ImageSource :=
  sources.find? fun source => source.kind == .url && source.importFrom.isSome

namespace VMImageSpec

def mode (spec : VMImageSpec) : InstallMode := spec.installMode.getD .immediate

def sealingRequest (spec : VMImageSpec) (kind : BuildArtifactKind) : Option SealingRequest :=
  spec.firstBootSealing.map fun sealing => ⟨sealing, kind, spec.mode⟩

end VMImageSpec

def requiredTrustedBootKeys : List String :=
  ["PK.auth", "KEK.auth", "db.auth", "db.key", "db.pem", "tpm2-pcr-private.pem"]

def reasonTrustedBootKeysMissing : String := "TrustedBootKeysMissing"

def missingTrustedBootKeys (present : List String) : List String :=
  requiredTrustedBootKeys.filter fun key => !present.contains key

/-! ## The manifest -/

structure Toleration where
  key : Option String := none
  operator : Option String := none
  value : Option String := none
  effect : Option String := none
  tolerationSeconds : Option Int := none
deriving DecidableEq

structure BuildScheduling where
  nodeSelector : List (String × String) := []
  tolerations : List Toleration := []
deriving DecidableEq

structure ImporterImage where
  reference : String := "busybox:1.36"
  pullSecrets : List String := []
deriving DecidableEq

inductive Volume where
  | secret (name secretName : String) (items : List (String × String))
  | configMap (name configMapName : String) (items : List (String × String))
  | emptyDir (name : String)
deriving DecidableEq

structure VolumeMount where
  name : String
  mountPath : String
  readOnly : Bool := false
deriving DecidableEq

structure Importer where
  name : String
  image : String
  command : List String
  volumeMounts : List VolumeMount
deriving DecidableEq

/-- The spec of an `OSArtifact`; a field that is not set is left out of the document. -/
structure OsArtifactSpec where
  imageRef : Option String := none
  arch : Option String := none
  iso : Option Bool := none
  cloudImage : Option Bool := none
  ukiIso : Option Bool := none
  ukiKeysVolume : Option String := none
  cloudConfigRef : Option (String × String) := none
  overlayIsoVolume : Option String := none
  volumes : List Volume := []
  importers : List Importer := []
  nodeSelector : List (String × String) := []
  tolerations : List Toleration := []
  imagePullSecrets : List String := []
deriving DecidableEq

structure OwnerRef where
  name : String
  uid : String
deriving DecidableEq

structure OsArtifactManifest where
  name : String
  namespaceName : String
  owner : Option OwnerRef
  spec : OsArtifactSpec
deriving DecidableEq

def isoOverlayVolumeName : String := "iso-overlay"

def isoOverlaySourceVolumeName : String := "iso-overlay-source"

def isoOverlayImporterName : String := "iso-overlay-materialize"

def isoOverlaySourceMountPath : String := "/overlay-src"

def isoOverlayDestMountPath : String := "/overlay-dst"

def trustedBootKeysVolumeName : String := "trusted-boot-keys"

def trustedBootCloudConfigSourceVolumeName : String := "trusted-boot-cloud-config-source"

def trustedBootCloudConfigImporterName : String := "trusted-boot-cloud-config-materialize"

def isoRootCloudConfigFilename : String := "config.yaml"

def materializeScript (source destination : String) : String :=
  "find " ++ source ++ " -mindepth 1 -maxdepth 1 -not -name '.*' -exec cp -rL -t " ++ destination ++ "/ \x7b\x7d +"

/-- Copies a Secret into the directory that is laid over the root of the ISO. -/
def materializer (name sourceVolume : String) (importerImage : ImporterImage) : Importer :=
  { name := name
    image := importerImage.reference
    command := ["sh", "-c", materializeScript isoOverlaySourceMountPath isoOverlayDestMountPath]
    volumeMounts :=
      [{ name := sourceVolume, mountPath := isoOverlaySourceMountPath, readOnly := true },
        { name := isoOverlayVolumeName, mountPath := isoOverlayDestMountPath }] }

def overlayVolumes (isoOverlay : Option IsoOverlaySource) : List Volume :=
  match isoOverlay.filter fun overlay => !overlay.files.isEmpty with
  | some overlay =>
    [.secret isoOverlaySourceVolumeName overlay.secretRef (overlay.files.map fun file => (file.key, file.path))]
  | none => []

def overlayImporters (isoOverlay : Option IsoOverlaySource) (importerImage : ImporterImage) : List Importer :=
  match isoOverlay.filter fun overlay => !overlay.files.isEmpty with
  | some _ => [materializer isoOverlayImporterName isoOverlaySourceVolumeName importerImage]
  | none => []

/-- A trusted boot build has no flag for a cloud-config: it is laid over the root of the
ISO, where the installer looks for it. -/
def trustedBootVolumes (trustedBoot : TrustedBootSource) (secretRef : Option KeySelector) : List Volume :=
  .secret trustedBootKeysVolumeName trustedBoot.secretRef [] ::
    match secretRef with
    | some selector =>
      [.secret trustedBootCloudConfigSourceVolumeName selector.name
        [(selector.keyOr defaultCloudConfigKey, isoRootCloudConfigFilename)]]
    | none => []

def trustedBootImporters (secretRef : Option KeySelector) (importerImage : ImporterImage) : List Importer :=
  match secretRef with
  | some _ => [materializer trustedBootCloudConfigImporterName trustedBootCloudConfigSourceVolumeName importerImage]
  | none => []

/-- The volume that everything to be laid over the ISO is copied to, once. -/
def withOverlayDirectory (needed : Bool) (spec : OsArtifactSpec) : OsArtifactSpec :=
  if needed then
    { spec with
      overlayIsoVolume := some isoOverlayVolumeName
      volumes := spec.volumes ++ [.emptyDir isoOverlayVolumeName] }
  else spec

def desiredOsArtifactSpec (source : ImageSource) (architecture : Architecture) (kind : BuildArtifactKind)
    (cloudConfig : Option CloudConfigSource) (scheduling : BuildScheduling) (isoOverlay : Option IsoOverlaySource)
    (importerImage : ImporterImage) (trustedBoot : Option TrustedBootSource) : OsArtifactSpec :=
  let secretRef := cloudConfig.bind CloudConfigSource.secretRef
  let overlaid := !(overlayVolumes isoOverlay).isEmpty
  let base : OsArtifactSpec :=
    { imageRef := source.importFrom
      arch := some (archStr architecture)
      volumes := overlayVolumes isoOverlay
      importers := overlayImporters isoOverlay importerImage
      nodeSelector := scheduling.nodeSelector
      tolerations := scheduling.tolerations
      imagePullSecrets := importerImage.pullSecrets }
  match trustedBoot with
  | some boot =>
    withOverlayDirectory (overlaid || secretRef.isSome)
      { base with
        ukiIso := some true
        ukiKeysVolume := some trustedBootKeysVolumeName
        volumes := base.volumes ++ trustedBootVolumes boot secretRef
        importers := base.importers ++ trustedBootImporters secretRef importerImage }
  | none =>
    withOverlayDirectory overlaid
      { base with
        cloudConfigRef := secretRef.map fun selector => (selector.name, selector.keyOr defaultCloudConfigKey)
        iso := if kind = .iso then some true else none
        cloudImage := if kind = .cloudImage then some true else none }

def desiredOsArtifact (name namespaceName : String) (source : ImageSource) (architecture : Architecture)
    (kind : BuildArtifactKind) (cloudConfig : Option CloudConfigSource) (owner : Option OwnerRef)
    (scheduling : BuildScheduling) (isoOverlay : Option IsoOverlaySource) (importerImage : ImporterImage)
    (trustedBoot : Option TrustedBootSource) : OsArtifactManifest :=
  { name := name
    namespaceName := namespaceName
    owner := owner
    spec := desiredOsArtifactSpec source architecture kind cloudConfig scheduling isoOverlay importerImage trustedBoot }

/-! ## The live object -/

structure OsArtifact where
  uid : Option String := none
  ownerUids : List String := []
  deleting : Bool := false
  spec : OsArtifactSpec := {}
  phase : Option String := none
  message : Option String := none
deriving DecidableEq

def ownerUidMatches (ownerUids : List String) (uid : String) : Bool := ownerUids.contains uid

def artifactFlag (spec : OsArtifactSpec) : BuildArtifactKind → Option Bool
  | .iso => spec.iso
  | .cloudImage => spec.cloudImage

def specMatches (spec : OsArtifactSpec) (importFrom arch : String) (kind : BuildArtifactKind)
    (trustedBoot : Option TrustedBootSource) : Bool :=
  let artifactFlagMatches :=
    if trustedBoot.isSome then spec.ukiIso == some true else artifactFlag spec kind == some true
  spec.imageRef == some importFrom && spec.arch == some arch && artifactFlagMatches

/-! ## Lost volumes -/

structure NodeSelectorRequirement where
  key : String
  operator : String
  values : List String := []
deriving DecidableEq

structure PersistentVolume where
  /-- The expressions of the terms of the required node affinity. -/
  nodeSelectorTerms : List (List NodeSelectorRequirement) := []
  created : Option Timestamp := none
deriving DecidableEq

structure PersistentVolumeClaim where
  volumeName : Option String := none
  deleting : Bool := false
deriving DecidableEq

def hostnameLabel : String := "kubernetes.io/hostname"

def nodeAffinityIn : String := "In"

/-- The host a volume is pinned to, if it names exactly one. -/
def pinnedHostname (volume : PersistentVolume) : Option String :=
  let hosts := volume.nodeSelectorTerms.flatten.filter
      (fun expression => expression.key == hostnameLabel && expression.operator == nodeAffinityIn)
    |>.flatMap NodeSelectorRequirement.values
  match hosts with
  | [host] => some host
  | _ => none

/-- No node of that name is as old as the volume. -/
def volumeLost (created : Timestamp) (matchingNodesCreated : List Timestamp) : Bool :=
  !(matchingNodesCreated.any fun node => node ≤ created)

/-! ## What to do about the live object -/

structure LiveArtifactView where
  owned : Bool
  current : Bool
  terminating : Bool
  volumeLost : Bool
deriving DecidableEq

inductive ArtifactGate where
  | proceed | deleteForRebuild | awaitTeardown
deriving DecidableEq

def artifactGate (live : Option LiveArtifactView) (pvcTerminating : Bool) : ArtifactGate :=
  match live with
  | none => if pvcTerminating then .awaitTeardown else .proceed
  | some live =>
    if live.terminating then .awaitTeardown
    else if !live.owned || !live.current || live.volumeLost then .deleteForRebuild
    else .proceed

def rebuildVolumeLostMessage : String :=
  "replaced an OSArtifact whose volume was lost with its node; rebuild starts once it is gone"

/-! ## Its state -/

structure KairosArtifactStatusView where
  phase : Option String := none
  message : Option String := none
deriving DecidableEq

def extractKairosStatus (artifact : OsArtifact) : KairosArtifactStatusView :=
  ⟨artifact.phase, artifact.message⟩

/-- A phase that is not known is a failure. -/
def mapKairosPhase (phase : String) : BuildArtifactPhase :=
  if phase = "Pending" then .pending
  else if phase = "Building" ∨ phase = "Exporting" then .building
  else if phase = "Ready" then .ready
  else .failed

def reasonForPhase : BuildArtifactPhase → String
  | .pending => "Pending"
  | .building => "Building"
  | .ready => "Reconciled"
  | .failed => "BuildFailed"

def artifactsPvcName (osArtifactName : String) : String := osArtifactName ++ "-artifacts"

def artifactExtension : BuildArtifactKind → String
  | .iso => "iso"
  | .cloudImage => "raw"

def artifactFileName (osArtifactName : String) (kind : BuildArtifactKind) (trustedBoot : Bool) : String :=
  if trustedBoot then osArtifactName ++ "-uki." ++ artifactExtension kind
  else osArtifactName ++ "." ++ artifactExtension kind

def computeBuildArtifactStatus (osArtifactName : String) (kind : BuildArtifactKind) (view : KairosArtifactStatusView)
    (checksum osArtifactUid : Option String) (trustedBoot : Bool) : BuildArtifactStatus :=
  let phase := (view.phase.map mapKairosPhase).getD .pending
  { kind := kind
    phase := phase
    osArtifactRef := osArtifactName
    osArtifactUid := osArtifactUid
    pvcRef := if phase = .ready then some (artifactsPvcName osArtifactName) else none
    file := if phase = .ready then some (artifactFileName osArtifactName kind trustedBoot) else none
    reason := some (reasonForPhase phase)
    message := view.message
    checksum := checksum }

/-- The build is refused before there is any `OSArtifact`. -/
def refusedStatus (osArtifactName : String) (kind : BuildArtifactKind) (checksum : Option String)
    (reason message : String) : BuildArtifactStatus :=
  { kind := kind
    phase := .failed
    osArtifactRef := osArtifactName
    reason := some reason
    message := some message
    checksum := checksum }

def sealingRefusedStatus (osArtifactName : String) (kind : BuildArtifactKind) (checksum : Option String)
    (why : SealingLayerError) : BuildArtifactStatus :=
  refusedStatus osArtifactName kind checksum why.reason why.text

end Banlieue.Imagebuilder
