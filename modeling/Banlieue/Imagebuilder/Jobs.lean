import Banlieue.Imagebuilder.OsArtifact
import Banlieue.Oci.Client
import Banlieue.Sdk.Naming

namespace Banlieue.Imagebuilder

open Banlieue.Api hiding BuildArtifactStatus ImageSource VMImageSpec VMImage
open Banlieue.Data Banlieue.Sdk

/-! # The Jobs that follow a build

A raw disk may be booted once through its first reset, which lays out its partitions to a
given size; and what a host cannot mount is pushed to a registry.  Either Job reports its
result as the termination message of its pod.
-/

structure JobManifest where
  name : String
  namespaceName : String
  labels : List (String × String)
  /-- The `OSArtifact` it goes with, by name and uid. -/
  owner : Option (String × String)
  backoffLimit : Nat
  image : String
  command : List String := []
  args : List String := []
  env : List (String × String) := []
  claimName : String
  /-- The volumes besides the artifacts'. -/
  volumes : List Volume := []
  nodeSelector : List (String × String) := []
  tolerations : List Toleration := []
deriving DecidableEq

structure Job where
  manifest : JobManifest
  succeeded : Option Nat := none
  failed : Option Nat := none
deriving DecidableEq

def Job.ownerUids (job : Job) : List String := job.manifest.owner.toList.map Prod.snd

def jobSucceeded (job : Job) : Bool := job.succeeded.getD 0 > 0

structure Terminated where
  exitCode : Int
  message : Option String := none
deriving DecidableEq

/-- A pod, by what is known of the containers that have ended. -/
structure Pod where
  containers : List (Option Terminated) := []
deriving DecidableEq

/-- The message of a container that ended well. -/
def Terminated.result (terminated : Terminated) : Option String :=
  if terminated.exitCode = 0 then terminated.message else none

def Pod.result (pod : Pod) : Option String :=
  pod.containers.findSome? fun container => container.bind Terminated.result

def terminationMessage (pods : List Pod) : Option String := pods.findSome? Pod.result

def jobLabels (component vmimage : String) : List (String × String) :=
  [("app.kubernetes.io/component", component), ("app.kubernetes.io/name", "banlieue"), ("banlieue.io/vmimage", vmimage)]

def artifactsMountPath : String := "/artifacts"

/-! ## Pre-laying -/

namespace Prelay

def reasonPrelaying : String := "Prelaying"

def reasonPrelayFailed : String := "PrelayFailed"

def prelayJobName (osArtifactName : String) : String := truncateWithHash (osArtifactName ++ "-prelay")

def prelaidFileName (osArtifactName : String) : String := osArtifactName ++ "-prelaid.raw"

inductive PrelayRefusal where
  | needsCloudImage | imageUnset
deriving DecidableEq

def PrelayRefusal.reason : PrelayRefusal → String
  | .needsCloudImage => "PrelayNeedsCloudImage"
  | .imageUnset => "PrelayImageUnset"

def PrelayRefusal.message : PrelayRefusal → String
  | .needsCloudImage => "spec.prelay needs a raw cloudImage build; this source builds an iso (ADR-0113)"
  | .imageUnset =>
    "spec.prelay needs a pre-lay image, but banlieue-imagebuilder runs with --prelay-image empty " ++
      "(pre-laying off); leave it unset for the published ghcr.io/firestoned/banlieue-prelay (ADR-0113)"

def prelayRefusal (kind : BuildArtifactKind) (prelayImage : Option String) : Option PrelayRefusal :=
  if kind ≠ .cloudImage then some .needsCloudImage
  else if prelayImage.all String.isEmpty then some .imageUnset
  else none

def diskSizeVariable : String := "PRELAY_DISK_SIZE_GIB"

def buildPrelayJob (jobName namespaceName vmimage image : String) (artifact : BuildArtifactStatus)
    (osArtifactUid : String) (diskSizeGib : UInt32) (scheduling : BuildScheduling) : JobManifest :=
  { name := jobName
    namespaceName := namespaceName
    labels := jobLabels "prelay" vmimage
    owner := some (artifact.osArtifactRef, osArtifactUid)
    backoffLimit := 0
    image := image
    command := ["/usr/local/bin/prelay-kairos-raw.sh"]
    env :=
      [("PRELAY_INPUT", artifactsMountPath ++ "/" ++ artifact.file.getD ""),
        ("PRELAY_OUTPUT", artifactsMountPath ++ "/" ++ prelaidFileName artifact.osArtifactRef),
        (diskSizeVariable, toString diskSizeGib.toNat), ("PRELAY_RESULT_FILE", "/dev/termination-log")] ++
      (artifact.checksum.map fun checksum => ("PRELAY_VERIFY_CHECKSUM", checksum)).toList
    claimName := artifact.pvcRef.getD ""
    nodeSelector := scheduling.nodeSelector
    tolerations := scheduling.tolerations }

def parsePrelayResult (message : String) : Except String String :=
  let digest := Oci.trim message.toList
  if !(Oci.sha256Prefix.toList.isPrefixOf digest) then
    .error (debugText digest ++ " is not a " ++ Oci.sha256Prefix ++ " digest")
  else if !Oci.isSha256Hex (digest.drop Oci.sha256Prefix.length) then
    .error (debugText digest ++ " is not 64 lowercase hex digits")
  else .ok (String.ofList digest)

inductive PrelayOutcome where
  | running
  | done (digest : String)
  | failed (why : String)
deriving DecidableEq

/-- A Job that has succeeded counts as running as long as its message is not read. -/
def prelayOutcome (job : Job) (message : Option String) : PrelayOutcome :=
  if job.succeeded.getD 0 > 0 then
    match message.map parsePrelayResult with
    | some (.ok digest) => .done digest
    | some (.error why) => .failed ("pre-lay Job reported " ++ why)
    | none => .running
  else if job.failed.getD 0 > 0 then
    .failed "pre-lay Job failed; its pod's log and the console it kept say why"
  else .running

def applyPrelay (status : BuildArtifactStatus) (outcome : PrelayOutcome) (diskSizeGib : UInt32) : BuildArtifactStatus :=
  match outcome with
  | .running => { status with phase := .building, reason := some reasonPrelaying, file := none }
  | .done digest =>
    { status with
      phase := .ready
      file := some (prelaidFileName status.osArtifactRef)
      checksum := some digest
      prelaidDiskSizeGiB := some diskSizeGib }
  | .failed why =>
    { status with phase := .failed, reason := some reasonPrelayFailed, message := some why, file := none }

def applyRefusal (status : BuildArtifactStatus) (refusal : PrelayRefusal) : BuildArtifactStatus :=
  { status with
    phase := .failed
    reason := some refusal.reason
    message := some refusal.message
    file := none }

end Prelay

/-! ## Pushing -/

namespace Push

def providerClassCloudHypervisor : String := "cloud-hypervisor"

inductive CaBundleSource where
  | configMap (name : String)
  | secret (name : String)
deriving DecidableEq

structure CaBundle where
  source : CaBundleSource
  key : String
deriving DecidableEq

def CaBundle.volume (bundle : CaBundle) : Volume :=
  match bundle.source with
  | .configMap name => .configMap "registry-ca" name [(bundle.key, bundle.key)]
  | .secret name => .secret "registry-ca" name [(bundle.key, bundle.key)]

structure RegistryConfig where
  repository : Oci.Reference
  credentialsSecret : Option String := none
  plainHttp : Bool := false
  image : String
  caBundle : Option CaBundle := none
deriving DecidableEq

def needsPush (sources : List ImageSource) : Bool :=
  sources.any fun source => source.kind == .url && source.providerClass == providerClassCloudHypervisor

def pushJobName (osArtifactName : String) : String := truncateWithHash (osArtifactName ++ "-push")

/-- Every build has a tag of its own. -/
def pushTarget (registry : RegistryConfig) (osArtifactUid : String) : Oci.Reference :=
  { registry.repository with tag := some osArtifactUid, digest := none }

def artifactType : BuildArtifactKind → String
  | .cloudImage => "application/vnd.banlieue.disk.raw.v1"
  | .iso => "application/vnd.banlieue.disk.iso.v1"

def credentialsMountPath : String := "/var/run/banlieue/registry"

def caMountPath : String := "/var/run/banlieue/registry-ca"

def buildPushJob (jobName namespaceName vmimage : String) (generation : Nat) (registry : RegistryConfig)
    (artifact : BuildArtifactStatus) (osArtifactUid : String) (tolerations : List Toleration) : JobManifest :=
  { name := jobName
    namespaceName := namespaceName
    labels := jobLabels "registry-push" vmimage
    owner := some (artifact.osArtifactRef, osArtifactUid)
    backoffLimit := 1
    image := registry.image
    args :=
      ["imagebuilder", "push", "--source", artifactsMountPath ++ "/" ++ artifact.file.getD "", "--target",
        (pushTarget registry osArtifactUid).text, "--artifact-type", artifactType artifact.kind, "--scratch-dir",
        "/scratch", "--annotation", "io.banlieue.vmimage=" ++ vmimage, "--annotation",
        "io.banlieue.vmimage.generation=" ++ toString generation] ++
      (if registry.credentialsSecret.isSome then ["--credentials-dir", credentialsMountPath] else []) ++
      (if registry.plainHttp then ["--plain-http"] else []) ++
      registry.caBundle.elim [] fun bundle => ["--ca-bundle", caMountPath ++ "/" ++ bundle.key]
    claimName := artifact.pvcRef.getD ""
    volumes := .emptyDir "scratch" ::
      (registry.credentialsSecret.toList.map fun secret => .secret "registry-credentials" secret []) ++
        registry.caBundle.toList.map CaBundle.volume
    tolerations := tolerations }

/-- Only a digest in the configured repository is taken. -/
def pushedReference (message : String) (registry : RegistryConfig) : Except String String :=
  match Oci.Reference.parse (String.ofList (Oci.trim message.toList)) with
  | .error (.reference why) => .error ("reference: " ++ why)
  | .error _ => .error "reference"
  | .ok reference =>
    if reference.digest.isNone || reference.tag.isSome then
      .error (reference.text ++ ": not a digest-only reference")
    else if reference.registry ≠ registry.repository.registry ∨
        reference.repository ≠ registry.repository.repository then
      .error (reference.text ++ ": not in the configured repository " ++ registry.repository.text)
    else .ok reference.text

def failedStatus (message : String) : OciArtifactStatus := { phase := .failed, message := some message }

def ociStatus (registry : RegistryConfig) (job : Job) (message : Option String) : OciArtifactStatus :=
  if job.succeeded.getD 0 > 0 then
    match message.map (pushedReference · registry) with
    | some (.ok reference) => { phase := .ready, reference := some reference }
    | some (.error why) => failedStatus ("push Job reported " ++ why)
    | none => { phase := .pushing, message := some "push Job succeeded; reading its result" }
  else if job.failed.getD 0 > 0 then failedStatus "push Job failed; see its pod's log"
  else { phase := .pushing }

end Push

end Banlieue.Imagebuilder
