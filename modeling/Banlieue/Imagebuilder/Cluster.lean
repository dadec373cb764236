import Banlieue.Data.Machine
import Banlieue.Imagebuilder.Reconciler

namespace Banlieue.Imagebuilder

open Banlieue.Api hiding BuildArtifactStatus ImageSource VMImageSpec VMImage
open Banlieue.Data Banlieue.Data.Program

/-! # The cluster of one image

The objects a pass reads and writes for one image, under the names it gives them, and what
the build operator, the Jobs and the users make of them.
-/

/-- An `OSArtifact` with how it came about: the operator builds it once, from the spec it
was created with. -/
structure Artifact where
  object : OsArtifact
  uid : String
  created : OsArtifactSpec
  madeFor : Nat
  built : Bool := false

structure Build where
  uid : String
  spec : OsArtifactSpec
  cloudConfig : Option String

/-- The Secret and key of the volume a trusted boot build has its cloud-config from. -/
def Volume.cloudConfigSecret : Volume → Option (String × String)
  | .secret name secretName ((key, _) :: _) =>
    if name = trustedBootCloudConfigSourceVolumeName then some (secretName, key) else none
  | _ => none

/-- The Secret and key the cloud-config of a build is mounted from. -/
def OsArtifactSpec.cloudConfigSecret (spec : OsArtifactSpec) : Option (String × String) :=
  spec.cloudConfigRef.or (spec.volumes.findSome? Volume.cloudConfigSecret)

structure Cluster where
  secrets : String → Option (List (String × String)) := fun _ => none
  artifact : Option Artifact := none
  nextUid : Nat := 0
  claim : Option PersistentVolumeClaim := none
  persistentVolumes : String → Option PersistentVolume := fun _ => none
  nodes : String → List (Option Timestamp) := fun _ => []
  jobs : String → Option Job := fun _ => none
  pods : String → List Pod := fun _ => []
  builds : List Build := []
  finished : List JobManifest := []
  /-- The statuses that were written, each with the generation its pass worked on. -/
  published : List (Nat × BuildArtifactStatus) := []

namespace Cluster

def putSecret (cluster : Cluster) (name : String) (data : Option (List (String × String))) : Cluster :=
  { cluster with secrets := fun other => if other = name then data else cluster.secrets other }

def putJob (cluster : Cluster) (name : String) (job : Option Job) : Cluster :=
  { cluster with jobs := fun other => if other = name then job else cluster.jobs other }

def putPods (cluster : Cluster) (name : String) (pods : List Pod) : Cluster :=
  { cluster with pods := fun other => if other = name then pods else cluster.pods other }

/-- The other keys of a Secret stay. -/
def applySecret (cluster : Cluster) (name key content : String) : Cluster :=
  cluster.putSecret name
    (some ((key, content) :: ((cluster.secrets name).getD []).filter fun entry => entry.1 != key))

def secretValue (cluster : Cluster) (secret : String × String) : Option String :=
  (cluster.secrets secret.1).bind (·.lookup secret.2)

/-- An object that is there is patched; what it was created with stays. -/
def applyArtifact (cluster : Cluster) (generation : Nat) (manifest : OsArtifactManifest) : Cluster :=
  match cluster.artifact with
  | none =>
    { cluster with
      nextUid := cluster.nextUid + 1
      artifact := some
        { object :=
            { uid := some (toString cluster.nextUid)
              ownerUids := manifest.owner.toList.map OwnerRef.uid
              spec := manifest.spec }
          uid := toString cluster.nextUid
          created := manifest.spec
          madeFor := generation } }
  | some artifact =>
    { cluster with
      artifact := some
        { artifact with
          object :=
            { artifact.object with
              spec := manifest.spec
              ownerUids := artifact.object.ownerUids ∪ manifest.owner.toList.map OwnerRef.uid } } }

/-- It stays until what depends on it is gone. -/
def deleteArtifact (cluster : Cluster) : Except ApiError Unit × Cluster :=
  match cluster.artifact with
  | none => (.error .notFound, cluster)
  | some artifact =>
    (.ok (), { cluster with
      artifact := some { artifact with object := { artifact.object with deleting := true } } })

/-- The template of a Job cannot be changed. -/
def applyJob (cluster : Cluster) (manifest : JobManifest) : Except ApiError Unit × Cluster :=
  match cluster.jobs manifest.name with
  | none => (.ok (), cluster.putJob manifest.name (some { manifest := manifest }))
  | some job =>
    if job.manifest = manifest then (.ok (), cluster)
    else (.error (.other "spec.template: field is immutable"), cluster)

def deleteJob (cluster : Cluster) (name : String) (gone : Bool) : Except ApiError Unit × Cluster :=
  match cluster.jobs name with
  | none => (.error .notFound, cluster)
  | some _ => (.ok (), if gone then cluster.putJob name none else cluster)

structure Answer where
  fate : Delivery := .answered
  problem : String := "timed out"
  /-- A deleted Job is gone at once. -/
  gone : Bool := true

def orNotFound {α : Type} : Option α → Except ApiError α
  | some found => .ok found
  | none => .error .notFound

def carryOut (cluster : Cluster) (generation : Nat) (gone : Bool) : (call : Call) → Reply call × Cluster
  | .getSecret name => (orNotFound (cluster.secrets name), cluster)
  | .applySecret name _ key content => (.ok (), cluster.applySecret name key content)
  | .getOsArtifact _ => (orNotFound (cluster.artifact.map Artifact.object), cluster)
  | .deleteOsArtifact _ => cluster.deleteArtifact
  | .applyOsArtifact manifest => (.ok (), cluster.applyArtifact generation manifest)
  | .getPvc _ => (.ok cluster.claim, cluster)
  | .getPv name => (.ok (cluster.persistentVolumes name), cluster)
  | .listNodes host => (.ok (cluster.nodes host), cluster)
  | .getJob name => (orNotFound (cluster.jobs name), cluster)
  | .applyJob manifest => cluster.applyJob manifest
  | .deleteJob name => cluster.deleteJob name gone
  | .listPods jobName => (.ok (cluster.pods jobName), cluster)
  | .patchStatus _ status => (.ok (), { cluster with published := (generation, status) :: cluster.published })

def failure (problem : String) : (call : Call) → Reply call
  | .getSecret _ | .applySecret _ _ _ _ | .getOsArtifact _ | .deleteOsArtifact _ | .applyOsArtifact _ | .getPvc _
  | .getPv _ | .listNodes _ | .getJob _ | .applyJob _ | .deleteJob _ | .listPods _ | .patchStatus _ _ =>
    Except.error (ApiError.other problem)

def serve (cluster : Cluster) (generation : Nat) (answer : Answer) (call : Call) : Reply call × Cluster :=
  answer.fate.outcome cluster (failure answer.problem call) (cluster.carryOut generation answer.gone call)

inductive Happening where
  | editSecret (name : String) (data : Option (List (String × String)))
  | report (phase : Option String) (message : Option String)
  | build (message : Option String)
  | markDeleting
  | remove
  | volumes (claim : Option PersistentVolumeClaim) (persistentVolumes : String → Option PersistentVolume)
      (nodes : String → List (Option Timestamp))
  | jobSucceeds (name : String) (pod : Pod)
  | jobFails (name : String)
  | podsGone (name : String)
  | jobGone (name : String)

/-- A build is ready once it has been built. -/
def report (artifact : Artifact) (phase message : Option String) : Option Artifact :=
  if phase = some "Ready" ∧ artifact.built = false then none
  else some { artifact with object := { artifact.object with phase := phase, message := message } }

def finishBuild (cluster : Cluster) (artifact : Artifact) (message : Option String) : Option Cluster :=
  if artifact.built then none
  else
    some { cluster with
      artifact := some
        { artifact with built := true, object := { artifact.object with phase := some "Ready", message := message } }
      builds :=
        ⟨artifact.uid, artifact.created, artifact.created.cloudConfigSecret.bind cluster.secretValue⟩ ::
          cluster.builds }

def happen (cluster : Cluster) : Happening → Option Cluster
  | .editSecret name data => some (cluster.putSecret name data)
  | .report phase message => do
    let artifact ← cluster.artifact
    let reported ← report artifact phase message
    return { cluster with artifact := some reported }
  | .build message => cluster.artifact.bind (cluster.finishBuild · message)
  | .markDeleting => some cluster.deleteArtifact.2
  | .remove => some { cluster with artifact := none }
  | .volumes claim persistentVolumes nodes =>
    some { cluster with claim := claim, persistentVolumes := persistentVolumes, nodes := nodes }
  | .jobSucceeds name pod => (cluster.jobs name).map fun job =>
    { (cluster.putJob name (some { job with succeeded := some (job.succeeded.getD 0 + 1) })).putPods name
        (pod :: cluster.pods name) with
      finished := job.manifest :: cluster.finished }
  | .jobFails name => (cluster.jobs name).map fun job =>
    cluster.putJob name (some { job with failed := some (job.failed.getD 0 + 1) })
  | .podsGone name => some (cluster.putPods name [])
  | .jobGone name => some (cluster.putJob name none)

end Cluster

def imageAt (name uid : String) (specs : Nat → VMImageSpec) (generation : Nat) : VMImage :=
  ⟨name, uid, generation, specs generation⟩

/-- A call with the generation its pass works on. -/
abbrev Tagged := Nat × Call

abbrev TaggedReply (tagged : Tagged) : Type := Reply tagged.2

/-- A pass over the image as it was at one generation. -/
def passAt (yaml : Yaml) (ctx : Context) (name uid : String) (specs : Nat → VMImageSpec) (generation : Nat) :
    Program Tagged TaggedReply (Except Error Requeue) :=
  (reconcile yaml ctx (imageAt name uid specs generation)).run.embed (fun call => (generation, call)) fun _ reply => reply

/-- The passes over one image, one at a time; what the image is asked to be is a function
of its generation. -/
def builder (yaml : Yaml) (ctx : Context) (name uid : String) (specs : Nat → VMImageSpec) :
    Machine Tagged TaggedReply where
  Service := Cluster
  Task := Unit
  taskEq := inferInstance
  Input := Nat
  Choice := Cluster.Answer
  Disturbance := Cluster.Happening
  Result := Except Error Requeue
  launch _ _ generation := some (passAt yaml ctx name uid specs generation)
  serve cluster _ answer tagged := cluster.serve tagged.1 answer tagged.2
  disturb cluster happening := cluster.happen happening

end Banlieue.Imagebuilder
