import Banlieue.Imagebuilder.Provenance

namespace Banlieue.Imagebuilder

open Banlieue.Api hiding BuildArtifactStatus ImageSource VMImageSpec VMImage
open Banlieue.Data Banlieue.Data.Program

/-! # What becomes of a pre-lay

The spec of the image and its artifact, which is ready, stay as they are; the pods of Jobs
that have finished may be collected at any time.
-/

/-- What stays as it is. -/
structure World where
  secrets : String → Option (List (String × String))
  claim : Option PersistentVolumeClaim
  persistentVolumes : String → Option PersistentVolume
  nodes : String → List (Option Timestamp)
  artifactUid : String

/-- The volume of the artifacts is on a node that is gone. -/
def World.lost (world : World) : Bool :=
  ((world.claim.bind PersistentVolumeClaim.volumeName).bind world.persistentVolumes).any fun volume =>
    match pinnedHostname volume, volume.created with
    | some host, some created => volumeLost created ((world.nodes host).filterMap id)
    | _, _ => false

def documentIn (secrets : String → Option (List (String × String))) (source : CloudConfigSource) : Option String :=
  source.secretRef.bind fun selector => (secrets selector.name).bind (·.lookup (selector.keyOr defaultCloudConfigKey))

namespace VMImageSpec

variable (spec : VMImageSpec)

/-- The keys of the trusted boot Secret are there. -/
def KeysIn (world : World) : Prop :=
  ∀ boot, spec.trustedBoot = some boot →
    missingTrustedBootKeys (((world.secrets boot.secretRef).getD []).map Prod.fst) = []

/-- Nothing keeps the build from going on: the keys and documents are there and merge. -/
def InOrder (yaml : Yaml) (world : World) : Prop :=
  spec.KeysIn world ∧
    ((!spec.cloudConfigs.isEmpty || spec.firstBootSealing.isSome) = true →
      ∃ documents merged layer, spec.cloudConfigs.mapM (documentIn world.secrets) = some documents ∧
        mergeWithSealing yaml documents spec.sealingWanted = .ok (.ready merged layer))

/-- Neither the documents nor the keys are read from the merged Secret. -/
def Separate (name : String) : Prop :=
  (∀ source ∈ spec.cloudConfigs, ∀ selector, source.secretRef = some selector →
    selector.name ≠ mergedCloudConfigSecretName name) ∧
  ∀ boot, spec.trustedBoot = some boot → boot.secretRef ≠ mergedCloudConfigSecretName name

/-- The pre-lay that is asked for cannot be done. -/
def prelayRefused (ctx : Context) : Bool :=
  (findUrlSource spec.sources).any fun source => (Prelay.prelayRefusal (spec.kindFor source) ctx.prelayImage).isSome

def builtFile (name : String) : Option String :=
  (findUrlSource spec.sources).map fun source =>
    artifactFileName (osArtifactName name) (spec.kindFor source) spec.trustedBoot.isSome

def builtChecksum : Option String := (findUrlSource spec.sources).bind ImageSource.checksum

end VMImageSpec

/-- The status says what came of the Job that left the message. -/
def Reports (name message : String) (status : BuildArtifactStatus) : Prop :=
  match Prelay.parsePrelayResult message with
  | .ok digest =>
    status.phase = .ready ∧ status.file = some (Prelay.prelaidFileName (osArtifactName name)) ∧
      status.checksum = some digest
  | .error why =>
    status.phase = .failed ∧ status.reason = some Prelay.reasonPrelayFailed ∧
      status.message = some ("pre-lay Job reported " ++ why)

/-- Once ready, always ready with the same file and checksum; the newest status is first. -/
def Steady (published : List (Nat × BuildArtifactStatus)) : Prop :=
  published.Pairwise fun newer older => older.2.phase = .ready →
    newer.2.phase = .ready ∧ newer.2.file = older.2.file ∧ newer.2.checksum = older.2.checksum

/-! ## What a pass may do -/

inductive Watch where
  | looking
  /-- The Job had not succeeded. -/
  | unfinished
  | read (message : String)

section Rules

variable (yaml : Yaml) (ctx : Context) (image : VMImage) (world : World)

def prelayName (name : String) : String := Prelay.prelayJobName (osArtifactName name)

/-- The artifact, whatever its spec was patched to. -/
def Settled (object : OsArtifact) : Prop :=
  object.uid = some world.artifactUid ∧ ownerUidMatches object.ownerUids image.uid = true ∧ object.deleting = false ∧
    object.phase = some "Ready" ∧ image.spec.current object = true

/-- A reply is a failure, or what it should be. -/
@[simp]
def Truthful {α : Type} (truth : Except ApiError α) (reply : Except ApiError α) : Prop :=
  (∃ problem, reply = .error (.other problem)) ∨ reply = truth

def VMImageSpec.Prelays (spec : VMImageSpec) : Prop :=
  spec.InOrder yaml world ∧ spec.prelay.isSome = true ∧ spec.prelayRefused ctx = false

/-- What is built is published as it is. -/
def VMImageSpec.Plain (spec : VMImageSpec) : Prop := spec.InOrder yaml world ∧ spec.prelay = none

/-- The status of an image that is published as it was built. -/
def Built (name : String) (spec : VMImageSpec) (status : BuildArtifactStatus) : Prop :=
  status.phase = .ready ∧ status.file = spec.builtFile name ∧ status.checksum = spec.builtChecksum

/-- What a status may be. -/
structure Verdict (stage : Watch) (status : BuildArtifactStatus) : Prop where
  plain : image.spec.Plain yaml world → Built image.name image.spec status
  prelaid : image.spec.Prelays yaml ctx world → match stage with
    | .looking => False
    | .unfinished => status.phase ≠ .ready
    | .read message => Reports image.name message status
  refused : ¬ image.spec.Plain yaml world → ¬ image.spec.Prelays yaml ctx world → status.phase ≠ .ready

/-- A call that leaves what is known as it is. -/
def still {ρ : Type} (pre : Prop) (replied : ρ → Prop) : Rule Watch ρ where
  pre _ := pre
  post stage reply after := after = stage ∧ replied reply

@[simp]
def watching : Rules Watch Call Reply
  | .getSecret secret => still True fun reply =>
    secret ≠ mergedCloudConfigSecretName image.name → Truthful (Cluster.orNotFound (world.secrets secret)) reply
  | .applySecret secret _ _ _ => still (secret = mergedCloudConfigSecretName image.name) fun _ => True
  | .getOsArtifact _ => still True fun reply =>
    (∃ problem, reply = .error (.other problem)) ∨ ∃ object, reply = .ok object ∧ Settled image world object
  | .deleteOsArtifact _ => still False fun _ => True
  | .applyOsArtifact manifest => still (manifest.owner = some ⟨image.name, image.uid⟩ ∧
      image.spec.wanted ctx image.name = some manifest.spec) fun _ => True
  | .getPvc _ => still True (Truthful (.ok world.claim))
  | .getPv volume => still True (Truthful (.ok (world.persistentVolumes volume)))
  | .listNodes host => still True (Truthful (.ok (world.nodes host)))
  | .getJob jobName =>
    { pre _ := jobName = prelayName image.name → image.spec.Prelays yaml ctx world
      post stage reply after :=
        if jobName = prelayName image.name then
          match reply with
          | .ok job => ownerUidMatches job.ownerUids world.artifactUid = true ∧
              after = if jobSucceeded job then stage else .unfinished
          | .error .notFound => after = .unfinished
          | .error (.other _) => after = stage
        else after = stage }
  | .applyJob manifest => still (manifest.name = prelayName image.name → image.spec.Prelays yaml ctx world ∧
      manifest.owner.map Prod.snd = some world.artifactUid) fun _ => True
  | .deleteJob jobName => still (jobName ≠ prelayName image.name) fun _ => True
  | .listPods jobName =>
    { pre _ := jobName = prelayName image.name → image.spec.Prelays yaml ctx world
      post stage reply after :=
        if jobName = prelayName image.name then
          match reply with
          | .ok pods => ∃ message, terminationMessage pods = some message ∧ after = .read message
          | .error _ => after = stage
        else after = stage }
  | .patchStatus _ status =>
    { pre stage := Verdict yaml ctx image world stage status
      post stage _ after := after = stage }

end Rules

section Pass

variable {yaml : Yaml} {ctx : Context} {image : VMImage} {world : World} {stage : Watch}
  {ρ : Type} {pre : Prop} {message : String}

@[simp]
theorem still_pre {replied : ρ → Prop} : (still pre replied).pre stage ↔ pre := Iff.rfl

@[simp]
theorem still_post {replied : ρ → Prop} {reply : ρ} {after : Watch} :
    (still pre replied).post stage reply after ↔ after = stage ∧ replied reply := Iff.rfl

variable {status : BuildArtifactStatus}

theorem Verdict.of_unready (stuck : ¬ image.spec.InOrder yaml world)
    (unready : status.phase ≠ .ready) : Verdict yaml ctx image world stage status :=
  ⟨fun plain => absurd plain.1 stuck, fun prelays => absurd prelays.1 stuck, fun _ _ => unready⟩

theorem wpe_trustedBootMissing (separate : image.spec.Separate image.name) :
    wpe (watching yaml ctx image world) (trustedBootMissing image.spec.trustedBoot) (fun missing after =>
      after = stage ∧ (missing = none ↔ image.spec.KeysIn world)) (fun _ _ => True) stage := by
  unfold trustedBootMissing
  cases asked : image.spec.trustedBoot with
  | none => simp [VMImageSpec.KeysIn, asked]
  | some boot =>
    have apart := separate.2 boot asked
    cases stored : world.secrets boot.secretRef <;>
      simp [VMImageSpec.KeysIn, asked, apart, stored, Cluster.orNotFound]

theorem wpe_cloudConfigDocument (separate : image.spec.Separate image.name) (source : CloudConfigSource)
    (member : source ∈ image.spec.cloudConfigs) :
    wpe (watching yaml ctx image world) (cloudConfigDocument source) (fun document after =>
      after = stage ∧ documentIn world.secrets source = some document) (fun _ _ => True) stage := by
  unfold cloudConfigDocument
  cases selected : source.secretRef with
  | none => simp
  | some selector =>
    have apart := separate.1 source member selector selected
    cases stored : world.secrets selector.name with
    | none => simp [apart, stored, Cluster.orNotFound]
    | some data =>
      cases found : data.lookup (selector.keyOr defaultCloudConfigKey) <;>
        simp [apart, stored, Cluster.orNotFound, documentIn, selected, found]

variable {source : ImageSource}

theorem wpe_configured (found : findUrlSource image.spec.sources = some source)
    (separate : image.spec.Separate image.name) (keys : image.spec.KeysIn world) :
    wpe (watching yaml ctx image world) (cloudConfigFor yaml image (image.spec.kindFor source))
      (fun outcome after => after = stage ∧ match outcome with
        | .applied config _ => config = image.spec.mergedConfig image.name ∧ image.spec.InOrder yaml world
        | .sealingRefused _ => ¬ image.spec.InOrder yaml world) (fun _ _ => True) stage := by
  unfold cloudConfigFor mergeAndApplyCloudConfigs
  simp only [sealingRequest_kindFor found, isSome_sealingWanted found, wpe_ite, wpe_pure, wpe_bind]
  refine ⟨fun needed => ?_, fun unneeded => ⟨trivial, by simp [VMImageSpec.mergedConfig, unneeded], keys, fun needed => absurd needed unneeded⟩⟩
  refine wpe_mono (wpe_mapM _ fun item member => wpe_cloudConfigDocument separate item member)
    fun documents after reached => ?_
  obtain ⟨rfl, read⟩ := reached
  have read := mapM_of_forall₂ read
  cases merged : mergeWithSealing yaml documents image.spec.sealingWanted with
  | error why => simp
  | ok config =>
    cases config with
    | sealingRefused why => simp [VMImageSpec.InOrder, needed, read, merged]
    | ready document layer =>
      have inOrder : image.spec.InOrder yaml world := ⟨keys, fun _ => ⟨documents, document, layer, read, merged⟩⟩
      simp [VMImageSpec.mergedConfig, needed, inOrder]

/-- Whoever says of volumes and nodes what is true has the volume judged as it is. -/
theorem wp_judgeVolume {σ : Type} {rules : Rules σ Call Reply} {stage : σ} (intact : world.lost = false)
    (volumes : ∀ name, (rules (.getPv name)).pre stage ∧ ∀ reply after, (rules (.getPv name)).post stage reply after →
      after = stage ∧ Truthful (.ok (world.persistentVolumes name)) reply)
    (nodes : ∀ host, (rules (.listNodes host)).pre stage ∧ ∀ reply after, (rules (.listNodes host)).post stage reply after →
      after = stage ∧ Truthful (.ok (world.nodes host)) reply) (live : Option OsArtifact) :
    (judgeVolume live world.claim).wp rules (fun lost after => lost = false ∧ after = stage) stage := by
  unfold judgeVolume artifactVolumeLost
  cases live with
  | none => simp
  | some artifact =>
    cases claimed : world.claim with
    | none => simp
    | some claim =>
      cases bound : claim.volumeName with
      | none => simp [bound]
      | some volumeName =>
        simp only [World.lost, claimed, bound, Option.bind_some] at intact
        simp only [bound, wp_ite, wp_pure, wp_bind, wp_request]
        refine ⟨fun _ => ⟨trivial, trivial⟩, fun _ => ⟨(volumes _).1, fun reply after told => ?_⟩⟩
        obtain ⟨rfl, ⟨why, rfl⟩ | rfl⟩ := (volumes _).2 reply after told
        · simp
        · cases stored : world.persistentVolumes volumeName with
          | none => simp
          | some volume =>
            rw [stored, Option.any_some] at intact
            cases pinned : pinnedHostname volume with
            | none => simp [pinned]
            | some host =>
              cases made : volume.created with
              | none => simp [pinned, made]
              | some created =>
                simp only [pinned, made] at intact ⊢
                refine ⟨(nodes host).1, fun reply after told => ?_⟩
                obtain ⟨rfl, ⟨why, rfl⟩ | rfl⟩ := (nodes host).2 reply after told
                · exact ⟨rfl, rfl⟩
                · exact ⟨intact, rfl⟩

theorem wpe_pushed (distinct : Push.pushJobName (osArtifactName image.name) ≠ prelayName image.name)
    (named : status.osArtifactRef = osArtifactName image.name) :
    wpe (watching yaml ctx image world) (withPush ctx image status) (fun pushed after =>
      after = stage ∧ ∃ artifact, pushed = { status with ociArtifact := artifact }) (fun _ _ => True) stage := by
  unfold withPush reconcilePush pushResult
  simp only [wpe_ite, wpe_bind, wpe_pure]
  refine ⟨fun _ => ?_, fun _ => ⟨trivial, _, rfl⟩⟩
  split
  · simp
  · simp
  · simp [named, distinct]
    exact fun same => absurd same distinct

/-- The Job's success is reported once its message has been read. -/
def Outcome (outcome : Prelay.PrelayOutcome) : Watch → Prop
  | .looking => False
  | .unfinished => ∀ digest, outcome ≠ .done digest
  | .read message =>
    match Prelay.parsePrelayResult message with
    | .ok digest => outcome = .done digest
    | .error why => outcome = .failed ("pre-lay Job reported " ++ why)

theorem outcome_of_message {job : Job} (succeeded : jobSucceeded job = true) :
    Outcome (Prelay.prelayOutcome job (some message)) (.read message) := by
  have finished : job.succeeded.getD 0 > 0 := by simpa [jobSucceeded] using succeeded
  simp only [Prelay.prelayOutcome, if_pos finished, Outcome, Option.map_some]
  cases Prelay.parsePrelayResult message <;> rfl

theorem reports_applyPrelay {name : String}
    (named : status.osArtifactRef = osArtifactName name) {outcome : Prelay.PrelayOutcome}
    (reached : Outcome outcome (.read message)) (size : UInt32) :
    Reports name message (Prelay.applyPrelay status outcome size) := by
  unfold Reports
  cases parsed : Prelay.parsePrelayResult message with
  | ok digest =>
    simp only [Outcome, parsed] at reached
    subst reached
    exact ⟨rfl, congrArg (fun reference => some (Prelay.prelaidFileName reference)) named, rfl⟩
  | error why =>
    simp only [Outcome, parsed] at reached
    subst reached
    exact ⟨rfl, rfl, rfl⟩

theorem wpe_prelaid {size : UInt32} (prelays : image.spec.Prelays yaml ctx world)
    (configured : ctx.prelayImage.isSome = true)
    (named : status.osArtifactRef = osArtifactName image.name) (seen : status.osArtifactUid = some world.artifactUid) :
    wpe (watching yaml ctx image world) (reconcilePrelay ctx image status size) Outcome (fun _ _ => True) .looking := by
  obtain ⟨prelayImage, known⟩ := Option.isSome_iff_exists.mp configured
  have name : Prelay.prelayJobName (osArtifactName image.name) = prelayName image.name := rfl
  unfold reconcilePrelay
  rw [seen, known]
  simp [named, name, prelays]
  refine ⟨fun job owned => ⟨owned, fun _ => ⟨?_, fun unfinished => ?_⟩⟩, fun _ => ⟨_, rfl⟩, fun _ => nofun⟩
  · rintro succeeded pods _ message told rfl
    rw [told]
    exact outcome_of_message succeeded
  · rw [unfinished]
    exact prelayOutcome_ne_done unfinished

variable {object : OsArtifact}

theorem builtStatus_settled (settled : Settled image world object)
    (found : findUrlSource image.spec.sources = some source) (layer : Bool) :
    let status := builtStatus image source (image.spec.kindFor source) (some object) layer
    status.phase = .ready ∧ status.file = image.spec.builtFile image.name ∧
      status.checksum = image.spec.builtChecksum ∧ status.osArtifactUid = some world.artifactUid := by
  obtain ⟨identified, -, -, ready, -⟩ := settled
  have phase : mapKairosPhase "Ready" = .ready := rfl
  simp [builtStatus, computeBuildArtifactStatus, extractKairosStatus, ready, phase, VMImageSpec.builtFile,
    VMImageSpec.builtChecksum, found, identified]

theorem prelayImage_of_allowed {kind : BuildArtifactKind}
    (allowed : Prelay.prelayRefusal kind ctx.prelayImage = none) : ctx.prelayImage.isSome = true := by
  cases chosen : ctx.prelayImage with
  | some prelayImage => rfl
  | none =>
    unfold Prelay.prelayRefusal at allowed
    split at allowed <;> simp [chosen] at allowed

theorem wpe_verdict (settled : Settled image world object)
    (found : findUrlSource image.spec.sources = some source) (inOrder : image.spec.InOrder yaml world) (layer : Bool) :
    wpe (watching yaml ctx image world)
      (withPrelay ctx image (builtStatus image source (image.spec.kindFor source) (some object) layer))
      (fun status after => Verdict yaml ctx image world after status ∧ status.osArtifactRef = osArtifactName image.name)
      (fun _ _ => True) .looking := by
  obtain ⟨ready, file, checksum, seen⟩ := builtStatus_settled settled found layer
  have named : (builtStatus image source (image.spec.kindFor source) (some object) layer).osArtifactRef =
    osArtifactName image.name := rfl
  unfold withPrelay
  cases asked : image.spec.prelay with
  | none =>
    refine ⟨⟨fun _ => ⟨ready, file, checksum⟩, fun prelays => ?_, fun plain => absurd ⟨inOrder, asked⟩ plain⟩, named⟩
    simp [VMImageSpec.Prelays, asked] at prelays
  | some size =>
    have impure : ¬ image.spec.Plain yaml world := fun plain => by cases asked.symm.trans plain.2
    have refused : image.spec.prelayRefused ctx =
        (Prelay.prelayRefusal (image.spec.kindFor source) ctx.prelayImage).isSome := by
      simp [VMImageSpec.prelayRefused, found]
    have kind : (builtStatus image source (image.spec.kindFor source) (some object) layer).kind =
      image.spec.kindFor source := rfl
    cases refusing : Prelay.prelayRefusal (image.spec.kindFor source) ctx.prelayImage with
    | some refusal =>
      rw [refusing] at refused
      simp only [kind, refusing, wpe_pure]
      have unprelaid : ¬ image.spec.Prelays yaml ctx world := fun prelays => by simp [prelays.2.2] at refused
      refine ⟨⟨fun plain => absurd plain impure, fun prelays => absurd prelays unprelaid, fun _ _ => ?_⟩, named⟩
      exact nofun
    | none =>
      rw [refusing] at refused
      have prelays : image.spec.Prelays yaml ctx world := ⟨inOrder, by simp [asked], refused⟩
      simp only [kind, refusing, ready, if_true, wpe_bind]
      refine wpe_mono (wpe_prelaid prelays (prelayImage_of_allowed refusing) rfl seen) fun outcome after reached => ?_
      refine ⟨⟨fun plain => absurd plain impure, fun _ => ?_, fun _ unasked => absurd prelays unasked⟩, by cases outcome <;> rfl⟩
      cases after with
      | looking => exact reached
      | unfinished => cases outcome <;> simp_all [Prelay.applyPrelay, Outcome]
      | read message => exact reports_applyPrelay rfl reached size

theorem wpe_built (settled : Settled image world object)
    (found : findUrlSource image.spec.sources = some source) (separate : image.spec.Separate image.name)
    (keys : image.spec.KeysIn world) (distinct : Push.pushJobName (osArtifactName image.name) ≠ prelayName image.name) :
    wpe (watching yaml ctx image world) (reconcileBuild yaml ctx image source (image.spec.kindFor source) (some object))
      (fun _ _ => True) (fun _ _ => True) .looking := by
  unfold reconcileBuild patchVmimageStatus
  simp only [wpe_bind]
  refine wpe_mono (wpe_configured found separate keys) fun outcome after reached => ?_
  obtain ⟨rfl, known⟩ := reached
  cases outcome with
  | sealingRefused why => simpa using Verdict.of_unready known (by simp [sealingRefusedStatus, refusedStatus])
  | applied cloudConfig layer =>
    obtain ⟨rfl, inOrder⟩ := known
    simp only [wpe_consult, wpe_bind]
    refine ⟨⟨rfl, wanted_desiredFor found⟩, fun reply after unmoved => ?_⟩
    obtain ⟨rfl, -⟩ := unmoved
    cases reply with
    | error why => trivial
    | ok _ =>
      refine wpe_mono (wpe_verdict settled found inOrder layer) fun status after reached => ?_
      refine wpe_mono (wpe_pushed distinct reached.2) fun pushed after same => ?_
      obtain ⟨rfl, artifact, rfl⟩ := same
      refine ⟨⟨reached.1.plain, reached.1.prelaid, reached.1.refused⟩, fun reply after _ => ?_⟩
      cases reply <;> trivial

theorem proceed_of_settled (settled : Settled image world object)
    (found : findUrlSource image.spec.sources = some source) :
    artifactGate (some (liveView image source (image.spec.kindFor source) false object)) false = .proceed := by
  obtain ⟨-, owned, staying, -, current⟩ := settled
  have matched : isCurrent object source (image.spec.kindFor source) image.spec = true := by
    simpa [VMImageSpec.current, found] using current
  simp [artifactGate, liveView, owned, staying, matched]

theorem wpe_watched (separate : image.spec.Separate image.name) (intact : world.lost = false)
    (staying : world.claim.any PersistentVolumeClaim.deleting = false)
    (distinct : Push.pushJobName (osArtifactName image.name) ≠ prelayName image.name) :
    wpe (watching yaml ctx image world) (reconcile yaml ctx image) (fun _ _ => True) (fun _ _ => True) .looking := by
  unfold reconcile patchVmimageStatus
  cases found : findUrlSource image.spec.sources with
  | none => simp
  | some source =>
    simp only [wpe_bind]
    refine wpe_mono (wpe_trustedBootMissing separate) fun missing after reached => ?_
    obtain ⟨rfl, known⟩ := reached
    cases missing with
    | some missing =>
      have refused : ¬ image.spec.InOrder yaml world := fun inOrder => nomatch known.mpr inOrder.1
      simpa using Verdict.of_unready refused (by simp [refusedStatus])
    | none =>
      have keys := known.mp rfl
      have kind : artifactKindFor source.providerClass image.spec.mode = image.spec.kindFor source := rfl
      simp [reconcileSource, kind]
      refine fun object settled => wp_mono (wp_judgeVolume intact (fun _ => ⟨trivial, fun _ _ => id⟩)
        (fun _ => ⟨trivial, fun _ _ => id⟩) _) fun lost after reached => ?_
      obtain ⟨rfl, rfl⟩ := reached
      rw [staying]
      simpa [proceed_of_settled settled found] using wpe_built settled found separate keys distinct

end Pass

end Banlieue.Imagebuilder
