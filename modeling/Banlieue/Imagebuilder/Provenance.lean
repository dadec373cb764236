import Banlieue.Imagebuilder.Cluster

namespace Banlieue.Imagebuilder

open Banlieue.Api hiding BuildArtifactStatus ImageSource VMImageSpec VMImage
open Banlieue.Data Banlieue.Data.Program

/-! # Where a published artifact comes from -/

/-! ## What a spec asks to be built -/

namespace VMImageSpec

def kindFor (spec : VMImageSpec) (source : ImageSource) : BuildArtifactKind :=
  artifactKindFor source.providerClass spec.mode

/-- The Secret of the merged cloud-config, if there is to be one. -/
def mergedConfig (spec : VMImageSpec) (name : String) : Option CloudConfigSource :=
  if !spec.cloudConfigs.isEmpty || spec.firstBootSealing.isSome then
    some ⟨some ⟨mergedCloudConfigSecretName name, none⟩⟩
  else none

/-- The build that is asked for. -/
def wanted (spec : VMImageSpec) (ctx : Context) (name : String) : Option OsArtifactSpec :=
  (findUrlSource spec.sources).map fun source =>
    desiredOsArtifactSpec source spec.architecture (spec.kindFor source) (spec.mergedConfig name) ctx.scheduling
      spec.isoOverlay ctx.importerImage spec.trustedBoot

/-- The first-boot sealing that is asked for. -/
def sealingWanted (spec : VMImageSpec) : Option SealingRequest :=
  (findUrlSource spec.sources).bind fun source => spec.sealingRequest (spec.kindFor source)

/-- The live object asks for the same image, architecture and artifact. -/
def current (spec : VMImageSpec) (artifact : OsArtifact) : Bool :=
  (findUrlSource spec.sources).any fun source => isCurrent artifact source (spec.kindFor source) spec

/-- What goes into a build and is not compared with the live object. -/
structure Uncompared where
  kind : Option BuildArtifactKind
  mode : InstallMode
  cloudConfigs : List CloudConfigSource
  isoOverlay : Option IsoOverlaySource
  trustedBoot : Option TrustedBootSource
  firstBootSealing : Option FirstBootSealing
deriving DecidableEq

def uncompared (spec : VMImageSpec) : Uncompared :=
  { kind := (findUrlSource spec.sources).map spec.kindFor
    mode := spec.mode
    cloudConfigs := spec.cloudConfigs
    isoOverlay := spec.isoOverlay
    trustedBoot := spec.trustedBoot
    firstBootSealing := spec.firstBootSealing }

end VMImageSpec

/-- The document is a merge that ends in the layer for the request. -/
def Carries (yaml : Yaml) (request : SealingRequest) (document : String) : Prop :=
  ∃ operatorDocs, mergeWithSealing yaml operatorDocs (some request) = .ok (.ready document true)

/-- The Job lays out a disk of this size. -/
def RunsWith (manifest : JobManifest) (diskSizeGib : UInt32) : Prop :=
  (Prelay.diskSizeVariable, toString diskSizeGib.toNat) ∈ manifest.env

instance (manifest : JobManifest) (diskSizeGib : UInt32) : Decidable (RunsWith manifest diskSizeGib) :=
  inferInstanceAs (Decidable (_ ∈ _))

section

variable (yaml : Yaml) (ctx : Context) (name : String)

/-- A build of the artifact was made of what the spec asks for. -/
def BuiltFrom (spec : VMImageSpec) (uid : String) (cluster : Cluster) : Prop :=
  ∃ build ∈ cluster.builds, build.uid = uid ∧ spec.wanted ctx name = some build.spec ∧
    ∀ request, spec.sealingWanted = some request →
      ∃ document, build.cloudConfig = some document ∧ Carries yaml request document

/-- A Job of the artifact has succeeded in laying out a disk of this size. -/
def PrelaidTo (diskSizeGib : UInt32) (uid : String) (cluster : Cluster) : Prop :=
  ∃ manifest ∈ cluster.finished, manifest.owner.map Prod.snd = some uid ∧ RunsWith manifest diskSizeGib

/-- Every status that was written as ready names an artifact that was built from the spec
its pass worked on, with the sealing layer and the disk size it reports. -/
def Cluster.Faithful (specs : Nat → VMImageSpec) (cluster : Cluster) : Prop :=
  ∀ entry ∈ cluster.published, entry.2.phase = .ready →
    ∃ uid, entry.2.osArtifactUid = some uid ∧ BuiltFrom yaml ctx name (specs entry.1) uid cluster ∧
      (entry.2.firstBootSealingLayer = true → (specs entry.1).sealingWanted.isSome = true) ∧
      ∀ size, entry.2.prelaidDiskSizeGiB = some size → PrelaidTo size uid cluster

end

/-! ## What a pass may do

A pass first looks at the artifact that is there.
-/

/-- What is seen of the artifact. -/
structure Live where
  uid : String
  /-- It is the image's own, asks for the same and is not being deleted. -/
  mine : Bool
  ready : Bool

def liveOf (image : VMImage) (artifact : OsArtifact) : Live :=
  { uid := artifact.uid.getD ""
    mine := ownerUidMatches artifact.ownerUids image.uid && image.spec.current artifact && !artifact.deleting
    ready := artifact.phase == some "Ready" }

/-- What a pass has seen and done. -/
structure Stage where
  looked : Bool := false
  live : Option Live := none
  written : Bool := false
  /-- The Job is known to have succeeded. -/
  prelaid : Bool := false
  /-- Nothing has been done about Jobs. -/
  untouched : Bool := true

/-- There is nothing in the way of what is asked for. -/
def Stage.Free (stage : Stage) : Prop := stage.looked = true ∧ ∀ seen ∈ stage.live, seen.mine = true

/-- The status is one that the stage vouches for. -/
def Vouched (image : VMImage) (stage : Stage) (status : BuildArtifactStatus) : Prop :=
  status.phase = .ready → ∃ live, stage.live = some live ∧ live.mine = true ∧ live.ready = true ∧
    status.osArtifactUid = some live.uid ∧
    (status.firstBootSealingLayer = true → image.spec.sealingWanted.isSome = true) ∧
    ∀ size, status.prelaidDiskSizeGiB = some size → stage.prelaid = true ∧ image.spec.prelay = some size

section Rules

variable (yaml : Yaml) (ctx : Context) (image : VMImage)

/-- The Job has succeeded for the artifact that was seen, and is the one that was there. -/
def Stage.proves (stage : Stage) (jobName : String) (job : Job) : Bool :=
  stage.untouched && jobName == Prelay.prelayJobName (osArtifactName image.name) && jobSucceeded job &&
    stage.live.any fun live => ownerUidMatches job.ownerUids live.uid

/-- A call that shows nothing that matters. -/
def unmoved {ρ : Type} (pre : Stage → Prop) : Rule Stage ρ where
  pre := pre
  post stage _ after := after = stage

@[simp]
def provenance : Rules Stage Call Reply
  | .applySecret secret _ key content =>
    { pre stage := stage.Free ∧ secret = mergedCloudConfigSecretName image.name ∧ key = defaultCloudConfigKey ∧
        ∀ request, image.spec.sealingWanted = some request → Carries yaml request content
      post stage reply after := after = { stage with written := stage.written || reply.isOk } }
  | .getOsArtifact _ =>
    { pre stage := stage.looked = false
      post stage reply after := match reply with
        | .ok artifact =>
          artifact.uid.isSome = true ∧ after = { looked := true, live := some (liveOf image artifact) }
        | .error .notFound => after = { looked := true }
        | .error (.other _) => after = stage }
  | .applyOsArtifact manifest => unmoved fun stage =>
    stage.Free ∧ (image.spec.sealingWanted.isSome = true → stage.written = true) ∧
      image.spec.wanted ctx image.name = some manifest.spec ∧ manifest.owner = some ⟨image.name, image.uid⟩
  | .getJob jobName =>
    { pre stage := stage.looked = true
      post stage reply after := match reply with
        | .ok job => after = { stage with prelaid := stage.prelaid || stage.proves image jobName job }
        | .error _ => after = stage }
  | .applyJob _ =>
    { pre stage := stage.looked = true
      post stage _ after := after = { stage with untouched := false } }
  | .patchStatus _ status => unmoved fun stage => Vouched image stage status
  | .getSecret _ | .deleteOsArtifact _ | .getPvc _ | .getPv _ | .listNodes _ | .deleteJob _ | .listPods _ =>
    unmoved fun _ => True

end Rules

section Pass

variable {yaml : Yaml} {ctx : Context} {image : VMImage} {stage : Stage}
  {ρ : Type} {pre : Stage → Prop} {after : Stage} {layer : Bool}

@[simp]
theorem unmoved_pre : (unmoved pre : Rule Stage ρ).pre stage ↔ pre stage := Iff.rfl

@[simp]
theorem unmoved_post {reply : ρ} : (unmoved pre).post stage reply after ↔ after = stage := Iff.rfl

variable {status : BuildArtifactStatus}

theorem Vouched.of_ne (unready : status.phase ≠ .ready) : Vouched image stage status :=
  fun ready => absurd ready unready

theorem wpe_documents (sources : List CloudConfigSource) :
    wpe (provenance yaml ctx image) (sources.mapM cloudConfigDocument) (fun _ after => after = stage) (fun _ _ => True)
      stage := by
  refine wpe_mono (wpe_mapM (fun _ _ => True) fun source _ => ?_) fun _ _ reached => reached.1
  unfold cloudConfigDocument
  split
  · simp
  · simp only [wpe_bind, wpe_consult]
    refine ⟨trivial, fun reply after same => ?_⟩
    cases same
    cases reply with
    | error why => trivial
    | ok data =>
      simp only [kube_ok, either_ok]
      split <;> simp

theorem mergeWithSealing_layer {operatorDocs : List String} {sealing : Option SealingRequest} {document : String}
    (merged : mergeWithSealing yaml operatorDocs sealing = .ok (.ready document layer)) :
    layer = sealing.isSome ∧ ∀ request, sealing = some request → Carries yaml request document := by
  have layered : layer = sealing.isSome := by
    unfold mergeWithSealing at merged
    cases operator : mergeCloudConfigs yaml operatorDocs with
    | error why => simp [operator, Bind.bind, Except.bind] at merged
    | ok text =>
      cases sealing with
      | none => simp_all [Bind.bind, Except.bind]
      | some request =>
        cases built : sealingLayer yaml request.sealing request.kind request.installMode text with
        | error why => simp [operator, built, Bind.bind, Except.bind] at merged
        | ok found => cases both : mergeCloudConfigs yaml [text, found] <;> simp_all [Bind.bind, Except.bind]
  refine ⟨layered, fun request same => ?_⟩
  subst same
  exact ⟨operatorDocs, merged.trans (by rw [layered]; rfl)⟩

variable {source : ImageSource}

section Chosen

variable {spec : VMImageSpec} (found : findUrlSource spec.sources = some source)

include found

theorem sealingRequest_kindFor : spec.sealingRequest (spec.kindFor source) = spec.sealingWanted := by
  rw [VMImageSpec.sealingWanted, found]
  rfl

theorem isSome_sealingWanted : spec.sealingWanted.isSome = spec.firstBootSealing.isSome := by
  rw [← sealingRequest_kindFor found, VMImageSpec.sealingRequest, Option.isSome_map]

end Chosen

theorem wanted_desiredFor (found : findUrlSource image.spec.sources = some source) : image.spec.wanted ctx image.name =
    some (desiredFor ctx image source (image.spec.kindFor source) (image.spec.mergedConfig image.name)).spec := by
  rw [VMImageSpec.wanted, found]
  rfl

theorem prelayOutcome_ne_done {job : Job} (unfinished : jobSucceeded job = false) {message : Option String} (digest : String) :
    Prelay.prelayOutcome job message ≠ .done digest := by
  rw [Prelay.prelayOutcome, if_neg (by simpa [jobSucceeded] using unfinished)]
  split <;> nofun

theorem wpe_cloudConfigFor (found : findUrlSource image.spec.sources = some source) (free : stage.Free) :
    wpe (provenance yaml ctx image) (cloudConfigFor yaml image (image.spec.kindFor source))
      (fun outcome after => ∃ written, after = { stage with written := written } ∧ match outcome with
        | .applied config layer => config = image.spec.mergedConfig image.name ∧
            layer = image.spec.sealingWanted.isSome ∧ (image.spec.sealingWanted.isSome = true → written = true)
        | .sealingRefused _ => True) (fun _ _ => True) stage := by
  have asked := isSome_sealingWanted found
  unfold cloudConfigFor mergeAndApplyCloudConfigs
  simp only [sealingRequest_kindFor found, wpe_ite, wpe_pure, wpe_bind]
  refine ⟨fun needed => wpe_mono (wpe_documents _) fun documents after same => ?_, fun unneeded => ?_⟩
  · subst same
    cases merged : mergeWithSealing yaml documents image.spec.sealingWanted with
    | error why => simp
    | ok config =>
      cases config with
      | sealingRefused why => exact ⟨after.written, rfl, trivial⟩
      | ready document layer =>
        obtain ⟨layered, carried⟩ := mergeWithSealing_layer merged
        rw [asked] at needed
        simpa [free, layered, VMImageSpec.mergedConfig, needed, Except.isOk, Except.toBool] using carried
  · refine ⟨stage.written, rfl, ?_⟩
    rw [asked] at unneeded ⊢
    simp_all [VMImageSpec.mergedConfig]

/-- Nothing that was known is forgotten. -/
def Stage.Grows (stage after : Stage) : Prop :=
  after.looked = stage.looked ∧ after.live = stage.live ∧ (stage.prelaid = true → after.prelaid = true)

theorem Vouched.grows (vouched : Vouched image stage status)
    (grows : stage.Grows after) : Vouched image after status := by
  intro ready
  obtain ⟨live, seen, mine, isReady, named, layered, sized⟩ := vouched ready
  exact ⟨live, grows.2.1.trans seen, mine, isReady, named, layered,
    fun size reported => ⟨grows.2.2 (sized size reported).1, (sized size reported).2⟩⟩

theorem wpe_reconcilePrelay {live : Live} {size : UInt32} (looked : stage.looked = true)
    (untouched : stage.untouched = true) (there : stage.live = some live)
    (named : status.osArtifactRef = osArtifactName image.name) (seen : status.osArtifactUid = some live.uid) :
    wpe (provenance yaml ctx image) (reconcilePrelay ctx image status size)
      (fun outcome after => stage.Grows after ∧ ∀ digest, outcome = .done digest → after.prelaid = true)
      (fun _ _ => True) stage := by
  unfold reconcilePrelay
  cases ctx.prelayImage with
  | none => simp [Stage.Grows]
  | some prelayImage =>
    simp +contextual [seen, looked, Stage.Grows]
    refine fun job _ => ⟨fun succeeded _ _ => ?_, fun unfinished digest done => ?_⟩
    · simp_all [Stage.proves]
    · exact absurd done (prelayOutcome_ne_done unfinished digest)

theorem wpe_withPush (looked : stage.looked = true) (vouched : Vouched image stage status) :
    wpe (provenance yaml ctx image) (withPush ctx image status) (fun pushed after => Vouched image after pushed)
      (fun _ _ => True) stage := by
  have pushed : wpe (provenance yaml ctx image) (reconcilePush ctx image status) (fun _ after => stage.Grows after)
      (fun _ _ => True) stage := by
    unfold reconcilePush pushResult
    split <;> simp +contextual [looked, Stage.Grows]
  unfold withPush
  simp only [wpe_ite, wpe_bind, wpe_pure]
  exact ⟨fun _ => wpe_mono pushed fun artifact after grows => vouched.grows grows, fun _ => vouched⟩

theorem mapKairosPhase_eq_ready {phase : String} (ready : mapKairosPhase phase = .ready) : phase = "Ready" := by
  unfold mapKairosPhase at ready
  split_ifs at ready
  assumption

variable {live : Option OsArtifact}

theorem vouched_builtStatus {kind : BuildArtifactKind}
    (there : stage.live = live.map (liveOf image)) (free : stage.Free)
    (identified : ∀ artifact ∈ live, artifact.uid.isSome = true)
    (layered : layer = true → image.spec.sealingWanted.isSome = true) :
    Vouched image stage (builtStatus image source kind live layer) := by
  intro ready
  cases live with
  | none => cases ready
  | some artifact =>
    obtain ⟨uid, known⟩ := Option.isSome_iff_exists.mp (identified artifact rfl)
    refine ⟨liveOf image artifact, there, free.2 _ there, ?_, ?_, layered, nofun⟩
    · cases reported : artifact.phase with
      | none => simp [builtStatus, computeBuildArtifactStatus, extractKairosStatus, reported] at ready
      | some phase =>
        have mapped : mapKairosPhase phase = .ready := by
          simpa [builtStatus, computeBuildArtifactStatus, extractKairosStatus, reported] using ready
        simp [liveOf, reported, mapKairosPhase_eq_ready mapped]
    · simp [builtStatus, computeBuildArtifactStatus, liveOf, known]

theorem wpe_withPrelay (looked : stage.looked = true) (untouched : stage.untouched = true)
    (named : status.osArtifactRef = osArtifactName image.name) (vouched : Vouched image stage status) :
    wpe (provenance yaml ctx image) (withPrelay ctx image status)
      (fun status after => after.looked = true ∧ Vouched image after status) (fun _ _ => True) stage := by
  unfold withPrelay
  cases asked : image.spec.prelay with
  | none => exact ⟨looked, vouched⟩
  | some size =>
    dsimp only
    split
    · exact ⟨looked, .of_ne nofun⟩
    · simp only [wpe_ite, wpe_bind, wpe_pure]
      refine ⟨fun ready => ?_, fun _ => ⟨looked, vouched⟩⟩
      obtain ⟨live, there, mine, isReady, identified, layered, -⟩ := vouched ready
      refine wpe_mono (wpe_reconcilePrelay looked untouched there named identified) fun outcome after reached => ?_
      obtain ⟨grows, known⟩ := reached
      refine ⟨grows.1.trans looked, fun stillReady => ?_⟩
      cases outcome with
      | running => cases stillReady
      | failed why => cases stillReady
      | done digest =>
        refine ⟨live, grows.2.1.trans there, mine, isReady, identified, layered, fun other same => ?_⟩
        cases same
        exact ⟨known digest rfl, asked⟩

theorem wpe_reconcileBuild
    (found : findUrlSource image.spec.sources = some source) (free : stage.Free) (untouched : stage.untouched = true)
    (there : stage.live = live.map (liveOf image)) (identified : ∀ artifact ∈ live, artifact.uid.isSome = true) :
    wpe (provenance yaml ctx image) (reconcileBuild yaml ctx image source (image.spec.kindFor source) live)
      (fun _ _ => True) (fun _ _ => True) stage := by
  unfold reconcileBuild patchVmimageStatus
  rw [wpe_bind]
  refine wpe_mono (wpe_cloudConfigFor found free) fun outcome after reached => ?_
  obtain ⟨written, rfl, known⟩ := reached
  cases outcome with
  | sealingRefused why => simpa using Vouched.of_ne (by simp [sealingRefusedStatus, refusedStatus])
  | applied cloudConfig layer =>
    obtain ⟨rfl, rfl, secretWritten⟩ := known
    simp only [wpe_bind, wpe_consult]
    refine ⟨⟨free, secretWritten, wanted_desiredFor found, rfl⟩, fun reply after same => ?_⟩
    cases same
    cases reply with
    | error why => trivial
    | ok _ =>
      refine wpe_mono (wpe_withPrelay free.1 untouched rfl (vouched_builtStatus there free identified id))
        fun status after reached => ?_
      refine wpe_mono (wpe_withPush reached.1 reached.2) fun pushed after vouched => ?_
      simpa using vouched

theorem mine_of_proceed {lost terminating : Bool} (found : findUrlSource image.spec.sources = some source)
    (proceed : artifactGate (live.map (liveView image source (image.spec.kindFor source) lost)) terminating = .proceed) :
    ∀ seen ∈ live.map (liveOf image), seen.mine = true := by
  cases live with
  | none => exact nofun
  | some artifact =>
    intro seen same
    cases same
    simp only [Option.map_some, artifactGate, liveView] at proceed
    split_ifs at proceed
    simp_all [liveOf, VMImageSpec.current]

theorem wp_judgeVolume_unmoved (live : Option OsArtifact) (claim : Option PersistentVolumeClaim) :
    (judgeVolume live claim).wp (provenance yaml ctx image) (fun _ after => after = stage) stage := by
  unfold judgeVolume artifactVolumeLost
  split
  · rename_i artifact claim
    cases claim.volumeName with
    | none => simp
    | some volumeName =>
      simp only [wp_ite, wp_pure, wp_bind, wp_request]
      refine ⟨fun _ => trivial, fun _ => ⟨trivial, fun reply after same => ?_⟩⟩
      cases same
      split
      · split <;> simp
      · simp
      · simp
  · simp

theorem wpe_standDown (source : ImageSource) (kind : BuildArtifactKind) (lost : Bool) (gate : ArtifactGate) :
    wpe (provenance yaml ctx image) (standDown image source kind lost gate) (fun _ _ => True) (fun _ _ => True) stage := by
  have unready : ∀ message, Vouched image stage (computeBuildArtifactStatus (osArtifactName image.name) kind
      ⟨none, some message⟩ source.checksum none image.spec.trustedBoot.isSome) :=
    fun _ => .of_ne (by simp [computeBuildArtifactStatus])
  unfold standDown patchVmimageStatus
  split <;> simp [unready]

theorem wpe_reconcileSource (found : findUrlSource image.spec.sources = some source) (first : stage.looked = false) :
    wpe (provenance yaml ctx image) (reconcileSource yaml ctx image source (image.spec.kindFor source))
      (fun _ _ => True) (fun _ _ => True) stage := by
  have looked : wpe (provenance yaml ctx image)
      (consult (.getOsArtifact (osArtifactName image.name)) optional : Pass (Option OsArtifact)) (fun live after =>
        after = { looked := true, live := live.map (liveOf image) } ∧ ∀ artifact ∈ live, artifact.uid.isSome = true)
      (fun _ _ => True) stage := by
    simp +contextual [first]
  unfold reconcileSource
  refine wpe_andThen looked fun live after reached => ?_
  obtain ⟨rfl, identified⟩ := reached
  simp [-ne_eq]
  refine fun claim => wp_mono (wp_judgeVolume_unmoved live claim) fun lost after unmoved => ?_
  subst unmoved
  exact ⟨fun proceed => wpe_reconcileBuild found ⟨rfl, mine_of_proceed found proceed⟩ rfl rfl identified,
    fun _ => wpe_standDown _ _ _ _⟩

theorem wpe_reconcile :
    wpe (provenance yaml ctx image) (reconcile yaml ctx image) (fun _ _ => True) (fun _ _ => True) {} := by
  have unmoved : wpe (provenance yaml ctx image) (trustedBootMissing image.spec.trustedBoot)
      (fun _ after => after = {}) (fun _ _ => True) {} := by
    unfold trustedBootMissing
    split <;> simp
  unfold reconcile patchVmimageStatus
  cases found : findUrlSource image.spec.sources with
  | none => simp
  | some source =>
    refine wpe_andThen unmoved fun missing after same => ?_
    subst same
    cases missing with
    | none => exact wpe_reconcileSource found rfl
    | some missing => simpa using Vouched.of_ne (by simp [refusedStatus])

end Pass

/-! ## Specs that ask for the same -/

theorem withOverlayDirectory_compared (needed : Bool) (spec : OsArtifactSpec) :
    (withOverlayDirectory needed spec).imageRef = spec.imageRef ∧ (withOverlayDirectory needed spec).arch = spec.arch ∧
      (withOverlayDirectory needed spec).ukiIso = spec.ukiIso ∧
      ∀ kind, artifactFlag (withOverlayDirectory needed spec) kind = artifactFlag spec kind := by
  unfold withOverlayDirectory
  split
  · exact ⟨rfl, rfl, rfl, fun kind => by cases kind <;> rfl⟩
  · exact ⟨rfl, rfl, rfl, fun _ => rfl⟩

variable (source : ImageSource) (architecture : Architecture) (kind : BuildArtifactKind)

theorem desiredOsArtifactSpec_compared
    (cloudConfig : Option CloudConfigSource) (scheduling : BuildScheduling) (isoOverlay : Option IsoOverlaySource)
    (importerImage : ImporterImage) (trustedBoot : Option TrustedBootSource) :
    let spec := desiredOsArtifactSpec source architecture kind cloudConfig scheduling isoOverlay importerImage trustedBoot
    spec.imageRef = source.importFrom ∧ spec.arch = some (archStr architecture) := by
  cases trustedBoot <;> exact ⟨(withOverlayDirectory_compared _ _).1, (withOverlayDirectory_compared _ _).2.1⟩

theorem cloudConfigSecret_desired
    (secret : String) (scheduling : BuildScheduling) (isoOverlay : Option IsoOverlaySource)
    (importerImage : ImporterImage) (trustedBoot : Option TrustedBootSource) :
    (desiredOsArtifactSpec source architecture kind (some ⟨some ⟨secret, none⟩⟩) scheduling isoOverlay importerImage
      trustedBoot).cloudConfigSecret = some (secret, defaultCloudConfigKey) := by
  cases trustedBoot with
  | none =>
    cases needed : !(overlayVolumes isoOverlay).isEmpty <;>
      simp [desiredOsArtifactSpec, withOverlayDirectory, needed, OsArtifactSpec.cloudConfigSecret, KeySelector.keyOr]
  | some boot =>
    have overlay : (overlayVolumes isoOverlay).findSome? Volume.cloudConfigSecret = none := by
      unfold overlayVolumes
      split
      · rename_i overlay _
        cases overlay.files <;>
          simp [Volume.cloudConfigSecret, isoOverlaySourceVolumeName, trustedBootCloudConfigSourceVolumeName]
      · rfl
    simp [desiredOsArtifactSpec, withOverlayDirectory, OsArtifactSpec.cloudConfigSecret, List.findSome?_append, overlay,
      List.findSome?_cons, trustedBootVolumes, Volume.cloudConfigSecret, KeySelector.keyOr]

section Specs

variable {ctx : Context} {name : String} {spec earlier : VMImageSpec} {object : OsArtifact}

theorem cloudConfigSecret_wanted {request : SealingRequest} {build : OsArtifactSpec}
    (wanted : spec.wanted ctx name = some build) (sealed : spec.sealingWanted = some request) :
    build.cloudConfigSecret = some (mergedCloudConfigSecretName name, defaultCloudConfigKey) := by
  obtain ⟨source, found, rfl⟩ := Option.map_eq_some_iff.mp wanted
  have merged : spec.mergedConfig name = some ⟨some ⟨mergedCloudConfigSecretName name, none⟩⟩ := by
    rw [VMImageSpec.sealingWanted, found] at sealed
    obtain ⟨sealing, declared, -⟩ := Option.map_eq_some_iff.mp sealed
    simp [VMImageSpec.mergedConfig, declared]
  rw [merged]
  exact cloudConfigSecret_desired _ _ _ _ _ _ _ _

/-- A live object that was made for an earlier spec and is current for this one is what
this one asks for, if nothing that is not compared differs. -/
theorem wanted_of_current (current : spec.current object = true) (same : spec.uncompared = earlier.uncompared)
    (asked : earlier.wanted ctx name = some object.spec) :
    spec.wanted ctx name = some object.spec ∧ spec.sealingWanted = earlier.sealingWanted := by
  obtain ⟨source, found, matched⟩ := (Option.any_eq_true _ _).mp current
  obtain ⟨first, foundFirst, made⟩ := Option.map_eq_some_iff.mp asked
  injection same with kinds mode cloudConfigs isoOverlay trustedBoot firstBootSealing
  rw [found, foundFirst] at kinds
  have kind : spec.kindFor source = earlier.kindFor first := Option.some.inj kinds
  have merged : spec.mergedConfig name = earlier.mergedConfig name := by
    rw [VMImageSpec.mergedConfig, VMImageSpec.mergedConfig, cloudConfigs, firstBootSealing]
  have compared := desiredOsArtifactSpec_compared first earlier.architecture (earlier.kindFor first)
    (earlier.mergedConfig name) ctx.scheduling earlier.isoOverlay ctx.importerImage earlier.trustedBoot
  dsimp only at compared
  rw [made] at compared
  simp only [isCurrent, specMatches, Bool.and_eq_true, beq_iff_eq] at matched
  have imported : source.importFrom.isSome = true := by
    have chosen := List.find?_some found
    simp only [Bool.and_eq_true] at chosen
    exact chosen.2
  obtain ⟨reference, importFrom⟩ := Option.isSome_iff_exists.mp imported
  have image : source.importFrom = first.importFrom := by
    rw [← compared.1, matched.1.1, importFrom]
    rfl
  have arch : archStr spec.architecture = archStr earlier.architecture :=
    Option.some.inj (matched.1.2.symm.trans compared.2)
  constructor
  · rw [VMImageSpec.wanted, found, Option.map_some, ← made, kind, merged, isoOverlay, trustedBoot]
    simp only [desiredOsArtifactSpec, image, arch]
  · rw [VMImageSpec.sealingWanted, VMImageSpec.sealingWanted, found, foundFirst]
    simp only [Option.bind_some, VMImageSpec.sealingRequest, kind, mode, firstBootSealing]

end Specs

end Banlieue.Imagebuilder
