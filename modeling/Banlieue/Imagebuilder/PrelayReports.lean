import Banlieue.Imagebuilder.PrelayRuns

namespace Banlieue.Imagebuilder

open Banlieue.Api hiding BuildArtifactStatus ImageSource VMImageSpec VMImage
open Banlieue.Data Banlieue.Data.Program

/-! # A pre-lay is reported, and stays so -/

section Runs

variable {yaml : Yaml} {ctx : Context} {name uid : String} {spec : VMImageSpec} {world : World} {cluster : Cluster}
  {stage : Watch} {generation : Nat} {image : VMImage} {call : Call} {status : BuildArtifactStatus}

theorem watching_failure (problem : String) :
    (watching yaml ctx image world call).post stage (Cluster.failure problem call) stage := by
  cases call <;> simp [Cluster.failure]

theorem Cluster.Watched.serve (watched : cluster.Watched yaml ctx name uid spec world)
    (means : stage.Means yaml ctx name spec world cluster) (answer : Cluster.Answer)
    (found : MessageFound name cluster call)
    (permitted : (watching yaml ctx (imageAt name uid (fun _ => spec) generation) world call).pre stage) :
    let served := cluster.serve generation answer call
    served.2.Watched yaml ctx name uid spec world ∧
      ∃ later, (watching yaml ctx (imageAt name uid (fun _ => spec) generation) world call).post stage served.1 later ∧
        Watch.Means yaml ctx name spec world served.2 later := by
  have kept := watched.carryOut means answer.gone found permitted
  unfold Cluster.serve
  cases answer.fate with
  | answered => exact ⟨kept.1.1, kept.2⟩
  | dropped => exact ⟨watched, stage, watching_failure _, means⟩
  | unanswered => exact ⟨kept.1.1, stage, watching_failure _, kept.1.2⟩

theorem watched_inductive (separate : spec.Separate name) (intact : world.lost = false)
    (staying : world.claim.any PersistentVolumeClaim.deleting = false)
    (distinct : Push.pushJobName (osArtifactName name) ≠ prelayName name) :
    Machine.Inductive (PodStays yaml ctx name uid spec) (Cluster.Watched yaml ctx name uid spec world)
      (Machine.Abides (labelled fun generation => watching yaml ctx (imageAt name uid (fun _ => spec) generation) world)
        fun stage cluster => stage.2.Means yaml ctx name spec world cluster) where
  launched := by
    intro state task generation program _ _ _ launched
    cases launched
    exact ⟨(generation, .looking), trivial, wp_mono (wp_labelled (wpe_watched separate intact staying distinct))
      fun _ _ _ => trivial⟩
  served := by
    intro state task answer call next holds allowed running
    have messages : MessageFound name state.service call.2 := by
      have here : AtCall _ (state.running ()) := allowed
      rw [show state.running () = some (.await call next) from running] at here
      exact here
    refine (holds.2 task _ running).served fun stage means permitted => ?_
    obtain ⟨_, stage⟩ := stage
    obtain ⟨rfl, permitted⟩ := permitted
    obtain ⟨kept, later, moved, meant⟩ := Cluster.Watched.serve holds.1 means answer messages permitted
    exact ⟨kept, (call.1, later), ⟨rfl, moved⟩, meant⟩
  undisturbed := by
    intro state task answer call next other program _ _ _ different
    exact absurd rfl different
  disturbed := by
    intro state happening after holds allowed happened
    have kept := Cluster.Watched.happen holds.1 allowed happened
    exact ⟨kept.1, fun task program running => (holds.2 task program running).stable fun stage => kept.2 stage.2⟩

/-! ## A pass that nothing gets in the way of -/

/-- Every call is answered. -/
def smooth (generation : Nat) (cluster : Cluster) (call : Call) : Reply call × Cluster := cluster.serve generation {} call

@[simp]
theorem smooth_eq : smooth generation cluster call = cluster.carryOut generation true call := rfl

/-- The Job has succeeded and its pod says what came of it. -/
structure Cluster.Tells (yaml : Yaml) (ctx : Context) (name uid : String) (spec : VMImageSpec) (world : World)
    (message : String) (cluster : Cluster) : Prop where
  watched : cluster.Watched yaml ctx name uid spec world
  succeeded : Succeeded name cluster
  told : Told name cluster message

variable {message : String}

theorem Cluster.Tells.of_eq {after : Cluster} (tells : cluster.Tells yaml ctx name uid spec world message)
    (shows : after.Shows name uid spec world) (jobs : after.jobs (prelayName name) = cluster.jobs (prelayName name))
    (pods : after.pods (prelayName name) = cluster.pods (prelayName name)) (published : after.published = cluster.published) :
    after.Tells yaml ctx name uid spec world message := by
  have frame := Cluster.Frame.of_eq jobs pods published
  refine ⟨frame.watched tells.watched shows, frame.succeeded tells.succeeded, ?_⟩
  rw [Told, pods]
  exact tells.told

theorem alone_trustedBootMissing (shows : cluster.Shows name uid spec world) (separate : spec.Separate name)
    (keys : spec.KeysIn world) : wpe (alone (smooth generation)) (trustedBootMissing spec.trustedBoot)
      (fun missing last => missing = none ∧ last = cluster) (fun _ _ => False) cluster := by
  unfold trustedBootMissing
  cases asked : spec.trustedBoot with
  | none => simp
  | some boot =>
    have present := keys boot asked
    have same := shows.secrets _ (separate.2 boot asked)
    cases stored : world.secrets boot.secretRef <;>
      simp_all [-wpe_consult, Cluster.carryOut, Cluster.orNotFound]

theorem alone_cloudConfigDocument (shows : cluster.Shows name uid spec world) (separate : spec.Separate name)
    {source : CloudConfigSource} (member : source ∈ spec.cloudConfigs) {document : String}
    (found : documentIn world.secrets source = some document) :
    wpe (alone (smooth generation)) (cloudConfigDocument source)
      (fun read last => last = cluster ∧ documentIn world.secrets source = some read) (fun _ _ => False) cluster := by
  obtain ⟨selector, selected, read⟩ := Option.bind_eq_some_iff.mp found
  obtain ⟨data, stored, present⟩ := Option.bind_eq_some_iff.mp read
  have same := shows.secrets _ (separate.1 source member selector selected)
  simp [-wpe_consult, cloudConfigDocument, documentIn, selected, same, stored, present, Cluster.carryOut, Cluster.orNotFound]

theorem documentIn_of_mapM {sources : List CloudConfigSource} {documents : List String}
    (read : sources.mapM (documentIn world.secrets) = some documents) :
    ∀ source ∈ sources, ∃ document, documentIn world.secrets source = some document := by
  induction sources generalizing documents with
  | nil => simp
  | cons first rest ih =>
    rw [List.mapM_cons] at read
    obtain ⟨document, found, others⟩ := Option.bind_eq_some_iff.mp read
    obtain ⟨later, known, -⟩ := Option.bind_eq_some_iff.mp others
    exact List.forall_mem_cons.mpr ⟨⟨document, found⟩, ih known⟩

theorem alone_configured (tells : cluster.Tells yaml ctx name uid spec world message) (separate : spec.Separate name)
    {source : ImageSource} (found : findUrlSource spec.sources = some source) (inOrder : spec.InOrder yaml world) :
    wpe (alone (smooth generation)) (cloudConfigFor yaml (imageAt name uid (fun _ => spec) generation) (spec.kindFor source))
      (fun outcome last => (∃ layer, outcome = .applied (spec.mergedConfig name) layer) ∧
        last.Tells yaml ctx name uid spec world message) (fun _ _ => False) cluster := by
  unfold cloudConfigFor mergeAndApplyCloudConfigs
  simp only [imageAt, sealingRequest_kindFor found, isSome_sealingWanted found, wpe_ite, wpe_pure, wpe_bind]
  refine ⟨fun needed => ?_, fun unneeded => ⟨⟨false, by simp [VMImageSpec.mergedConfig, unneeded]⟩, tells⟩⟩
  obtain ⟨documents, merged, layer, read, ready⟩ := inOrder.2 needed
  refine wpe_mono (wpe_mapM (fun source document => documentIn world.secrets source = some document)
    fun source member => ?_) fun results last reached => ?_
  · obtain ⟨document, present⟩ := documentIn_of_mapM read source member
    exact alone_cloudConfigDocument tells.watched.shows separate member present
  obtain ⟨rfl, each⟩ := reached
  cases (mapM_of_forall₂ each).symm.trans read
  have shown : (last.applySecret (mergedCloudConfigSecretName name) defaultCloudConfigKey merged).Shows name uid spec world :=
    tells.watched.shows.transfer (fun other different => if_neg different) rfl rfl rfl rfl
  simpa [-wpe_consult, ready, Cluster.carryOut, VMImageSpec.mergedConfig, needed] using tells.of_eq shown rfl rfl rfl

theorem alone_verdict (tells : cluster.Tells yaml ctx name uid spec world message)
    (possible : spec.prelayRefused ctx = false → Prelay.prelayRefusal status.kind ctx.prelayImage = none)
    (ready : status.phase = .ready) (named : status.osArtifactRef = osArtifactName name)
    (seen : status.osArtifactUid = some world.artifactUid) :
    wpe (alone (smooth generation)) (withPrelay ctx (imageAt name uid (fun _ => spec) generation) status)
      (fun status last => (Reports name message status ∧ status.osArtifactRef = osArtifactName name) ∧ last = cluster)
      (fun _ _ => False) cluster := by
  obtain ⟨job, stored, succeeded⟩ := tells.succeeded
  obtain ⟨-, wished, unrefused⟩ := (tells.watched.job job stored).1
  obtain ⟨size, asked⟩ := Option.isSome_iff_exists.mp wished
  obtain ⟨prelayImage, configured⟩ := Option.isSome_iff_exists.mp (prelayImage_of_allowed (possible unrefused))
  have allowed := possible unrefused
  rw [configured] at allowed
  have same : Prelay.prelayJobName (osArtifactName name) = prelayName name := rfl
  have told : terminationMessage (cluster.pods (prelayName name)) = some message := tells.told
  simp [-wpe_consult, withPrelay, reconcilePrelay, imageAt, asked, allowed, ready, seen, configured, named, same,
    Cluster.carryOut, Cluster.orNotFound, stored, tells.watched.owned stored, succeeded, told]
  refine ⟨reports_applyPrelay named (outcome_of_message succeeded) size, ?_⟩
  cases Prelay.prelayOutcome job (some message) <;> exact named

theorem alone_pushed :
    wpe (alone (smooth generation)) (withPush ctx image status)
      (fun pushed _ => ∃ artifact, pushed = { status with ociArtifact := artifact }) (fun _ _ => False) cluster := by
  unfold withPush reconcilePush pushResult
  simp only [wpe_ite, wpe_bind, wpe_pure]
  refine ⟨fun _ => ?_, fun _ => ⟨_, rfl⟩⟩
  split
  · simp
  · simp
  · cases stored : cluster.jobs (Push.pushJobName status.osArtifactRef) <;>
      simp [-wpe_consult, Cluster.carryOut, Cluster.orNotFound, stored, Cluster.applyJob, Cluster.deleteJob,
        Push.buildPushJob]

theorem alone_reconcile (tells : cluster.Tells yaml ctx name uid spec world message) (separate : spec.Separate name)
    (intact : world.lost = false) (staying : world.claim.any PersistentVolumeClaim.deleting = false) :
    wpe (alone (smooth generation)) (reconcile yaml ctx (imageAt name uid (fun _ => spec) generation))
      (fun _ last => ∃ status, last.published.head? = some (generation, status) ∧ Reports name message status)
      (fun _ _ => False) cluster := by
  obtain ⟨job, stored, -⟩ := tells.succeeded
  obtain ⟨inOrder, -, unrefused⟩ := (tells.watched.job job stored).1
  obtain ⟨artifact, there, settled⟩ := tells.watched.shows.artifact
  have settled : Settled (imageAt name uid (fun _ => spec) generation) world artifact.object := settled
  obtain ⟨source, found⟩ : ∃ source, findUrlSource spec.sources = some source := by
    obtain ⟨source, found, -⟩ := (Option.any_eq_true _ _).mp settled.2.2.2.2
    exact ⟨source, found⟩
  have kind : artifactKindFor source.providerClass spec.mode = spec.kindFor source := rfl
  have proceed := proceed_of_settled settled found
  have allowed : Prelay.prelayRefusal (spec.kindFor source) ctx.prelayImage = none := by
    simpa [VMImageSpec.prelayRefused, found] using unrefused
  unfold reconcile reconcileSource reconcileBuild patchVmimageStatus
  simp only [imageAt, found, wpe_bind]
  refine wpe_mono (alone_trustedBootMissing tells.watched.shows separate inOrder.1) fun missing last reached => ?_
  obtain ⟨rfl, rfl⟩ := reached
  simp [-wpe_consult, Cluster.carryOut, Cluster.orNotFound, there, tells.watched.shows.claim, kind]
  refine wp_mono (wp_judgeVolume intact (fun volume => ⟨trivial, ?_⟩) (fun host => ⟨trivial, ?_⟩) _)
    fun lost last reached => ?_
  · rintro _ _ ⟨rfl, rfl⟩
    exact ⟨rfl, .inr (congrArg Except.ok (congrFun tells.watched.shows.persistentVolumes volume))⟩
  · rintro _ _ ⟨rfl, rfl⟩
    exact ⟨rfl, .inr (congrArg Except.ok (congrFun tells.watched.shows.nodes host))⟩
  obtain ⟨rfl, rfl⟩ := reached
  rw [staying]
  simp only [imageAt] at proceed settled
  simp [-wpe_consult, proceed]
  refine wpe_mono (alone_configured tells separate found inOrder) fun outcome last reached => ?_
  obtain ⟨⟨layer, rfl⟩, tells⟩ := reached
  have shown : (last.applyArtifact generation (desiredFor ctx ⟨name, uid, generation, spec⟩ source (spec.kindFor source)
      (spec.mergedConfig name))).Shows name uid spec world := tells.watched.shows.applyArtifact
    (@wanted_desiredFor _ ⟨name, uid, generation, spec⟩ _ found)
  obtain ⟨ready, -, -, seen⟩ := builtStatus_settled settled found layer
  simp [-wpe_consult, Cluster.carryOut, kind]
  have tells := tells.of_eq shown (by unfold Cluster.applyArtifact; split <;> rfl)
    (by unfold Cluster.applyArtifact; split <;> rfl) (by unfold Cluster.applyArtifact; split <;> rfl)
  refine wpe_mono (alone_verdict tells (fun _ => allowed) ready rfl seen) fun status last reached => ?_
  refine wpe_mono alone_pushed fun pushed last same => ?_
  obtain ⟨artifact, rfl⟩ := same
  exact reached.1.1

/-! ## Every run -/

/-- An artifact that is ready, and nothing pre-laid yet. -/
structure Cluster.Opening (name uid : String) (spec : VMImageSpec) (world : World) (start : Cluster) : Prop where
  shows : start.Shows name uid spec world
  job : start.jobs (prelayName name) = none
  pods : start.pods (prelayName name) = []
  published : start.published = []

theorem Cluster.Opening.watched {start : Cluster} (opening : start.Opening name uid spec world) :
    start.Watched yaml ctx name uid spec world where
  shows := opening.shows
  job job found := by cases opening.job.symm.trans found
  pods _ := opening.pods
  entries := by simp [opening.published]
  steady := by simp [Steady, opening.published]

/-- As long as the pod of the succeeded Job is there whenever it is looked for, what was
ready stays ready with its file and checksum, and a pass whose calls are answered reports
what came of the Job. -/
theorem prelay_reported_steadily (start : Cluster) (opening : start.Opening name uid spec world)
    (separate : spec.Separate name) (intact : world.lost = false)
    (staying : world.claim.any PersistentVolumeClaim.deleting = false)
    (distinct : Push.pushJobName (osArtifactName name) ≠ prelayName name)
    (events : List (constantly yaml ctx name uid spec).Event) (last : (constantly yaml ctx name uid spec).State)
    (run : Machine.Run (PodStays yaml ctx name uid spec) (Machine.State.idle start) events last) :
    Steady (Cluster.published last.service) ∧
      ∀ message, Succeeded name last.service → Told name last.service message → ∀ generation,
        ∃ requeue after calls, Returns (smooth generation) (reconcile yaml ctx (imageAt name uid (fun _ => spec) generation))
            last.service requeue after calls ∧
          ∃ status, after.published.head? = some (generation, status) ∧ Reports name message status := by
  have watched : Cluster.Watched yaml ctx name uid spec world last.service :=
    ((watched_inductive separate intact staying distinct).run run (Machine.holds_idle opening.watched)).1
  exact ⟨watched.steady, fun message succeeded told generation =>
    returns_of_wpe (alone_reconcile ⟨watched, succeeded, told⟩ separate intact staying)⟩

end Runs

/-! ### A pod that is collected -/

instance instDecidableSteady (published : List (Nat × BuildArtifactStatus)) : Decidable (Steady published) :=
  inferInstanceAs (Decidable (List.Pairwise _ _))

instance (name : String) (cluster : Cluster) : Decidable (Succeeded name cluster) :=
  decidable_of_iff ((cluster.jobs (prelayName name)).any jobSucceeded = true) (Option.any_eq_true _ _)

instance instDecidableHarmless (name : String) (cluster : Cluster) : (happening : Cluster.Happening) → Decidable (Harmless name cluster happening)
  | .jobSucceeds jobName _ => inferInstanceAs (Decidable (jobName = prelayName name → ¬ Succeeded name cluster))
  | .jobGone jobName => inferInstanceAs (Decidable (jobName ≠ prelayName name))
  | .jobFails _ | .podsGone _ => .isTrue trivial
  | .editSecret _ _ | .report _ _ | .build _ | .markDeleting | .remove | .volumes _ _ _ => .isFalse id

instance instDecidableMessageFound (name : String) (cluster : Cluster) : (call : Call) → Decidable (MessageFound name cluster call)
  | .listPods jobName => inferInstanceAs (Decidable (jobName = prelayName name → _ = true))
  | .getSecret _ | .applySecret _ _ _ _ | .getOsArtifact _ | .deleteOsArtifact _ | .applyOsArtifact _ | .getPvc _
  | .getPv _ | .listNodes _ | .getJob _ | .applyJob _ | .deleteJob _ | .patchStatus _ _ => .isTrue trivial

instance (yaml : Yaml) (ctx : Context) (name uid : String) (spec : VMImageSpec) :
    (state : (constantly yaml ctx name uid spec).State) → (event : (constantly yaml ctx name uid spec).Event) →
      Decidable (PodStays yaml ctx name uid spec state event)
  | state, .serve _ _ =>
    @AtCall.decidable Tagged _ _ (fun call => MessageFound name state.service call.2)
      (fun call => instDecidableMessageFound name state.service call.2) (state.running ())
  | state, .disturb happening => instDecidableHarmless name state.service happening
  | _, .launch _ _ => .isTrue trivial
  | _, .crash _ => .isTrue trivial

def prelaidDisk : VMImageSpec := rawDisk (some 32) none

def builtDisk : OsArtifact :=
  { uid := some "0"
    ownerUids := ["image-uid"]
    phase := some "Ready"
    spec := (desiredFor sampleContext (imageAt "kairos" "image-uid" (fun _ => prelaidDisk) 0)
      { providerClass := "libvirt", kind := .url, importFrom := some "quay.io/kairos" } .cloudImage none).spec }

/-- The disk is built, and nothing else is there. -/
def builtCluster : Cluster :=
  { artifact := some { object := builtDisk, uid := "0", created := builtDisk.spec, madeFor := 0, built := true } }

def builtWorld : World := ⟨fun _ => none, none, fun _ => none, fun _ => [], "0"⟩

theorem builtCluster_opening : builtCluster.Opening "kairos" "image-uid" prelaidDisk builtWorld where
  shows := ⟨fun _ _ => rfl, rfl, rfl, rfl, _, rfl, rfl, by decide, rfl, rfl, by decide⟩
  job := rfl
  pods := rfl
  published := rfl

def prelaying : Machine Tagged TaggedReply := constantly emptyYaml sampleContext "kairos" "image-uid" prelaidDisk

def passes (calls : Nat) : List prelaying.Event := smoothly (fun _ => prelaidDisk) 0 calls

/-- The Job is made, succeeds, and is looked at. -/
def prelaidRun : List prelaying.Event :=
  passes 6 ++ [.disturb (.jobSucceeds "kairos-build-prelay" digestPod)] ++ passes 6

/-- Its pod is collected, and the next pass finds no message. -/
def collectedRun : List prelaying.Event :=
  prelaidRun ++ [.disturb (.podsGone "kairos-build-prelay")] ++ passes 6

theorem collected_pod_unready :
    builtCluster.Opening "kairos" "image-uid" prelaidDisk builtWorld ∧
      ∃ last, (Machine.State.idle builtCluster : prelaying.State).exec collectedRun = some last ∧
        Succeeded "kairos" last.service ∧ ¬ Steady (Cluster.published last.service) := by
  have seen : ((Machine.State.idle builtCluster : prelaying.State).exec collectedRun).any
      (fun last => ((Cluster.jobs last.service (prelayName "kairos")).any jobSucceeded) &&
        !(instDecidableSteady (Cluster.published last.service)).decide) = true := by
    decide +kernel
  obtain ⟨last, executed, unsteady⟩ := (Option.any_eq_true _ _).mp seen
  rw [Bool.and_eq_true, Bool.not_eq_true'] at unsteady
  exact ⟨builtCluster_opening, last, executed, (Option.any_eq_true _ _).mp unsteady.1,
    @of_decide_eq_false _ (instDecidableSteady _) unsteady.2⟩

theorem prelaid_disk_reported :
    ∃ last : prelaying.State,
      Machine.Run (PodStays emptyYaml sampleContext "kairos" "image-uid" prelaidDisk) (Machine.State.idle builtCluster)
        prelaidRun last ∧
      (∃ entry ∈ Cluster.published last.service, entry.2.phase = .ready) ∧ Steady (Cluster.published last.service) ∧
      ∃ requeue after calls, Returns (smooth 1) (reconcile emptyYaml sampleContext (imageAt "kairos" "image-uid"
          (fun _ => prelaidDisk) 1)) last.service requeue after calls ∧
        ∃ status, after.published.head? = some (1, status) ∧
          Reports "kairos" ("sha256:" ++ String.ofList (List.replicate 64 'a')) status := by
  have seen : ((Machine.State.idle builtCluster : prelaying.State).execIf
      (PodStays emptyYaml sampleContext "kairos" "image-uid" prelaidDisk) prelaidRun).any
      (fun last => (Cluster.jobs last.service (prelayName "kairos")).any jobSucceeded &&
        (terminationMessage (Cluster.pods last.service (prelayName "kairos")) ==
          some ("sha256:" ++ String.ofList (List.replicate 64 'a')) &&
        (Cluster.published last.service).any fun entry => entry.2.phase == .ready)) = true := by
    decide +kernel
  obtain ⟨last, executed, seen⟩ := (Option.any_eq_true _ _).mp seen
  simp only [Bool.and_eq_true, beq_iff_eq, List.any_eq_true] at seen
  obtain ⟨succeeded, told, ready⟩ := seen
  have run := Machine.Run.of_execIf executed
  have kept := prelay_reported_steadily builtCluster builtCluster_opening ⟨nofun, nofun⟩ rfl rfl (by decide) _ last run
  exact ⟨last, run, ready, kept.1, kept.2 _ ((Option.any_eq_true _ _).mp succeeded) told 1⟩

end Banlieue.Imagebuilder
