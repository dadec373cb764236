import Banlieue.Imagebuilder.Histories
import Banlieue.Imagebuilder.Prelaid

namespace Banlieue.Imagebuilder

open Banlieue.Api hiding BuildArtifactStatus ImageSource VMImageSpec VMImage
open Banlieue.Data Banlieue.Data.Program

/-! # Every run of pre-lay passes -/

section Runs

variable (yaml : Yaml) (ctx : Context) (name uid : String) (spec : VMImageSpec) (world : World)

/-- The passes over an image whose spec is not edited. -/
abbrev constantly : Machine Tagged TaggedReply := builder yaml ctx name uid fun _ => spec

def Succeeded (cluster : Cluster) : Prop :=
  ∃ job, cluster.jobs (prelayName name) = some job ∧ jobSucceeded job = true

/-- The pods of the Job that are left say so. -/
def Told (cluster : Cluster) (message : String) : Prop :=
  terminationMessage (cluster.pods (prelayName name)) = some message

/-- What a status that was written may be. -/
structure Entry (cluster : Cluster) (status : BuildArtifactStatus) : Prop where
  plain : spec.Plain yaml world → Built name spec status
  prelaid : spec.Prelays yaml ctx world → status.phase = .ready →
    Succeeded name cluster ∧ ∀ message, Told name cluster message → Reports name message status
  refused : ¬ spec.Plain yaml world → ¬ spec.Prelays yaml ctx world → status.phase ≠ .ready

/-- The cluster shows the world as it is. -/
structure Cluster.Shows (cluster : Cluster) : Prop where
  secrets : ∀ secret, secret ≠ mergedCloudConfigSecretName name → cluster.secrets secret = world.secrets secret
  claim : cluster.claim = world.claim
  persistentVolumes : cluster.persistentVolumes = world.persistentVolumes
  nodes : cluster.nodes = world.nodes
  artifact : ∃ artifact, cluster.artifact = some artifact ∧ Settled (imageAt name uid (fun _ => spec) 0) world artifact.object

structure Cluster.Watched (cluster : Cluster) : Prop where
  shows : cluster.Shows name uid spec world
  job : ∀ job, cluster.jobs (prelayName name) = some job →
    spec.Prelays yaml ctx world ∧ job.manifest.owner.map Prod.snd = some world.artifactUid
  pods : ¬ Succeeded name cluster → cluster.pods (prelayName name) = []
  entries : ∀ entry ∈ cluster.published, Entry yaml ctx name spec world cluster entry.2
  steady : Steady cluster.published

def Watch.Means (cluster : Cluster) : Watch → Prop
  | .looking => True
  | .unfinished => spec.Prelays yaml ctx world ∧ ∀ entry ∈ cluster.published, entry.2.phase ≠ .ready
  | .read message => spec.Prelays yaml ctx world ∧ Succeeded name cluster ∧
      (∀ other, Told name cluster other → other = message) ∧
      ∀ entry ∈ cluster.published, entry.2.phase = .ready → Reports name message entry.2

/-- The artifact, the Secrets and the Job stay, and a Job succeeds once. -/
def Harmless (cluster : Cluster) : Cluster.Happening → Prop
  | .jobSucceeds jobName _ => jobName = prelayName name → ¬ Succeeded name cluster
  | .jobFails _ => True
  | .podsGone _ => True
  | .jobGone jobName => jobName ≠ prelayName name
  | _ => False

/-- The message is there when it is looked for. -/
def MessageFound (cluster : Cluster) : Call → Prop
  | .listPods jobName => jobName = prelayName name → (terminationMessage (cluster.pods jobName)).isSome = true
  | _ => True

/-- The pod of the succeeded Job is still there, with its message, when it is looked for. -/
def PodStays (state : (constantly yaml ctx name uid spec).State) : (constantly yaml ctx name uid spec).Event → Prop
  | .serve _ _ => AtCall (fun call : Tagged => MessageFound name state.service call.2) (state.running ())
  | .disturb happening => Harmless name state.service happening
  | _ => True

end Runs

section Steps

variable {yaml : Yaml} {ctx : Context} {name uid : String} {spec : VMImageSpec} {world : World} {cluster after : Cluster}
  {stage : Watch} {message jobName : String} {job : Job} {generation : Nat} {manifest : OsArtifactManifest}

/-- All is as it should be still, and what passes know stays true. -/
def Cluster.Continues (yaml : Yaml) (ctx : Context) (name uid : String) (spec : VMImageSpec) (world : World)
    (cluster after : Cluster) : Prop :=
  after.Watched yaml ctx name uid spec world ∧ ∀ stage : Watch, stage.Means yaml ctx name spec world cluster →
    stage.Means yaml ctx name spec world after

theorem Cluster.Watched.unready (watched : cluster.Watched yaml ctx name uid spec world)
    (prelays : spec.Prelays yaml ctx world) (unfinished : ¬ Succeeded name cluster) :
    ∀ entry ∈ cluster.published, entry.2.phase ≠ .ready :=
  fun entry member ready => unfinished ((watched.entries entry member).prelaid prelays ready).1

/-! ## What leaves the pre-lay alone -/

/-- The Job is the same, no message is new, and nothing is published. -/
structure Cluster.Frame (name : String) (before after : Cluster) : Prop where
  job : ∀ job, after.jobs (prelayName name) = some job →
    ∃ earlier, before.jobs (prelayName name) = some earlier ∧ earlier.manifest = job.manifest
  succeeded : Succeeded name before → Succeeded name after
  told : ∀ message, Told name after message → Told name before message
  pods : before.pods (prelayName name) = [] → after.pods (prelayName name) = []
  published : after.published = before.published

theorem Cluster.Frame.of_eq (jobs : after.jobs (prelayName name) = cluster.jobs (prelayName name))
    (pods : after.pods (prelayName name) = cluster.pods (prelayName name)) (published : after.published = cluster.published) :
    cluster.Frame name after :=
  ⟨fun job found => ⟨job, jobs ▸ found, rfl⟩, fun ⟨job, found, succeeded⟩ => ⟨job, jobs ▸ found, succeeded⟩,
    fun _ told => by rwa [Told, ← pods], fun empty => pods.trans empty, published⟩

theorem Cluster.Frame.watched (frame : cluster.Frame name after) (watched : cluster.Watched yaml ctx name uid spec world)
    (shows : after.Shows name uid spec world) : after.Watched yaml ctx name uid spec world where
  shows := shows
  job job found := by
    obtain ⟨earlier, stored, same⟩ := frame.job job found
    exact same ▸ watched.job earlier stored
  pods unfinished := frame.pods (watched.pods fun succeeded => unfinished (frame.succeeded succeeded))
  entries := by
    rw [frame.published]
    refine fun entry member => ⟨(watched.entries entry member).plain, fun prelays ready => ?_,
      (watched.entries entry member).refused⟩
    obtain ⟨succeeded, reports⟩ := (watched.entries entry member).prelaid prelays ready
    exact ⟨frame.succeeded succeeded, fun message told => reports message (frame.told message told)⟩
  steady := frame.published ▸ watched.steady

theorem Cluster.Frame.means (frame : cluster.Frame name after) (means : stage.Means yaml ctx name spec world cluster) :
    stage.Means yaml ctx name spec world after := by
  cases stage with
  | looking => trivial
  | unfinished => exact ⟨means.1, frame.published ▸ means.2⟩
  | read message =>
    exact ⟨means.1, frame.succeeded means.2.1, fun other told => means.2.2.1 other (frame.told other told),
      frame.published ▸ means.2.2.2⟩

theorem Cluster.Frame.continues (frame : cluster.Frame name after) (watched : cluster.Watched yaml ctx name uid spec world)
    (shows : after.Shows name uid spec world) : cluster.Continues yaml ctx name uid spec world after :=
  ⟨frame.watched watched shows, fun _ means => frame.means means⟩

/-- The Job is made, or succeeds: nothing was ready before. -/
theorem Cluster.Watched.advance (watched : cluster.Watched yaml ctx name uid spec world)
    (prelays : spec.Prelays yaml ctx world) (unfinished : ¬ Succeeded name cluster)
    (shows : after.Shows name uid spec world) (published : after.published = cluster.published)
    (job : ∀ job, after.jobs (prelayName name) = some job → job.manifest.owner.map Prod.snd = some world.artifactUid)
    (pods : ¬ Succeeded name after → after.pods (prelayName name) = []) :
    cluster.Continues yaml ctx name uid spec world after := by
  have unready := watched.unready prelays unfinished
  refine ⟨⟨shows, fun changed held => ⟨prelays, job changed held⟩, pods, ?_, published ▸ watched.steady⟩, fun stage means => ?_⟩
  · rw [published]
    exact fun entry member => ⟨(watched.entries entry member).plain, fun _ ready => absurd ready (unready entry member),
      (watched.entries entry member).refused⟩
  · cases stage with
    | looking => trivial
    | unfinished => exact ⟨prelays, published ▸ unready⟩
    | read message => exact absurd means.2.1 unfinished

theorem Cluster.Shows.transfer (shows : cluster.Shows name uid spec world)
    (secrets : ∀ secret, secret ≠ mergedCloudConfigSecretName name → after.secrets secret = cluster.secrets secret)
    (claim : after.claim = cluster.claim) (persistentVolumes : after.persistentVolumes = cluster.persistentVolumes)
    (nodes : after.nodes = cluster.nodes) (artifact : after.artifact = cluster.artifact) :
    after.Shows name uid spec world :=
  ⟨fun secret other => (secrets secret other).trans (shows.secrets secret other), claim.trans shows.claim,
    persistentVolumes.trans shows.persistentVolumes, nodes.trans shows.nodes, artifact ▸ shows.artifact⟩

/-! ## What happens -/

theorem Cluster.Frame.jobFails (found : cluster.jobs jobName = some job) :
    cluster.Frame name (cluster.putJob jobName (some { job with failed := some (job.failed.getD 0 + 1) })) := by
  by_cases own : prelayName name = jobName
  · subst own
    refine ⟨fun changed held => ⟨job, found, ?_⟩, fun ⟨earlier, stored, succeeded⟩ => ⟨_, if_pos rfl, ?_⟩, fun _ => id, id, rfl⟩
    · simp only [Cluster.putJob, if_true, Option.some.injEq] at held
      rw [← held]
    · cases found.symm.trans stored
      exact succeeded
  · exact .of_eq (if_neg own) rfl rfl

theorem Cluster.Watched.happen (watched : cluster.Watched yaml ctx name uid spec world) {happening : Cluster.Happening}
    (allowed : Harmless name cluster happening) (happened : cluster.happen happening = some after) :
    cluster.Continues yaml ctx name uid spec world after := by
  have shown : ∀ jobs pods finished, ({ cluster with jobs := jobs, pods := pods, finished := finished } : Cluster).Shows
      name uid spec world := fun _ _ _ => watched.shows.transfer (fun _ _ => rfl) rfl rfl rfl rfl
  cases happening with
  | jobSucceeds jobName pod =>
    obtain ⟨job, found, rfl⟩ := Option.map_eq_some_iff.mp happened
    by_cases own : prelayName name = jobName
    · subst own
      refine watched.advance (watched.job job found).1 (allowed rfl) (shown _ _ _) rfl (fun changed held => ?_)
        fun still => absurd ⟨_, if_pos rfl, by simp [jobSucceeded]⟩ still
      simp only [Cluster.putPods, Cluster.putJob, if_true, Option.some.injEq] at held
      rw [← held]
      exact (watched.job job found).2
    · exact Cluster.Frame.continues (.of_eq (if_neg own) (if_neg own) rfl) watched (shown _ _ _)
  | jobFails jobName =>
    obtain ⟨job, found, rfl⟩ := Option.map_eq_some_iff.mp happened
    exact (Cluster.Frame.jobFails found).continues watched (shown _ _ _)
  | podsGone jobName =>
    cases happened
    refine Cluster.Frame.continues ⟨fun job found => ⟨job, found, rfl⟩, id, fun message told => ?_, fun empty => ?_, rfl⟩
      watched (shown _ _ _)
    all_goals
      simp only [Told, Cluster.putPods] at *
      split at *
      all_goals simp_all [terminationMessage]
  | jobGone jobName =>
    cases happened
    exact Cluster.Frame.continues (.of_eq (if_neg (Ne.symm allowed)) rfl rfl) watched (shown _ _ _)
  | _ => exact allowed.elim

/-! ## What the calls do -/

theorem current_of_wanted {build : OsArtifactSpec} (wanted : spec.wanted ctx name = some build) {object : OsArtifact}
    (same : object.spec = build) : spec.current object = true := by
  obtain ⟨source, found, rfl⟩ := Option.map_eq_some_iff.mp wanted
  have imported : source.importFrom = some (source.importFrom.getD "") := by
    have chosen := List.find?_some found
    simp only [Bool.and_eq_true] at chosen
    obtain ⟨reference, known⟩ := Option.isSome_iff_exists.mp chosen.2
    rw [known]
    rfl
  have compared := desiredOsArtifactSpec_compared source spec.architecture (spec.kindFor source)
    (spec.mergedConfig name) ctx.scheduling spec.isoOverlay ctx.importerImage spec.trustedBoot
  have flagged : (if spec.trustedBoot.isSome then object.spec.ukiIso == some true
      else artifactFlag object.spec (spec.kindFor source) == some true) = true := by
    rw [same]
    cases spec.trustedBoot with
    | some boot => exact beq_iff_eq.mpr (withOverlayDirectory_compared _ _).2.2.1
    | none =>
      refine beq_iff_eq.mpr (((withOverlayDirectory_compared _ _).2.2.2 _).trans ?_)
      cases spec.kindFor source <;> rfl
  have matched : isCurrent object source (spec.kindFor source) spec = true := by
    unfold isCurrent specMatches
    dsimp only
    rw [flagged, same, compared.1, compared.2, ← imported]
    simp
  simp [VMImageSpec.current, found, matched]

theorem Cluster.Shows.applyArtifact (shows : cluster.Shows name uid spec world)
    (wanted : spec.wanted ctx name = some manifest.spec) :
    (cluster.applyArtifact generation manifest).Shows name uid spec world := by
  obtain ⟨artifact, found, identified, owned, staying, ready, -⟩ := shows.artifact
  unfold Cluster.applyArtifact
  rw [found]
  refine ⟨shows.secrets, shows.claim, shows.persistentVolumes, shows.nodes, _, rfl, identified, ?_, staying, ready, ?_⟩
  · simp only [ownerUidMatches, List.contains_iff_mem] at owned ⊢
    exact List.mem_union_iff.mpr (.inl owned)
  · exact current_of_wanted wanted rfl

theorem Cluster.Frame.applyArtifact : cluster.Frame name (cluster.applyArtifact generation manifest) := by
  unfold Cluster.applyArtifact
  split <;> exact .of_eq rfl rfl rfl

theorem Cluster.Watched.publish (watched : cluster.Watched yaml ctx name uid spec world)
    (means : stage.Means yaml ctx name spec world cluster) {status : BuildArtifactStatus}
    (verdict : Verdict yaml ctx (imageAt name uid (fun _ => spec) generation) world stage status) :
    let after : Cluster := { cluster with published := (generation, status) :: cluster.published }
    after.Watched yaml ctx name uid spec world ∧ stage.Means yaml ctx name spec world after := by
  obtain ⟨plain, prelaid, refused⟩ := verdict
  have facts : Entry yaml ctx name spec world cluster status ∧ ∀ entry ∈ cluster.published, entry.2.phase = .ready →
      status.phase = .ready ∧ status.file = entry.2.file ∧ status.checksum = entry.2.checksum := by
    by_cases unasked : spec.Prelays yaml ctx world
    · have pledged := prelaid unasked
      cases stage with
      | looking => exact pledged.elim
      | unfinished =>
        exact ⟨⟨plain, fun _ ready => absurd ready pledged, refused⟩, fun entry member ready => absurd ready (means.2 entry member)⟩
      | read message =>
        refine ⟨⟨plain, fun _ _ => ⟨means.2.1, fun other told => ?_⟩, refused⟩, fun entry member ready => ?_⟩
        · rw [means.2.2.1 other told]
          exact pledged
        · have earlier : Reports name message entry.2 := means.2.2.2 entry member ready
          have now : Reports name message status := pledged
          unfold Reports at earlier now
          cases parsed : Prelay.parsePrelayResult message <;> simp_all
    · refine ⟨⟨plain, fun prelays => absurd prelays unasked, refused⟩, fun entry member ready => ?_⟩
      have earlier := watched.entries entry member
      by_cases untouched : spec.Plain yaml world
      · have before := earlier.plain untouched
        have now := plain untouched
        exact ⟨now.1, now.2.1.trans before.2.1.symm, now.2.2.trans before.2.2.symm⟩
      · exact absurd ready (earlier.refused untouched unasked)
  have entries : ∀ entry ∈ (generation, status) :: cluster.published, Entry yaml ctx name spec world cluster entry.2 :=
    List.forall_mem_cons.mpr ⟨facts.1, watched.entries⟩
  refine ⟨⟨watched.shows.transfer (fun _ _ => rfl) rfl rfl rfl rfl, watched.job, watched.pods, fun entry member =>
    ⟨(entries entry member).plain, (entries entry member).prelaid, (entries entry member).refused⟩,
    List.pairwise_cons.mpr ⟨facts.2, watched.steady⟩⟩, ?_⟩
  cases stage with
  | looking => trivial
  | unfinished => exact ⟨means.1, List.forall_mem_cons.mpr ⟨prelaid means.1, means.2⟩⟩
  | read message =>
    exact ⟨means.1, means.2.1, means.2.2.1, List.forall_mem_cons.mpr ⟨fun _ => prelaid means.1, means.2.2.2⟩⟩

theorem Cluster.Watched.applyJob (watched : cluster.Watched yaml ctx name uid spec world) {manifest : JobManifest}
    (permitted : manifest.name = prelayName name → spec.Prelays yaml ctx world ∧
      manifest.owner.map Prod.snd = some world.artifactUid) :
    cluster.Continues yaml ctx name uid spec world (cluster.applyJob manifest).2 := by
  unfold Cluster.applyJob
  split
  · rename_i missing
    have shown : (cluster.putJob manifest.name (some { manifest := manifest })).Shows name uid spec world :=
      watched.shows.transfer (fun _ _ => rfl) rfl rfl rfl rfl
    by_cases own : prelayName name = manifest.name
    · rw [← own] at missing
      have unfinished : ¬ Succeeded name cluster := fun ⟨job, found, _⟩ => by cases missing.symm.trans found
      obtain ⟨prelays, owned⟩ := permitted own.symm
      refine watched.advance prelays unfinished shown rfl (fun job found => ?_) fun _ => watched.pods unfinished
      simp only [Cluster.putJob, own, if_true, Option.some.injEq] at found
      rw [← found]
      exact owned
    · exact Cluster.Frame.continues (.of_eq (if_neg own) rfl rfl) watched shown
  · split <;> exact ⟨watched, fun _ => id⟩

variable (watched : cluster.Watched yaml ctx name uid spec world)

include watched

theorem Cluster.Watched.deleteJob (other : prelayName name ≠ jobName) (gone : Bool) :
    cluster.Continues yaml ctx name uid spec world (cluster.deleteJob jobName gone).2 := by
  unfold Cluster.deleteJob
  split
  · exact ⟨watched, fun _ => id⟩
  · cases gone with
    | true =>
      exact Cluster.Frame.continues (.of_eq (if_neg other) rfl rfl) watched
        (watched.shows.transfer (fun _ _ => rfl) rfl rfl rfl rfl)
    | false => exact ⟨watched, fun _ => id⟩

theorem Cluster.Watched.owned
    (found : cluster.jobs (prelayName name) = some job) : ownerUidMatches job.ownerUids world.artifactUid = true := by
  obtain ⟨reference, known, same⟩ := Option.map_eq_some_iff.mp (watched.job job found).2
  simp [ownerUidMatches, Job.ownerUids, known, same]

theorem Cluster.Watched.read (prelays : spec.Prelays yaml ctx world) (told : Told name cluster message) :
    (Watch.read message).Means yaml ctx name spec world cluster := by
  have succeeded : Succeeded name cluster := by
    by_contra unfinished
    simp [Told, watched.pods unfinished, terminationMessage] at told
  exact ⟨prelays, succeeded, fun other also => Option.some.inj (also.symm.trans told), fun entry member ready =>
    ((watched.entries entry member).prelaid prelays ready).2 message told⟩

theorem Cluster.Watched.carryOut
    (means : stage.Means yaml ctx name spec world cluster) (gone : Bool) {call : Call}
    (found : MessageFound name cluster call)
    (permitted : (watching yaml ctx (imageAt name uid (fun _ => spec) generation) world call).pre stage) :
    let done := cluster.carryOut generation gone call
    (done.2.Watched yaml ctx name uid spec world ∧ stage.Means yaml ctx name spec world done.2) ∧
      ∃ later, (watching yaml ctx (imageAt name uid (fun _ => spec) generation) world call).post stage done.1 later ∧
        Watch.Means yaml ctx name spec world done.2 later := by
  have both : cluster.Watched yaml ctx name uid spec world ∧ stage.Means yaml ctx name spec world cluster :=
    ⟨watched, means⟩
  have onward : ∀ {after}, cluster.Continues yaml ctx name uid spec world after →
      after.Watched yaml ctx name uid spec world ∧ stage.Means yaml ctx name spec world after :=
    fun kept => ⟨kept.1, kept.2 stage means⟩
  cases call with
  | getSecret secret =>
    refine ⟨both, stage, ⟨rfl, fun other => .inr ?_⟩, means⟩
    rw [← watched.shows.secrets secret other]
    rfl
  | getOsArtifact objectName =>
    obtain ⟨artifact, there, settled⟩ := watched.shows.artifact
    refine ⟨both, stage, ⟨rfl, .inr ⟨artifact.object, ?_, settled⟩⟩, means⟩
    simp only [Cluster.carryOut, there, Option.map_some, Cluster.orNotFound]
  | getPvc claimName => exact ⟨both, stage, ⟨rfl, .inr (by rw [← watched.shows.claim]; rfl)⟩, means⟩
  | getPv volume => exact ⟨both, stage, ⟨rfl, .inr (by rw [← watched.shows.persistentVolumes]; rfl)⟩, means⟩
  | listNodes host => exact ⟨both, stage, ⟨rfl, .inr (by rw [← watched.shows.nodes]; rfl)⟩, means⟩
  | applySecret secret owner key content =>
    cases permitted
    have kept := @onward (cluster.applySecret _ key content) (Cluster.Frame.continues (.of_eq rfl rfl rfl) watched
      (watched.shows.transfer (fun other different => if_neg different) rfl rfl rfl rfl))
    exact ⟨kept, stage, ⟨rfl, trivial⟩, kept.2⟩
  | deleteOsArtifact objectName => exact permitted.elim
  | applyOsArtifact manifest =>
    have kept := @onward (cluster.applyArtifact generation manifest)
      (Cluster.Frame.applyArtifact.continues watched (watched.shows.applyArtifact permitted.2))
    exact ⟨kept, stage, ⟨rfl, trivial⟩, kept.2⟩
  | applyJob manifest =>
    have kept := onward (watched.applyJob permitted)
    exact ⟨kept, stage, ⟨rfl, trivial⟩, kept.2⟩
  | deleteJob jobName =>
    have kept := onward (watched.deleteJob (Ne.symm permitted) gone)
    exact ⟨kept, stage, ⟨rfl, trivial⟩, kept.2⟩
  | getJob jobName =>
    refine ⟨both, ?_⟩
    by_cases own : jobName = prelayName name
    · subst own
      have prelays : spec.Prelays yaml ctx world := permitted rfl
      cases stored : cluster.jobs (prelayName name) with
      | none =>
        refine ⟨.unfinished, by simp [Cluster.carryOut, Cluster.orNotFound, imageAt, stored], prelays, ?_⟩
        refine watched.unready prelays fun made => ?_
        obtain ⟨job, found, _⟩ := made
        cases stored.symm.trans found
      | some job =>
        refine ⟨if jobSucceeded job then stage else .unfinished, ?_, ?_⟩
        · simp [Cluster.carryOut, Cluster.orNotFound, imageAt, stored, watched.owned stored]
        · split
          · exact means
          · rename_i unfinished
            refine ⟨prelays, watched.unready prelays fun made => ?_⟩
            obtain ⟨other, found, succeeded⟩ := made
            cases stored.symm.trans found
            exact unfinished succeeded
    · exact ⟨stage, by simp [imageAt, own], means⟩
  | listPods jobName =>
    refine ⟨both, ?_⟩
    by_cases own : jobName = prelayName name
    · subst own
      obtain ⟨message, told⟩ := Option.isSome_iff_exists.mp (found rfl)
      exact ⟨.read message, by simp [Cluster.carryOut, imageAt, told], watched.read (permitted rfl) told⟩
    · exact ⟨stage, by simp [imageAt, own], means⟩
  | patchStatus vmimage status =>
    have kept := watched.publish means permitted
    exact ⟨kept, stage, rfl, kept.2⟩

omit watched

end Steps

end Banlieue.Imagebuilder
