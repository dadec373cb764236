import Banlieue.Imagebuilder.Provenance

namespace Banlieue.Imagebuilder

open Banlieue.Api hiding BuildArtifactStatus ImageSource VMImageSpec VMImage
open Banlieue.Data Banlieue.Data.Program

/-! # Edits between passes -/

section Histories

variable (yaml : Yaml) (ctx : Context) (name uid : String) (specs : Nat → VMImageSpec)

/-- The Job there is for the artifact lays out a disk of the size that is asked for. -/
def JobAgrees (generation : Nat) (artifact : String) (cluster : Cluster) : Prop :=
  ∀ job ∈ cluster.jobs (Prelay.prelayJobName (osArtifactName name)), ownerUidMatches job.ownerUids artifact = true →
    ∀ size ∈ (specs generation).prelay, RunsWith job.manifest size

/-- As long as there is an artifact that is current for the spec, what is not compared has
not been edited since the artifact and its Job were made. -/
def Agrees (generation : Nat) (cluster : Cluster) : Prop :=
  ∀ artifact ∈ cluster.artifact,
    ((specs generation).current artifact.object = true →
      (specs generation).uncompared = (specs artifact.madeFor).uncompared) ∧
    JobAgrees name specs generation artifact.uid cluster

-- Not by trying every size there is.
instance (manifest : JobManifest) (wanted : Option UInt32) : Decidable (∀ size ∈ wanted, RunsWith manifest size) :=
  Option.decidableForallMem wanted

instance (generation : Nat) (artifact : String) (cluster : Cluster) :
    Decidable (JobAgrees name specs generation artifact cluster) :=
  inferInstanceAs (Decidable (∀ job ∈ cluster.jobs _, _ → _))

instance instDecidableAgrees (generation : Nat) (cluster : Cluster) : Decidable (Agrees name specs generation cluster) :=
  inferInstanceAs (Decidable (∀ artifact ∈ cluster.artifact, _))

/-- Passes are started only for specs that agree with what there is, and nobody else
writes the merged Secret. -/
def Unedited (state : (builder yaml ctx name uid specs).State) : (builder yaml ctx name uid specs).Event → Prop
  | .launch _ generation => Agrees name specs generation state.service
  | .disturb (.editSecret secret _) => secret ≠ mergedCloudConfigSecretName name
  | _ => True

/-! ## What is known at a stage -/

/-- The merged Secret carries the layer that is asked for. -/
def Sealed (spec : VMImageSpec) (cluster : Cluster) : Prop :=
  ∀ request, spec.sealingWanted = some request →
    ∃ document, cluster.secretValue (mergedCloudConfigSecretName name, defaultCloudConfigKey) = some document ∧
      Carries yaml request document

/-- The artifact there is was made of what is asked for. -/
def Aligned (generation : Nat) (cluster : Cluster) : Prop :=
  ∀ artifact ∈ cluster.artifact, (specs generation).wanted ctx name = some artifact.created ∧
    (specs generation).sealingWanted = (specs artifact.madeFor).sealingWanted

structure Stage.Means (generation : Nat) (cluster : Cluster) (stage : Stage) : Prop where
  first : stage.looked = false → Agrees name specs generation cluster
  aligned : stage.Free → Aligned ctx name specs generation cluster
  sealed : stage.written = true → Sealed yaml name (specs generation) cluster
  built : ∀ seen ∈ stage.live, seen.mine = true → seen.ready = true →
    BuiltFrom yaml ctx name (specs generation) seen.uid cluster
  jobs : stage.untouched = true → ∀ seen ∈ stage.live, JobAgrees name specs generation seen.uid cluster
  prelaid : stage.prelaid = true → ∀ seen ∈ stage.live, ∀ size ∈ (specs generation).prelay,
    PrelaidTo size seen.uid cluster

/-- The artifact there is: who it belongs to, and what it is or will be made of. -/
structure Artifact.Kept (cluster : Cluster) (artifact : Artifact) : Prop where
  identified : artifact.object.uid = some artifact.uid
  owned : ownerUidMatches artifact.object.ownerUids uid = true
  unpatched : artifact.object.spec = artifact.created
  asked : (specs artifact.madeFor).wanted ctx name = some artifact.created
  pending : artifact.built = false → Sealed yaml name (specs artifact.madeFor) cluster
  built : artifact.built = true → BuiltFrom yaml ctx name (specs artifact.madeFor) artifact.uid cluster
  ready : artifact.object.phase = some "Ready" → artifact.built = true

structure Cluster.Kept (cluster : Cluster) : Prop where
  artifact : ∀ artifact ∈ cluster.artifact, artifact.Kept yaml ctx name uid specs cluster
  finished : ∀ {job}, (∃ jobName, cluster.jobs jobName = some job) → jobSucceeded job = true →
    job.manifest ∈ cluster.finished
  faithful : cluster.Faithful yaml ctx name specs

/-- Nothing has been made for the image yet. -/
structure Cluster.Fresh (cluster : Cluster) : Prop where
  artifact : cluster.artifact = none
  jobs : ∀ jobName, cluster.jobs jobName = none
  published : cluster.published = []

end Histories

section Steps

variable {yaml : Yaml} {ctx : Context} {name uid : String} {specs : Nat → VMImageSpec} {generation : Nat}
  {before after : Cluster} {stage : Stage}

/-! ## What stays known -/

/-- Builds and successes stay on record. -/
structure Cluster.Records (before after : Cluster) : Prop where
  builds : before.builds ⊆ after.builds
  finished : before.finished ⊆ after.finished

variable {spec : VMImageSpec} {artifact : String} {call : Call}

theorem BuiltFrom.mono (built : BuiltFrom yaml ctx name spec artifact before)
    (records : before.Records after) : BuiltFrom yaml ctx name spec artifact after := by
  obtain ⟨build, member, facts⟩ := built
  exact ⟨build, records.builds member, facts⟩

theorem PrelaidTo.mono {size : UInt32} (prelaid : PrelaidTo size artifact before)
    (records : before.Records after) : PrelaidTo size artifact after := by
  obtain ⟨manifest, member, facts⟩ := prelaid
  exact ⟨manifest, records.finished member, facts⟩

theorem Sealed.mono (sealed : Sealed yaml name spec before)
    (same : after.secrets (mergedCloudConfigSecretName name) = before.secrets (mergedCloudConfigSecretName name)) :
    Sealed yaml name spec after := by
  simpa only [Sealed, Cluster.secretValue, same] using sealed

/-- Nothing a pass relies on is touched: what is on record stays, the Jobs that are left
were there before, and the artifact is the same one, whatever is reported of it, or gone. -/
structure Cluster.Undisturbed (name : String) (before after : Cluster) : Prop where
  records : before.Records after
  jobs : ∀ jobName job, after.jobs jobName = some job →
    ∃ earlier, before.jobs jobName = some earlier ∧ earlier.manifest = job.manifest
  artifact : ∀ artifact ∈ after.artifact, ∃ earlier ∈ before.artifact, earlier.created = artifact.created ∧
    earlier.madeFor = artifact.madeFor ∧ earlier.uid = artifact.uid ∧ earlier.object.spec = artifact.object.spec
  secret : after.secrets (mergedCloudConfigSecretName name) = before.secrets (mergedCloudConfigSecretName name)

namespace Cluster.Undisturbed

theorem of_eq (builds : after.builds = before.builds) (finished : after.finished = before.finished)
    (jobs : after.jobs = before.jobs) (artifact : after.artifact = before.artifact)
    (secret : after.secrets (mergedCloudConfigSecretName name) = before.secrets (mergedCloudConfigSecretName name)) :
    before.Undisturbed name after :=
  ⟨⟨builds ▸ fun _ => id, finished ▸ fun _ => id⟩, fun _ job found => ⟨job, jobs ▸ found, rfl⟩,
    fun artifact' found => ⟨artifact', artifact ▸ found, rfl, rfl, rfl, rfl⟩, secret⟩

theorem putJob {jobName : String} {entry : Option Job}
    (earlier : ∀ job, entry = some job → ∃ other, before.jobs jobName = some other ∧ other.manifest = job.manifest) :
    before.Undisturbed name (before.putJob jobName entry) := by
  refine ⟨⟨fun _ => id, fun _ => id⟩, fun other job found => ?_, fun artifact found => ⟨artifact, found, rfl, rfl, rfl, rfl⟩, rfl⟩
  simp only [Cluster.putJob] at found
  split at found
  · rename_i same
    exact same ▸ earlier job found
  · exact ⟨job, found, rfl⟩

theorem jobAgrees (undisturbed : before.Undisturbed name after) {artifact : String}
    (agrees : JobAgrees name specs generation artifact before) : JobAgrees name specs generation artifact after := by
  intro job found owned size asked
  obtain ⟨earlier, stored, same⟩ := undisturbed.jobs _ job found
  have owner : earlier.ownerUids = job.ownerUids := by rw [Job.ownerUids, Job.ownerUids, same]
  exact same ▸ agrees earlier stored (owner ▸ owned) size asked

theorem means (undisturbed : before.Undisturbed name after)
    (means : stage.Means yaml ctx name specs generation before) : stage.Means yaml ctx name specs generation after where
  first unlooked artifact found := by
    obtain ⟨earlier, stored, -, madeFor, sameUid, spec⟩ := undisturbed.artifact artifact found
    obtain ⟨unedited, jobs⟩ := means.first unlooked earlier stored
    refine ⟨fun current => ?_, sameUid ▸ undisturbed.jobAgrees jobs⟩
    rw [← madeFor]
    refine unedited ?_
    rw [← current]
    simp only [VMImageSpec.current, isCurrent, spec]
  aligned free artifact found := by
    obtain ⟨earlier, stored, created, madeFor, -, -⟩ := undisturbed.artifact artifact found
    rw [← created, ← madeFor]
    exact means.aligned free earlier stored
  sealed written := (means.sealed written).mono undisturbed.secret
  built seen there mine ready := (means.built seen there mine ready).mono undisturbed.records
  jobs untouched seen there := undisturbed.jobAgrees (means.jobs untouched seen there)
  prelaid known seen there size asked := (means.prelaid known seen there size asked).mono undisturbed.records

end Cluster.Undisturbed

namespace Cluster.Kept

theorem faithful_mono (kept : before.Kept yaml ctx name uid specs) (records : before.Records after)
    (published : after.published = before.published) : after.Faithful yaml ctx name specs := by
  intro entry member ready
  obtain ⟨artifact, named, built, layered, sized⟩ := kept.faithful entry (published ▸ member) ready
  exact ⟨artifact, named, built.mono records, layered, fun size reported => (sized size reported).mono records⟩

theorem transfer (kept : before.Kept yaml ctx name uid specs) (records : before.Records after)
    (jobs : after.jobs = before.jobs) (published : after.published = before.published)
    (artifact : ∀ artifact ∈ after.artifact, artifact.Kept yaml ctx name uid specs after) :
    after.Kept yaml ctx name uid specs := by
  refine ⟨artifact, fun there succeeded => ?_, kept.faithful_mono records published⟩
  obtain ⟨jobName, found⟩ := there
  exact records.finished (kept.finished ⟨jobName, jobs ▸ found⟩ succeeded)

variable {artifact : Artifact} (kept : before.Kept yaml ctx name uid specs)

include kept

theorem artifact_mono (records : before.Records after)
    (secret : after.secrets (mergedCloudConfigSecretName name) = before.secrets (mergedCloudConfigSecretName name))
    (found : artifact ∈ before.artifact) : artifact.Kept yaml ctx name uid specs after :=
  { kept.artifact artifact found with
    pending := fun unbuilt => ((kept.artifact artifact found).pending unbuilt).mono secret
    built := fun built => ((kept.artifact artifact found).built built).mono records }

theorem of_eq (builds : after.builds = before.builds)
    (finished : after.finished = before.finished) (jobs : after.jobs = before.jobs)
    (artifact : after.artifact = before.artifact) (published : after.published = before.published)
    (secret : after.secrets (mergedCloudConfigSecretName name) = before.secrets (mergedCloudConfigSecretName name)) :
    after.Kept yaml ctx name uid specs ∧ before.Undisturbed name after :=
  have undisturbed := Cluster.Undisturbed.of_eq builds finished jobs artifact secret
  ⟨kept.transfer undisturbed.records jobs published fun _ found =>
    kept.artifact_mono undisturbed.records secret (artifact ▸ found), undisturbed⟩

theorem putJob {jobName : String} {entry : Option Job}
    (recorded : ∀ job, entry = some job → jobSucceeded job = true → job.manifest ∈ before.finished) :
    (before.putJob jobName entry).Kept yaml ctx name uid specs := by
  have records : before.Records (before.putJob jobName entry) := ⟨fun _ => id, fun _ => id⟩
  refine ⟨fun artifact found => kept.artifact_mono records rfl found, fun there succeeded => ?_,
    kept.faithful_mono records rfl⟩
  obtain ⟨other, found⟩ := there
  simp only [Cluster.putJob] at found
  split at found
  · exact recorded _ found succeeded
  · exact kept.finished ⟨other, found⟩ succeeded

/-! ## What happens besides the passes -/

theorem adjust (found : before.artifact = some artifact)
    {object : OsArtifact} (sameUid : object.uid = artifact.object.uid) (owners : object.ownerUids = artifact.object.ownerUids)
    (spec : object.spec = artifact.object.spec) (ready : object.phase = some "Ready" → artifact.built = true) :
    let after : Cluster := { before with artifact := some { artifact with object := object } }
    after.Kept yaml ctx name uid specs ∧ before.Undisturbed name after := by
  have own := kept.artifact artifact found
  refine ⟨kept.transfer ⟨fun _ => id, fun _ => id⟩ rfl rfl fun other member => ?_,
    ⟨fun _ => id, fun _ => id⟩, fun _ job there => ⟨job, there, rfl⟩, fun other member => ?_, rfl⟩
  · cases member
    exact { own with
      identified := sameUid.trans own.identified, owned := owners ▸ own.owned, unpatched := spec.trans own.unpatched
      ready := ready }
  · cases member
    exact ⟨artifact, found, rfl, rfl, rfl, spec.symm⟩

theorem deleteArtifact :
    before.deleteArtifact.2.Kept yaml ctx name uid specs ∧ before.Undisturbed name before.deleteArtifact.2 := by
  unfold Cluster.deleteArtifact
  split
  · exact kept.of_eq rfl rfl rfl rfl rfl rfl
  · rename_i artifact found
    exact kept.adjust found rfl rfl rfl (kept.artifact artifact found).ready

theorem finishBuild {message : Option String}
    (found : before.artifact = some artifact) (finished : before.finishBuild artifact message = some after) :
    after.Kept yaml ctx name uid specs ∧ before.Undisturbed name after := by
  have own := kept.artifact artifact found
  unfold Cluster.finishBuild at finished
  split at finished
  · cases finished
  · rename_i unbuilt
    have records : before.Records after := by
      cases finished
      exact ⟨fun _ => List.mem_cons_of_mem _, fun _ => id⟩
    cases finished
    refine ⟨kept.transfer records rfl rfl fun other member => ?_, records, fun _ job there => ⟨job, there, rfl⟩,
      fun other member => ?_, rfl⟩
    · cases member
      refine { own with pending := nofun, built := fun _ => ?_, ready := fun _ => rfl }
      refine ⟨_, List.mem_cons_self, rfl, own.asked, fun request wanted => ?_⟩
      obtain ⟨document, stored, carried⟩ := own.pending (Bool.not_eq_true _ |>.mp unbuilt) request wanted
      refine ⟨document, ?_, carried⟩
      change artifact.created.cloudConfigSecret.bind before.secretValue = some document
      rw [cloudConfigSecret_wanted own.asked wanted]
      exact stored
    · cases member
      exact ⟨artifact, found, rfl, rfl, rfl, rfl⟩

theorem happen {happening : Cluster.Happening}
    (others : ∀ secret data, happening = .editSecret secret data → secret ≠ mergedCloudConfigSecretName name)
    (happened : before.happen happening = some after) :
    after.Kept yaml ctx name uid specs ∧ before.Undisturbed name after := by
  cases happening with
  | editSecret secret data =>
    cases happened
    exact kept.of_eq rfl rfl rfl rfl rfl (if_neg (others secret data rfl).symm)
  | report phase message =>
    obtain ⟨artifact, found, happened⟩ := Option.bind_eq_some_iff.mp happened
    obtain ⟨reported, told, happened⟩ := Option.bind_eq_some_iff.mp happened
    cases happened
    unfold Cluster.report at told
    split at told
    · cases told
    · rename_i honest
      cases told
      refine kept.adjust found rfl rfl rfl fun ready => ?_
      cases built : artifact.built with
      | true => rfl
      | false => exact absurd ⟨ready, built⟩ honest
  | build message =>
    obtain ⟨artifact, found, finished⟩ := Option.bind_eq_some_iff.mp happened
    exact kept.finishBuild found finished
  | markDeleting =>
    cases happened
    exact kept.deleteArtifact
  | remove =>
    cases happened
    refine ⟨kept.transfer ⟨fun _ => id, fun _ => id⟩ rfl rfl fun artifact there => ?_, ⟨fun _ => id, fun _ => id⟩,
      fun _ job there => ⟨job, there, rfl⟩, fun artifact there => ?_, rfl⟩ <;> cases there
  | jobSucceeds jobName pod =>
    obtain ⟨job, found, changed⟩ := Option.map_eq_some_iff.mp happened
    have records : before.Records after := by
      rw [← changed]
      exact ⟨fun _ => id, fun _ => List.mem_cons_of_mem _⟩
    subst changed
    refine ⟨⟨fun artifact member => kept.artifact_mono records rfl member, fun there succeeded => ?_,
      kept.faithful_mono records rfl⟩, records, fun other changed held => ?_,
      fun artifact member => ⟨artifact, member, rfl, rfl, rfl, rfl⟩, rfl⟩
    · obtain ⟨other, held⟩ := there
      simp only [Cluster.putPods, Cluster.putJob] at held
      split at held
      · cases held
        exact List.mem_cons_self
      · exact List.mem_cons_of_mem _ (kept.finished ⟨other, held⟩ succeeded)
    · simp only [Cluster.putPods, Cluster.putJob] at held
      split at held
      · rename_i same
        cases held
        exact ⟨job, same ▸ found, rfl⟩
      · exact ⟨changed, held, rfl⟩
  | jobFails jobName =>
    obtain ⟨job, found, rfl⟩ := Option.map_eq_some_iff.mp happened
    refine ⟨kept.putJob fun changed same succeeded => ?_, .putJob fun changed same => ?_⟩
    · cases same
      have recorded : job.manifest ∈ before.finished := kept.finished ⟨jobName, found⟩ succeeded
      exact recorded
    · cases same
      exact ⟨job, found, rfl⟩
  | jobGone jobName =>
    cases happened
    exact ⟨kept.putJob nofun, .putJob nofun⟩
  | volumes | podsGone =>
    cases happened
    exact kept.of_eq rfl rfl rfl rfl rfl rfl

/-! ## What the calls of a pass do -/

theorem aligned (agrees : Agrees name specs generation before) (found : before.artifact = some artifact)
    (current : (specs generation).current artifact.object = true) :
    (specs generation).wanted ctx name = some artifact.created ∧
      (specs generation).sealingWanted = (specs artifact.madeFor).sealingWanted := by
  have own := kept.artifact artifact found
  have asked := wanted_of_current current ((agrees artifact found).1 current) (own.unpatched ▸ own.asked)
  exact ⟨own.unpatched ▸ asked.1, asked.2⟩

theorem look (agrees : Agrees name specs generation before) :
    Stage.Means yaml ctx name specs generation before
      { looked := true
        live := (before.artifact.map Artifact.object).map (liveOf (imageAt name uid specs generation)) } := by
  cases found : before.artifact with
  | none =>
    refine ⟨nofun, fun _ artifact there => ?_, nofun, nofun, nofun, nofun⟩
    cases found.symm.trans there
  | some artifact =>
    have own := kept.artifact artifact found
    have identity : (liveOf (imageAt name uid specs generation) artifact.object).uid = artifact.uid := by
      simp [liveOf, own.identified]
    have current : (liveOf (imageAt name uid specs generation) artifact.object).mine = true →
        (specs generation).current artifact.object = true := by
      simp only [liveOf, imageAt, Bool.and_eq_true]
      exact fun mine => mine.1.2
    refine ⟨(Bool.noConfusion ·), fun free other there => ?_, (Bool.noConfusion ·),
      fun seen there mine ready => ?_, fun _ seen there => ?_, (Bool.noConfusion ·)⟩
    · cases found.symm.trans there
      exact kept.aligned agrees found (current (free.2 _ rfl))
    · cases there
      have phase : artifact.object.phase = some "Ready" := by simpa [liveOf] using ready
      obtain ⟨wanted, sealing⟩ := kept.aligned agrees found (current mine)
      obtain ⟨build, member, same, spec, sealed⟩ := own.built (own.ready phase)
      exact ⟨build, member, same.trans identity.symm, (wanted.trans own.asked.symm).trans spec,
        fun request asked => sealed request (sealing ▸ asked)⟩
    · cases there
      exact identity ▸ (agrees artifact found).2

variable (means : stage.Means yaml ctx name specs generation before)

include means

theorem learn {jobName : String} {job : Job} (found : before.jobs jobName = some job)
    (proven : stage.proves (imageAt name uid specs generation) jobName job = true) :
    ∀ seen ∈ stage.live, ∀ size ∈ (specs generation).prelay, PrelaidTo size seen.uid before := by
  intro seen there size asked
  simp only [Stage.proves, Bool.and_eq_true, beq_iff_eq, Option.mem_def.mp there, Option.any_some] at proven
  obtain ⟨⟨⟨untouched, named⟩, succeeded⟩, owned⟩ := proven
  refine ⟨job.manifest, kept.finished ⟨_, found⟩ succeeded, ?_,
    means.jobs untouched seen there job (named ▸ found) owned size asked⟩
  cases owner : job.manifest.owner with
  | none => simp [ownerUidMatches, Job.ownerUids, owner] at owned
  | some reference =>
    have same : seen.uid = reference.2 := by simpa [ownerUidMatches, Job.ownerUids, owner] using owned
    rw [same]
    rfl

theorem applySecret (free : stage.Free) {content : String}
    (carried : ∀ request, (specs generation).sealingWanted = some request → Carries yaml request content) (written : Bool) :
    let after := before.applySecret (mergedCloudConfigSecretName name) defaultCloudConfigKey content
    after.Kept yaml ctx name uid specs ∧
      Stage.Means yaml ctx name specs generation after { stage with written := written } := by
  have stored : (before.applySecret (mergedCloudConfigSecretName name) defaultCloudConfigKey content).secretValue
      (mergedCloudConfigSecretName name, defaultCloudConfigKey) = some content := by
    simp [Cluster.secretValue, Cluster.applySecret, Cluster.putSecret]
  constructor
  · refine kept.transfer ⟨fun _ => id, fun _ => id⟩ rfl rfl fun artifact found => ?_
    have own := kept.artifact artifact found
    exact { own with pending := fun _ request wanted =>
      ⟨content, stored, carried request ((means.aligned free artifact found).2.trans wanted)⟩ }
  · exact { means with sealed := fun _ request wanted => ⟨content, stored, carried request wanted⟩ }

theorem applyArtifact (free : stage.Free)
    (sealed : Sealed yaml name (specs generation) before) {manifest : OsArtifactManifest}
    (wanted : (specs generation).wanted ctx name = some manifest.spec) (owner : manifest.owner = some ⟨name, uid⟩) :
    (before.applyArtifact generation manifest).Kept yaml ctx name uid specs ∧
      stage.Means yaml ctx name specs generation (before.applyArtifact generation manifest) := by
  have looked : ∀ {condition : Prop}, stage.looked = false → condition := fun unlooked => by
    cases unlooked.symm.trans free.1
  unfold Cluster.applyArtifact
  split
  · refine ⟨kept.transfer ⟨fun _ => id, fun _ => id⟩ rfl rfl fun artifact found => ?_,
      { means with first := looked, aligned := fun _ artifact found => ?_ }⟩
    · cases found
      exact ⟨rfl, by simp [ownerUidMatches, owner], rfl, wanted, fun _ => sealed, nofun, nofun⟩
    · cases found
      exact ⟨wanted, rfl⟩
  · rename_i artifact present
    have own := kept.artifact artifact present
    have aligned := means.aligned free artifact present
    refine ⟨kept.transfer ⟨fun _ => id, fun _ => id⟩ rfl rfl fun changed found => ?_,
      { means with first := looked, aligned := fun _ changed found => ?_ }⟩
    · cases found
      refine { own with owned := ?_, unpatched := Option.some.inj (wanted.symm.trans aligned.1) }
      simp only [ownerUidMatches, List.contains_iff_mem, List.mem_union_iff] at own ⊢
      exact .inl (by simpa [ownerUidMatches] using own.owned)
    · cases found
      exact aligned

theorem publish {status : BuildArtifactStatus} (vouched : Vouched (imageAt name uid specs generation) stage status) :
    ({ before with published := (generation, status) :: before.published } : Cluster).Kept yaml ctx name uid specs := by
  refine ⟨fun artifact found => ?_, kept.finished, List.forall_mem_cons.mpr ⟨fun ready => ?_, kept.faithful⟩⟩
  · exact { kept.artifact artifact found with }
  · obtain ⟨live, there, mine, isReady, identified, layered, sized⟩ := vouched ready
    refine ⟨live.uid, identified, means.built live there mine isReady, layered, fun size reported => ?_⟩
    exact means.prelaid (sized size reported).1 live there size (sized size reported).2

theorem applyJob (looked : stage.looked = true) (manifest : JobManifest) :
    (before.applyJob manifest).2.Kept yaml ctx name uid specs ∧ Stage.Means yaml ctx name specs generation
      (before.applyJob manifest).2 { stage with untouched := false } := by
  have forgotten : Stage.Means yaml ctx name specs generation before { stage with untouched := false } :=
    { means with jobs := nofun }
  unfold Cluster.applyJob
  split
  · refine ⟨kept.putJob fun job same => ?_, { forgotten with first := fun unlooked => ?_, jobs := nofun }⟩
    · cases same
      exact nofun
    · cases looked.symm.trans unlooked
  · split <;> exact ⟨kept, forgotten⟩

omit means

theorem deleteJob (jobName : String) (gone : Bool) : (before.deleteJob jobName gone).2.Kept yaml ctx name uid specs ∧
      before.Undisturbed name (before.deleteJob jobName gone).2 := by
  unfold Cluster.deleteJob
  split
  · exact kept.of_eq rfl rfl rfl rfl rfl rfl
  · cases gone with
    | true => exact ⟨kept.putJob nofun, .putJob nofun⟩
    | false => exact kept.of_eq rfl rfl rfl rfl rfl rfl

end Cluster.Kept

/-- What is left to rely on when a call may or may not have arrived. -/
def Stage.unsure (stage : Stage) : Call → Stage
  | .applyJob _ => { stage with untouched := false }
  | _ => stage

theorem provenance_failure {image : VMImage} (problem : String) :
    (provenance yaml ctx image call).post stage (Cluster.failure problem call) (stage.unsure call) := by
  cases call <;> simp [Cluster.failure, Stage.unsure, Except.isOk, Except.toBool]

theorem Cluster.Kept.carryOut (kept : before.Kept yaml ctx name uid specs)
    (means : stage.Means yaml ctx name specs generation before) (gone : Bool)
    (permitted : (provenance yaml ctx (imageAt name uid specs generation) call).pre stage) :
    let done := before.carryOut generation gone call
    (done.2.Kept yaml ctx name uid specs ∧ (stage.unsure call).Means yaml ctx name specs generation done.2) ∧
      ∃ later, (provenance yaml ctx (imageAt name uid specs generation) call).post stage done.1 later ∧
        later.Means yaml ctx name specs generation done.2 := by
  cases call with
  | applySecret secret owner key content =>
    obtain ⟨free, rfl, rfl, carried⟩ := permitted
    have applied := kept.applySecret means free carried
    exact ⟨applied stage.written, _, rfl, (applied _).2⟩
  | getOsArtifact objectName =>
    refine ⟨⟨kept, means⟩, _, ?_, kept.look (means.first permitted)⟩
    cases found : before.artifact with
    | none => simp [Cluster.carryOut, Cluster.orNotFound, found]
    | some artifact =>
      have identified := (kept.artifact artifact found).identified
      simp [Cluster.carryOut, Cluster.orNotFound, found, identified]
  | deleteOsArtifact objectName =>
    obtain ⟨kept, undisturbed⟩ := kept.deleteArtifact
    exact ⟨⟨kept, undisturbed.means means⟩, stage, rfl, undisturbed.means means⟩
  | applyOsArtifact manifest =>
    obtain ⟨free, written, wanted, owner⟩ := permitted
    have sealed : Sealed yaml name (specs generation) before := fun request asked =>
      means.sealed (written (Option.isSome_iff_exists.mpr ⟨request, asked⟩)) request asked
    have applied := kept.applyArtifact means free sealed wanted owner
    exact ⟨applied, stage, rfl, applied.2⟩
  | getJob jobName =>
    refine ⟨⟨kept, means⟩, ?_⟩
    cases found : before.jobs jobName with
    | none => exact ⟨stage, by simp [Cluster.carryOut, Cluster.orNotFound, found], means⟩
    | some job =>
      refine ⟨{ stage with prelaid := stage.prelaid || stage.proves (imageAt name uid specs generation) jobName job },
        by simp [Cluster.carryOut, Cluster.orNotFound, found], { means with prelaid := fun known => ?_ }⟩
      rcases Bool.or_eq_true _ _ |>.mp known with earlier | proven
      · exact means.prelaid earlier
      · have learnt := kept.learn means found proven
        exact learnt
  | applyJob manifest =>
    have applied := kept.applyJob means permitted manifest
    exact ⟨applied, _, rfl, applied.2⟩
  | deleteJob jobName =>
    obtain ⟨kept, undisturbed⟩ := kept.deleteJob jobName gone
    exact ⟨⟨kept, undisturbed.means means⟩, stage, rfl, undisturbed.means means⟩
  | patchStatus vmimage status =>
    have published : stage.Means yaml ctx name specs generation
        { before with published := (generation, status) :: before.published } :=
      { means with }
    exact ⟨⟨kept.publish means permitted, published⟩, stage, rfl, published⟩
  | _ => exact ⟨⟨kept, means⟩, stage, rfl, means⟩

theorem Cluster.Kept.serve (kept : before.Kept yaml ctx name uid specs)
    (means : stage.Means yaml ctx name specs generation before) (answer : Cluster.Answer)
    (permitted : (provenance yaml ctx (imageAt name uid specs generation) call).pre stage) :
    let served := before.serve generation answer call
    served.2.Kept yaml ctx name uid specs ∧
      ∃ later, (provenance yaml ctx (imageAt name uid specs generation) call).post stage served.1 later ∧
        later.Means yaml ctx name specs generation served.2 := by
  have done := kept.carryOut means answer.gone permitted
  unfold Cluster.serve
  cases answer.fate with
  | answered => exact ⟨done.1.1, done.2⟩
  | dropped =>
    refine ⟨kept, stage.unsure call, provenance_failure _, ?_⟩
    cases call with
    | applyJob => exact { means with jobs := nofun }
    | _ => exact means
  | unanswered => exact ⟨done.1.1, stage.unsure call, provenance_failure _, done.1.2⟩

end Steps

/-! ## Every history -/

section Runs

variable (yaml : Yaml) (ctx : Context) (name uid : String) (specs : Nat → VMImageSpec)

theorem histories_inductive :
    Machine.Inductive (Unedited yaml ctx name uid specs) (Cluster.Kept yaml ctx name uid specs)
      (Machine.Abides (labelled fun generation => provenance yaml ctx (imageAt name uid specs generation))
        fun stage cluster => stage.2.Means yaml ctx name specs stage.1 cluster) where
  launched := by
    intro state task generation program _ agrees _ launched
    cases launched
    refine ⟨(generation, {}), ⟨fun _ => agrees, nofun, nofun, nofun, nofun, nofun⟩, ?_⟩
    exact wp_mono (wp_labelled wpe_reconcile) fun _ _ _ => trivial
  served := by
    intro state task answer call next holds _ running
    refine (holds.2 task _ running).served fun stage means permitted => ?_
    obtain ⟨_, stage⟩ := stage
    obtain ⟨rfl, permitted⟩ := permitted
    obtain ⟨kept, later, moved, meant⟩ := Cluster.Kept.serve holds.1 means answer permitted
    exact ⟨kept, (call.1, later), ⟨rfl, moved⟩, meant⟩
  undisturbed := by
    intro state task answer call next other program _ _ _ different
    exact absurd rfl different
  disturbed := by
    intro state happening after holds allowed happened
    have others : ∀ secret data, happening = .editSecret secret data → secret ≠ mergedCloudConfigSecretName name := by
      rintro secret data rfl
      exact allowed
    obtain ⟨kept, undisturbed⟩ := holds.1.happen others happened
    exact ⟨kept, fun task program running => (holds.2 task program running).stable fun stage => undisturbed.means⟩

theorem Cluster.Fresh.kept {cluster : Cluster} (fresh : cluster.Fresh) : cluster.Kept yaml ctx name uid specs := by
  refine ⟨fun artifact found => ?_, ?_, fun entry member => ?_⟩
  · cases fresh.artifact.symm.trans found
  · rintro job ⟨jobName, found⟩
    cases (fresh.jobs jobName).symm.trans found
  · rw [fresh.published] at member
    cases member

/-- As long as what is not compared is left alone while there is an artifact for it, every
status that is written as ready names an artifact that was built from the spec of its
pass. -/
theorem ready_status_faithful (start : Cluster) (fresh : start.Fresh)
    (events : List (builder yaml ctx name uid specs).Event) (last : (builder yaml ctx name uid specs).State)
    (run : Machine.Run (Unedited yaml ctx name uid specs) (Machine.State.idle start) events last) :
    Cluster.Faithful yaml ctx name specs last.service :=
  ((histories_inductive yaml ctx name uid specs).run run
    (Machine.holds_idle (fresh.kept yaml ctx name uid specs))).1.faithful

end Runs

/-! ### Edits that go unnoticed -/

/-- A size is reported that no Job has run with. -/
def Cluster.SizeUnbacked (cluster : Cluster) (size : UInt32) : Prop :=
  (∃ entry ∈ cluster.published, entry.2.phase = .ready ∧ entry.2.prelaidDiskSizeGiB = some size) ∧
    ∀ manifest ∈ cluster.finished, ¬ RunsWith manifest size

/-- The layer is reported, and no build has had a cloud-config. -/
def Cluster.LayerUnbacked (cluster : Cluster) : Prop :=
  (∃ entry ∈ cluster.published, entry.2.phase = .ready ∧ entry.2.firstBootSealingLayer = true) ∧
    ∀ build ∈ cluster.builds, build.cloudConfig = none

instance instDecidableSizeUnbacked (cluster : Cluster) (size : UInt32) : Decidable (cluster.SizeUnbacked size) :=
  inferInstanceAs (Decidable (_ ∧ _))

instance instDecidableLayerUnbacked (cluster : Cluster) : Decidable cluster.LayerUnbacked := inferInstanceAs (Decidable (_ ∧ _))

section Unnoticed

variable {yaml : Yaml} {ctx : Context} {name : String} {specs : Nat → VMImageSpec} {cluster : Cluster}

theorem Cluster.SizeUnbacked.not_faithful {size : UInt32} (unbacked : cluster.SizeUnbacked size) :
    ¬ cluster.Faithful yaml ctx name specs := by
  intro faithful
  obtain ⟨⟨entry, member, ready, sized⟩, never⟩ := unbacked
  obtain ⟨_, -, -, -, prelaid⟩ := faithful entry member ready
  obtain ⟨manifest, finished, -, runs⟩ := prelaid size sized
  exact never manifest finished runs

theorem Cluster.LayerUnbacked.not_faithful (unbacked : cluster.LayerUnbacked) :
    ¬ cluster.Faithful yaml ctx name specs := by
  intro faithful
  obtain ⟨⟨entry, member, ready, layer⟩, never⟩ := unbacked
  obtain ⟨_, -, ⟨build, built, -, -, sealed⟩, layered, -⟩ := faithful entry member ready
  obtain ⟨request, wanted⟩ := Option.isSome_iff_exists.mp (layered layer)
  obtain ⟨document, config, -⟩ := sealed request wanted
  cases (never build built).symm.trans config

end Unnoticed

/-- A printer and parser that know the empty document only. -/
def emptyYaml : Yaml where
  toString _ := ""
  fromStr _ := .ok (.object [])
  wellFormed := by simp [Value.wellFormed_object]

def sampleContext : Context := { buildNamespace := "builds", prelayImage := some "prelay" }

/-- A raw disk for libvirt, pre-laid and sealed as said. -/
def rawDisk (prelay : Option UInt32) (firstBootSealing : Option FirstBootSealing) : VMImageSpec :=
  { sources := [{ providerClass := "libvirt", kind := .url, importFrom := some "quay.io/kairos" }]
    prelay := prelay
    firstBootSealing := firstBootSealing }

/-- The spec before and after its first edit. -/
def edited (first second : VMImageSpec) : Nat → VMImageSpec
  | 0 => first
  | _ => second

def sampleBuilder (specs : Nat → VMImageSpec) : Machine Tagged TaggedReply :=
  builder emptyYaml sampleContext "kairos" "image-uid" specs

variable (specs : Nat → VMImageSpec)

def smoothly (generation calls : Nat) : List (sampleBuilder specs).Event :=
  .launch () generation :: List.replicate calls (.serve () ({} : Cluster.Answer))

def digestPod : Pod :=
  ⟨[some ⟨0, some ("sha256:" ++ String.ofList (List.replicate 64 'a'))⟩]⟩

/-- The image is built and pre-laid for its first spec, then looked at for the second. -/
def prelayHistory : List (sampleBuilder specs).Event :=
  smoothly specs 0 4 ++ [.disturb (.build none)] ++ smoothly specs 0 6 ++
    [.disturb (.jobSucceeds "kairos-build-prelay" digestPod)] ++ smoothly specs 1 6

/-- The image is built for its first spec, then looked at for the second. -/
def sealingHistory : List (sampleBuilder specs).Event :=
  smoothly specs 0 4 ++ [.disturb (.build none)] ++ smoothly specs 1 5

def resized : Nat → VMImageSpec := edited (rawDisk (some 32) none) (rawDisk (some 64) none)

def sealedLate : Nat → VMImageSpec := edited (rawDisk none none) (rawDisk none (some ⟨["COS_PERSISTENT"], 600⟩))

theorem edits_unnoticed :
    (∃ last, (Machine.State.idle {} : (sampleBuilder resized).State).exec (prelayHistory resized) = some last ∧
      ¬ Cluster.Faithful emptyYaml sampleContext "kairos" resized last.service) ∧
    ∃ last, (Machine.State.idle {} : (sampleBuilder sealedLate).State).exec (sealingHistory sealedLate) = some last ∧
      ¬ Cluster.Faithful emptyYaml sampleContext "kairos" sealedLate last.service := by
  constructor
  · have seen : ((Machine.State.idle {} : (sampleBuilder resized).State).exec (prelayHistory resized)).any
        (fun last => (instDecidableSizeUnbacked last.service 64).decide) = true := by
      decide +kernel
    obtain ⟨last, executed, unbacked⟩ := (Option.any_eq_true _ _).mp seen
    exact ⟨last, executed, (@of_decide_eq_true _ (instDecidableSizeUnbacked _ _) unbacked).not_faithful⟩
  · have seen : ((Machine.State.idle {} : (sampleBuilder sealedLate).State).exec (sealingHistory sealedLate)).any
        (fun last => (instDecidableLayerUnbacked last.service).decide) = true := by
      decide +kernel
    obtain ⟨last, executed, unbacked⟩ := (Option.any_eq_true _ _).mp seen
    exact ⟨last, executed, (@of_decide_eq_true _ (instDecidableLayerUnbacked _) unbacked).not_faithful⟩

instance (ctx : Context) (yaml : Yaml) (name uid : String) (specs : Nat → VMImageSpec) :
    (state : (builder yaml ctx name uid specs).State) → (event : (builder yaml ctx name uid specs).Event) →
      Decidable (Unedited yaml ctx name uid specs state event)
  | state, .launch _ generation => instDecidableAgrees name specs generation state.service
  | _, .serve _ _ => .isTrue trivial
  | _, .crash _ => .isTrue trivial
  | _, .disturb happening =>
    match happening with
    | .editSecret secret _ => inferInstanceAs (Decidable (secret ≠ mergedCloudConfigSecretName name))
    | .report _ _ | .build _ | .markDeleting | .remove | .volumes _ _ _ | .jobSucceeds _ _ | .jobFails _ | .podsGone _
    | .jobGone _ => .isTrue trivial

def unresized : Nat → VMImageSpec := fun _ => rawDisk (some 32) none

def Cluster.reportsSize (cluster : Cluster) (size : UInt32) : Bool :=
  cluster.published.any fun entry => entry.2.phase == .ready && entry.2.prelaidDiskSizeGiB == some size

theorem prelaid_size_faithful :
    ∃ last : (sampleBuilder unresized).State,
      Machine.Run (Unedited emptyYaml sampleContext "kairos" "image-uid" unresized) (Machine.State.idle {})
        (prelayHistory unresized) last ∧
      Cluster.reportsSize last.service 32 = true ∧
      Cluster.Faithful emptyYaml sampleContext "kairos" unresized last.service := by
  have seen : ((Machine.State.idle {} : (sampleBuilder unresized).State).execIf
      (Unedited emptyYaml sampleContext "kairos" "image-uid" unresized) (prelayHistory unresized)).any
      (fun last => Cluster.reportsSize last.service 32) = true := by
    decide +kernel
  obtain ⟨last, executed, reported⟩ := (Option.any_eq_true _ _).mp seen
  have run := Machine.Run.of_execIf executed
  exact ⟨last, run, reported, ready_status_faithful _ _ _ _ _ {} ⟨rfl, fun _ => rfl, rfl⟩ _ last run⟩

end Banlieue.Imagebuilder
