import Banlieue.Data.Machine
import Banlieue.ProviderLibvirt.Images
import Banlieue.ProviderVsphere.Images

namespace Banlieue.Image

open Banlieue.Api hiding BuildArtifactStatus ImageSource ZoneImageStatus ImagePerProviderStatus
open Banlieue.Data Banlieue.Data.Program
open Banlieue.Imagebuilder (BuildArtifactKind BuildArtifactPhase OciArtifactPhase OciArtifactStatus BuildArtifactStatus ImageSource)

/-! # The import Jobs of all providers

All Jobs are in one namespace and are found by their names.  Passes of any number of
workloads, over any images and providers, run at the same time.
-/

structure Target where
  providerClass : ProviderClass
  image : String
  providerNamespace : String
  provider : String
  zone : String
deriving DecidableEq

def Target.jobName (target : Target) : String :=
  match target.providerClass with
  | .libvirt => ProviderLibvirt.Images.importJobName target.image target.provider target.zone
  | .vsphere => ProviderVsphere.Images.importJobName target.image target.provider target.zone

/-- How the command line of a Job starts that is for the target. -/
def Target.args (target : Target) : List String :=
  match target.providerClass with
  | .libvirt => ["provider", "libvirt", "import", "--vmimage", target.image, "--provider", target.provider,
      "--provider-namespace", target.providerNamespace, "--pool", target.zone]
  | .vsphere => ["provider", "vsphere", "image-import", "--vmimage", target.image, "--provider", target.provider,
      "--provider-namespace", target.providerNamespace, "--failure-domain", target.zone]

def BuiltFor (manifest : JobManifest) (target : Target) : Prop := target.args <+: manifest.args

instance (manifest : JobManifest) (target : Target) : Decidable (BuiltFor manifest target) :=
  inferInstanceAs (Decidable (_ <+: _))

structure Store where
  jobs : String → Option Job
  finished : List JobManifest
  /-- The rows that were published on an image. -/
  published : List (ProviderClass × String × List ImagePerProviderStatus)

def Store.empty : Store := ⟨fun _ => none, [], []⟩

def Store.put (store : Store) (name : String) (job : Option Job) : Store :=
  { store with jobs := fun other => if other = name then job else store.jobs other }

/-- The template of a Job cannot be changed, its owner can. -/
def Store.apply (store : Store) (manifest : JobManifest) : Except String Unit × Store :=
  match store.jobs manifest.name with
  | none => (.ok (), store.put manifest.name (some { manifest := manifest }))
  | some job =>
    if { job.manifest with owner := manifest.owner } = manifest then
      (.ok (), store.put manifest.name (some { job with manifest := manifest }))
    else (.error "spec.template: field is immutable", store)

/-- A deleted Job may stay until its pods are gone. -/
def Store.delete (store : Store) (name : String) (gone : Bool) : Except ApiError Unit × Store :=
  match store.jobs name with
  | none => (.error .notFound, store)
  | some _ => (.ok (), if gone then store.put name none else store)

structure Answer where
  fate : Delivery := .answered
  problem : String := "timed out"
  providers : List Provider := []
  gone : Bool := true
  now : Nat := 0
  names : List String := []
  found : Bool := false

def Store.serve (store : Store) (answer : Answer) : (call : Call) → Reply call × Store
  | .ensureFinalizer _ => answer.fate.outcome store (.error answer.problem) (.ok (), store)
  | .listProviders => answer.fate.outcome store (.error answer.problem) (.ok answer.providers, store)
  | .getJob name =>
    answer.fate.outcome store (.error (.other answer.problem))
      ((match store.jobs name with
        | some job => .ok job
        | none => .error .notFound), store)
  | .applyJob manifest => answer.fate.outcome store (.error answer.problem) (store.apply manifest)
  | .deleteJob name => answer.fate.outcome store (.error (.other answer.problem)) (store.delete name answer.gone)
  | .patchStatus providerClass image rows =>
    answer.fate.outcome store (.error answer.problem)
      (.ok (), { store with published := (providerClass, image, rows) :: store.published })
  | .patchAnnotations _ _ => answer.fate.outcome store (.error answer.problem) (.ok answer.names, store)
  | .clock => (answer.now, store)
  | .resolveCredentials _ => answer.fate.outcome store (.error answer.problem) (.ok (), store)
  | .resolveCaBundle _ => answer.fate.outcome store (.error answer.problem) (.ok (), store)
  | .connect _ => answer.fate.outcome store (.error answer.problem) (.ok (), store)
  | .volumes _ _ => answer.fate.outcome store (.error answer.problem) (.ok answer.names, store)
  | .listDatacenters _ => answer.fate.outcome store (.error answer.problem) (.ok answer.names, store)
  | .findTemplate _ _ _ => answer.fate.outcome store (.error answer.problem) (.ok answer.found, store)

/-- A pass with the copy of the image it is given. -/
inductive PassInput where
  | libvirt (ctx : ProviderLibvirt.Images.Context) (image : String) (sources : List ImageSource)
      (rawDisk : Option BuildArtifactStatus)
  | vsphere (ctx : ProviderVsphere.Images.Context) (image : ProviderVsphere.Images.VMImageView)

def PassInput.program : PassInput → Work (Except String Unit)
  | .libvirt ctx image sources rawDisk => (ProviderLibvirt.Images.reconcile ctx image sources rawDisk).run
  | .vsphere ctx image => (ProviderVsphere.Images.reconcile ctx image).run

inductive JobEvent where
  | succeed (name : String)
  | fail (name : String) (condition : JobCondition)
  | vanish (name : String)

def Store.happen (store : Store) : JobEvent → Option Store
  | .succeed name => (store.jobs name).map fun job =>
    { store.put name (some { job with status := { job.status with succeeded := job.status.succeeded + 1 } }) with
      finished := job.manifest :: store.finished }
  | .fail name condition => (store.jobs name).map fun job =>
    store.put name (some { job with status :=
      { job.status with failed := job.status.failed + 1, conditions := condition :: job.status.conditions } })
  | .vanish name => some (store.put name none)

/-- Workers, each with one pass at a time. -/
def importMachine : Machine Call Reply where
  Service := Store
  Task := Nat
  taskEq := inferInstance
  Input := PassInput
  Choice := Answer
  Disturbance := JobEvent
  Result := Except String Unit
  launch _ _ input := some input.program
  serve store _ answer call := store.serve answer call
  disturb store event := store.happen event

/-- Every zone that was reported ready has had a Job of its own that succeeded. -/
def Store.Sound (store : Store) : Prop :=
  ∀ entry ∈ store.published, ∀ row ∈ entry.2.2, ∀ zone ∈ row.zones, zone.ready = true →
    ∃ manifest ∈ store.finished,
      BuiltFor manifest ⟨entry.1, entry.2.1, row.providerNamespace, row.providerName, zone.name⟩

/-! ## The targets in use -/

def zonesOf (providerClass : ProviderClass) (provider : Provider) : List String :=
  match providerClass with
  | .libvirt => ProviderLibvirt.Images.targetPools provider
  | .vsphere => provider.failureDomains.map FailureDomain.name

variable (images : ProviderClass → String → Prop) (providers : Provider → Prop)

/-- The zones of the providers, for the images. -/
def InUse (target : Target) : Prop :=
  images target.providerClass target.image ∧ ∃ provider, providers provider ∧
    provider.spec.providerClassRef.name = target.providerClass.text ∧ provider.name = target.provider ∧
    namespaceOf provider = target.providerNamespace ∧ target.zone ∈ zonesOf target.providerClass provider

/-- Passes over these images only, which find these providers only; the vSphere provider
imports the image rather than adopting a template. -/
def Among (_ : importMachine.State) : importMachine.Event → Prop
  | .launch _ (.libvirt _ image _ _) => images .libvirt image
  | .launch _ (.vsphere _ image) => images .vsphere image.name ∧
      (ProviderVsphere.Images.findVsphereSource image.sources).all (fun source => source.kind != .template) = true
  | .serve _ answer => ∀ provider ∈ answer.providers, providers provider
  | _ => True

instance [∀ providerClass image, Decidable (images providerClass image)] [DecidablePred providers] :
    (state : importMachine.State) → (event : importMachine.Event) → Decidable (Among images providers state event)
  | _, .launch _ (.libvirt _ image _ _) => inferInstanceAs (Decidable (images .libvirt image))
  | _, .launch _ (.vsphere _ image) => inferInstanceAs (Decidable (images .vsphere image.name ∧ _))
  | _, .serve _ answer => inferInstanceAs (Decidable (∀ provider ∈ answer.providers, providers provider))
  | _, .crash _ => .isTrue trivial
  | _, .disturb _ => .isTrue trivial

/-- No two targets in use share the name of their Jobs. -/
def DistinctNames : Prop :=
  ∀ first second, InUse images providers first → InUse images providers second →
    first.jobName = second.jobName → first = second

/-! ## What a pass may do

A pass learns of a target that its Job has succeeded, by finding the Job under the
target's name.
-/

/-- The targets that are known to be imported once the reply about the Job is in. -/
def learn (known : Target → Prop) (name : String) (reply : Except ApiError Job) (target : Target) : Prop :=
  known target ∨ InUse images providers target ∧ target.jobName = name ∧
    ∃ job, reply = .ok job ∧ 0 < job.status.succeeded

/-- Every zone of the row that is ready is known to be imported. -/
def Backed (providerClass : ProviderClass) (image : String) (row : ImagePerProviderStatus)
    (known : Target → Prop) : Prop :=
  ∀ zone ∈ row.zones, zone.ready = true →
    known ⟨providerClass, image, row.providerNamespace, row.providerName, zone.name⟩

@[simp]
abbrev importing : Rules (Target → Prop) Call Reply
  | .getJob name => { post known reply after := after = learn images providers known name reply }
  | .applyJob manifest =>
    { pre _ := ∃ target, InUse images providers target ∧ manifest.name = target.jobName ∧ BuiltFor manifest target
      post known _ after := after = known }
  | .patchStatus providerClass image rows =>
    { pre known := ∀ row ∈ rows, Backed providerClass image row known
      post known _ after := after = known }
  | .listProviders =>
    { post known reply after := after = known ∧ ∀ list, reply = .ok list → ∀ provider ∈ list, providers provider }
  | _ => { post known _ after := after = known }

/-- A later stage knows at least as much. -/
def Grows (before after : Target → Prop) : Prop := ∀ target, before target → after target

variable {images providers} {known : Target → Prop}

theorem Grows.refl (known : Target → Prop) : Grows known known := fun _ => id

theorem Grows.trans {first second third : Target → Prop} (before : Grows first second) (after : Grows second third) :
    Grows first third := fun target known => after target (before target known)

variable {name : String} {target : Target} {listed : List Provider} {after : Store}

theorem grows_learn {reply : Except ApiError Job} :
    Grows known (learn images providers known name reply) := fun _ => .inl

def RowOf (providerClass : ProviderClass) (imageName : String) (known : Target → Prop)
    (row : ImagePerProviderStatus) (after : Target → Prop) : Prop :=
  Grows known after ∧ Backed providerClass imageName row after

variable {providerClass : ProviderClass} {imageName : String}

theorem rowOf_of_no_zones {row : ImagePerProviderStatus}
    (none : row.zones = []) : RowOf providerClass imageName known row known :=
  ⟨Grows.refl known, fun zone member => by simp [none] at member⟩

/-- What the part of a pass for one zone comes to: a zone that is ready is known to be
imported. -/
def ZoneOf (target : Target) (known : Target → Prop) (zone : ZoneImageStatus) (after : Target → Prop) : Prop :=
  Grows known after ∧ zone.name = target.zone ∧ (zone.ready = true → after target)

theorem zoneOf_unready {zone : ZoneImageStatus} {after : Target → Prop} (grows : Grows known after)
    (named : zone.name = target.zone) (unready : zone.ready = false) : ZoneOf target known zone after :=
  ⟨grows, named, fun ready => absurd ready (by simp [unready])⟩

theorem wp_zones {ι : Type} {zones : List ι} {target : ι → Target} {each : ι → Work ZoneImageStatus}
    (one : ∀ zone ∈ zones, ∀ known, (each zone).wp (importing images providers) (ZoneOf (target zone) known) known) :
    (zones.mapM each).wp (importing images providers) (fun found after => Grows known after ∧
      ∀ zone ∈ found, zone.ready = true → ∃ item ∈ zones, zone.name = (target item).zone ∧ after (target item)) known := by
  let holds (item : ι) (zone : ZoneImageStatus) (after : Target → Prop) : Prop :=
    zone.name = (target item).zone ∧ (zone.ready = true → after (target item))
  refine wp_mono (wp_mapM holds Grows.refl Grows.trans
    (fun _ _ _ _ backed more => ⟨backed.1, fun ready => more _ (backed.2 ready)⟩) one) ?_
  rintro found after ⟨grown, backed⟩
  refine ⟨grown, fun zone member ready => ?_⟩
  obtain ⟨item, inside, name, known⟩ := backed zone member
  exact ⟨item, inside, name, known ready⟩

theorem wp_rows {each : Provider → Work ImagePerProviderStatus} (one : ∀ provider ∈ listed, ∀ known,
      (each provider).wp (importing images providers) (RowOf providerClass imageName known) known) :
    (listed.mapM each).wp (importing images providers)
      (fun rows after => ∀ row ∈ rows, Backed providerClass imageName row after) known := by
  refine wp_mono (wp_mapM (fun _ row after => Backed providerClass imageName row after) Grows.refl Grows.trans
    (fun _ _ _ _ backed more zone member ready => more _ (backed zone member ready)) one) ?_
  rintro rows after ⟨-, backed⟩ row member
  exact (backed row member).choose_spec.2

theorem inUse_of_scope {zone : String}
    {own : Option String} {provider : Provider} (image : images providerClass imageName)
    (found : ∀ provider ∈ listed, providers provider)
    (member : provider ∈ providersInScope (providersOfClass listed providerClass.text) own)
    (zoned : zone ∈ zonesOf providerClass provider) :
    InUse images providers ⟨providerClass, imageName, namespaceOf provider, provider.name, zone⟩ := by
  have ofClass := List.mem_filter.mp (List.mem_filter.mp member).1
  exact ⟨image, provider, found provider ofClass.1, eq_of_beq ofClass.2, rfl, rfl, zoned⟩

attribute [local simp] getJob applyJob deleteJob

section Libvirt

open ProviderLibvirt.Images

variable {ctx : ProviderLibvirt.Images.Context} {provider : Provider} {imageName : String}
  {artifact : BuildArtifactStatus}

def libvirtTarget (imageName : String) (provider : Provider) (pool : String) : Target :=
  ⟨.libvirt, imageName, namespaceOf provider, provider.name, pool⟩

theorem zoneFromJob_spec (pool jobName : String) (job : Job) : (zoneFromJob pool jobName job).name = pool ∧
    ((zoneFromJob pool jobName job).ready = true → 0 < job.status.succeeded) := by
  unfold zoneFromJob
  split
  · exact ⟨rfl, fun _ => ‹_›⟩
  · split <;> exact ⟨rfl, nofun⟩

theorem wp_ensureImportJob {pool : String} (used : InUse images providers (libvirtTarget imageName provider pool)) :
    (ensureImportJob ctx provider imageName artifact pool).wp (importing images providers)
      (ZoneOf (libvirtTarget imageName provider pool) known) known := by
  have built : BuiltFor (buildImportJob ctx (importJobName imageName provider.name pool) imageName provider pool artifact)
      (libvirtTarget imageName provider pool) := ⟨_, (List.append_assoc _ _ _).symm⟩
  unfold ensureImportJob
  simp only [getJob, wp_bind, wp_request, true_and, forall_eq]
  intro reply
  match reply with
  | .ok job =>
    refine ⟨grows_learn, (zoneFromJob_spec _ _ _).1, fun ready => ?_⟩
    exact .inr ⟨used, rfl, job, rfl, (zoneFromJob_spec _ _ _).2 ready⟩
  | .error .notFound =>
    refine ⟨⟨_, used, rfl, built⟩, fun created _ same => ?_⟩
    subst same
    cases created <;> exact zoneOf_unready grows_learn rfl rfl
  | .error (.other _) => exact zoneOf_unready grows_learn rfl rfl

theorem backingFileRow_zones (source : ImageSource) (present : List (String × Bool)) :
    (backingFileRow provider source present).zones = [] := by
  unfold backingFileRow
  dsimp only
  split
  · rfl
  · split <;> rfl

theorem wpe_backingFilePresence (pools : List String) (volume : String) :
    wpe (importing images providers) (backingFilePresence provider pools volume) (fun _ after => after = known)
      (fun _ after => after = known) known := by
  have looked : wpe (importing images providers) (pools.mapM fun pool => (do
      let names : List String ← consult (.volumes provider pool) id
      return (pool, names.contains volume) : ExceptT String Work (String × Bool)))
      (fun results after => after = known ∧ List.Forall₂ (fun _ _ => True) pools results)
      (fun _ after => after = known) known := wpe_mapM _ fun pool _ => by simp
  have rest := wpe_mono looked fun _ _ reached => reached.1
  simpa [backingFilePresence] using rest

theorem wp_reconcileForProvider_libvirt {source : ImageSource} {rawDisk : Option BuildArtifactStatus}
    (used : ∀ pool ∈ targetPools provider, InUse images providers (libvirtTarget imageName provider pool)) :
    (reconcileForProvider ctx provider source rawDisk imageName).wp (importing images providers)
      (RowOf .libvirt imageName known) known := by
  unfold reconcileForProvider
  cases source.kind with
  | template => exact rowOf_of_no_zones rfl
  | backingFile =>
    dsimp only
    split
    · exact rowOf_of_no_zones rfl
    · rw [wp_bind]
      refine wp_mono (wpe_backingFilePresence _ _) fun outcome after same => ?_
      cases outcome with
      | ok present =>
        obtain rfl : after = known := same
        exact rowOf_of_no_zones (backingFileRow_zones _ _)
      | error why =>
        obtain rfl : after = known := same
        exact rowOf_of_no_zones rfl
  | url =>
    dsimp only
    split
    · exact rowOf_of_no_zones rfl
    · split
      · exact rowOf_of_no_zones rfl
      · rw [wp_bind]
        refine wp_mono (wp_zones fun pool member _ => wp_ensureImportJob (used pool member)) fun zones after backed => ?_
        refine ⟨backed.1, fun zone member ready => ?_⟩
        obtain ⟨pool, -, name, known⟩ := backed.2 zone member ready
        exact name ▸ known

theorem wpe_reconcile_libvirt {sources : List ImageSource} {rawDisk : Option BuildArtifactStatus}
    (image : images .libvirt imageName) :
    wpe (importing images providers) (reconcile ctx imageName sources rawDisk) (fun _ _ => True) (fun _ _ => True) known := by
  unfold reconcile
  split
  · trivial
  · rename_i source _
    suffices ∀ listed : List Provider, (∀ provider ∈ listed, providers provider) →
        wp (importing images providers) ((providersInScope (providersOfClass listed "libvirt") ctx.providerName).mapM
          fun provider => reconcileForProvider ctx provider source rawDisk imageName)
          (fun rows after => ∀ row ∈ rows, Backed .libvirt imageName row after) known by
      simp +contextual [this]
    exact fun listed found => wp_rows fun provider member _ =>
      wp_reconcileForProvider_libvirt fun pool pooled => inUse_of_scope image found member pooled

end Libvirt

section Vsphere

open ProviderVsphere.Images

variable {ctx : ProviderVsphere.Images.Context} {provider : Provider} {image : VMImageView}
  {artifact : BuildArtifactStatus} {reimport : Bool}

def vsphereTarget (imageName : String) (provider : Provider) (failureDomain : String) : Target :=
  ⟨.vsphere, imageName, namespaceOf provider, provider.name, failureDomain⟩

theorem vsphere_zoneFromJob_spec (failureDomain imageName folder jobName : String) (job : Job) :
    (zoneFromJob failureDomain imageName folder jobName job).name = failureDomain ∧
      ((zoneFromJob failureDomain imageName folder jobName job).ready = true → 0 < job.status.succeeded) := by
  unfold zoneFromJob
  split
  · exact ⟨rfl, fun _ => ‹_›⟩
  · split <;> exact ⟨rfl, nofun⟩

theorem wp_createImportJob {failureDomain jobName : String} {later : Target → Prop} (grows : Grows known later)
    (used : InUse images providers (vsphereTarget image.name provider failureDomain))
    (named : jobName = (vsphereTarget image.name provider failureDomain).jobName) :
    (createImportJob ctx image provider failureDomain jobName artifact).wp (importing images providers)
      (ZoneOf (vsphereTarget image.name provider failureDomain) known) later := by
  have built : BuiltFor (buildImportJob ctx jobName image provider failureDomain artifact)
      (vsphereTarget image.name provider failureDomain) := List.prefix_append _ _
  refine ⟨⟨_, used, named, built⟩, fun created _ same => ?_⟩
  subst same
  cases created <;> exact zoneOf_unready grows rfl rfl

theorem wp_vsphere_ensureImportJob {domain : FailureDomain}
    (used : InUse images providers (vsphereTarget image.name provider domain.name)) :
    (ensureImportJob ctx provider image reimport artifact domain).wp (importing images providers)
      (ZoneOf (vsphereTarget image.name provider domain.name) known) known := by
  have named : importJobName image.name provider.name domain.name =
      (vsphereTarget image.name provider domain.name).jobName := by rw [Target.jobName, vsphereTarget]
  unfold ensureImportJob
  generalize importJobName image.name provider.name domain.name = jobName at named
  dsimp only
  split
  · refine ⟨trivial, fun reply _ same => ?_⟩
    subst same
    match reply with
    | .error (.other why) => exact zoneOf_unready (Grows.refl _) rfl rfl
    | .error .notFound | .ok _ => exact wp_createImportJob (Grows.refl _) used named
  · refine ⟨trivial, fun reply _ same => ?_⟩
    subst same
    match reply with
    | .ok job =>
      refine ⟨trivial, fun now _ same => ?_⟩
      subst same
      change wp _ (if _ then _ else _) _ _
      split
      · refine ⟨trivial, fun deleted _ same => ?_⟩
        subst same
        cases deleted <;> exact zoneOf_unready grows_learn rfl rfl
      · refine ⟨grows_learn, (vsphere_zoneFromJob_spec _ _ _ _ _).1, fun ready => ?_⟩
        exact .inr ⟨used, named.symm, job, rfl, (vsphere_zoneFromJob_spec _ _ _ _ _).2 ready⟩
    | .error .notFound => exact wp_createImportJob grows_learn used named
    | .error (.other why) => exact zoneOf_unready grows_learn rfl rfl

theorem wp_reconcileForProvider_vsphere {source : ImageSource} (imported : source.kind ≠ .template)
    (used : ∀ domain ∈ provider.failureDomains,
      InUse images providers (vsphereTarget image.name provider domain.name)) :
    (reconcileForProvider ctx provider source image reimport).wp (importing images providers)
      (RowOf .vsphere image.name known) known := by
  unfold reconcileForProvider
  split
  · unfold reconcileUrlSource
    split
    · exact rowOf_of_no_zones rfl
    · split
      · exact rowOf_of_no_zones rfl
      · dsimp only
        split
        · exact rowOf_of_no_zones rfl
        · rw [wp_bind]
          refine wp_mono (wp_zones fun domain member _ => wp_vsphere_ensureImportJob (used domain member))
            fun zones after backed => ?_
          refine ⟨backed.1, fun zone member ready => ?_⟩
          obtain ⟨domain, -, name, known⟩ := backed.2 zone member ready
          exact name ▸ known
  · exact rowOf_of_no_zones rfl
  · rename_i template
    exact absurd template imported

theorem wpe_reconcile_vsphere (named : images .vsphere image.name)
    (imported : ∀ source, findVsphereSource image.sources = some source → source.kind ≠ .template) :
    wpe (importing images providers) (reconcile ctx image) (fun _ _ => True) (fun _ _ => True) known := by
  unfold reconcile
  cases found : findVsphereSource image.sources with
  | none => simp
  | some source =>
    suffices ∀ listed : List Provider, (∀ provider ∈ listed, providers provider) →
        wp (importing images providers) ((providersInScope (providersOfClass listed "vsphere") ctx.providerName).mapM
          fun provider => reconcileForProvider ctx provider source image (forceReimportPendingFor image provider))
          (fun rows after => ∀ row ∈ rows, Backed .vsphere image.name row after) known by
      simp +contextual [this, settleForceReimport]
    exact fun listed found' => wp_rows fun provider member _ => wp_reconcileForProvider_vsphere (imported source found)
      fun domain zoned => inUse_of_scope named found' member (List.mem_map_of_mem zoned)

end Vsphere

/-! ## Every run -/

/-- The Jobs that are there were built for the targets they are named for, and those that
have succeeded are on record. -/
structure Store.Kept (images : ProviderClass → String → Prop) (providers : Provider → Prop) (store : Store) : Prop where
  built : ∀ {name job}, store.jobs name = some job →
    ∃ target, InUse images providers target ∧ target.jobName = name ∧ BuiltFor job.manifest target
  recorded : ∀ {name job}, store.jobs name = some job → 0 < job.status.succeeded →
    ∃ manifest ∈ store.finished, manifest.args = job.manifest.args
  sound : store.Sound

/-- What is known of a target: a Job for it has succeeded. -/
def Known (known : Target → Prop) (store : Store) : Prop :=
  ∀ target, known target → ∃ manifest ∈ store.finished, BuiltFor manifest target

variable {store : Store} (kept : store.Kept images providers)

include kept

theorem Store.Kept.put {entry : Option Job} (fits : ∀ job, entry = some job →
      (∃ target, InUse images providers target ∧ target.jobName = name ∧ BuiltFor job.manifest target) ∧
        (0 < job.status.succeeded → ∃ manifest ∈ store.finished, manifest.args = job.manifest.args)) :
    (store.put name entry).Kept images providers := by
  refine ⟨fun {other job} found => ?_, fun {other job} found done => ?_, kept.sound⟩ <;>
    simp only [Store.put] at found <;> split at found
  · rename_i same
    exact same ▸ (fits job found).1
  · exact kept.built found
  · exact (fits job found).2 done
  · exact kept.recorded found done

theorem Store.Kept.apply {manifest : JobManifest}
    (used : InUse images providers target) (named : manifest.name = target.jobName)
    (built : BuiltFor manifest target) : (store.apply manifest).2.Kept images providers := by
  unfold Store.apply
  split
  · refine kept.put fun job same => ?_
    cases same
    exact ⟨⟨target, used, named.symm, built⟩, fun done => absurd done (Nat.lt_irrefl 0)⟩
  · rename_i job found
    split
    · rename_i same
      refine kept.put fun changed equal => ?_
      cases equal
      refine ⟨⟨target, used, named.symm, built⟩, fun done => ?_⟩
      obtain ⟨earlier, member, args⟩ := kept.recorded found done
      rw [← same]
      exact ⟨earlier, member, args⟩
    · exact kept

theorem Store.Kept.delete (name : String) (gone : Bool) : (store.delete name gone).2.Kept images providers := by
  unfold Store.delete
  split
  · exact kept
  · cases gone with
    | true => exact kept.put fun _ => nofun
    | false => exact kept

omit kept

theorem Store.serve_finished (answer : Answer) (call : Call) : (store.serve answer call).2.finished = store.finished := by
  have outcome {ρ : Type} {failed : ρ} {carriedOut : ρ × Store} (same : carriedOut.2.finished = store.finished) :
      (answer.fate.outcome store failed carriedOut).2.finished = store.finished :=
    Delivery.outcome_state (P := fun after : Store => after.finished = store.finished) rfl fun _ => same
  cases call with
  | applyJob manifest =>
    refine outcome ?_
    unfold Store.apply
    split
    · rfl
    · split <;> rfl
  | deleteJob name =>
    refine outcome ?_
    unfold Store.delete
    split
    · rfl
    · split <;> rfl
  | clock => rfl
  | _ => exact outcome rfl

theorem Store.Kept.serve (kept : store.Kept images providers) (meant : Known known store) (answer : Answer)
    {call : Call} (permitted : (importing images providers call).pre known) :
    (store.serve answer call).2.Kept images providers := by
  cases call with
  | applyJob manifest =>
    obtain ⟨target, used, named, built⟩ := permitted
    exact Delivery.outcome_state kept fun _ => kept.apply used named built
  | deleteJob name => exact Delivery.outcome_state kept fun _ => kept.delete name answer.gone
  | patchStatus providerClass image rows =>
    refine Delivery.outcome_state kept fun _ => ⟨kept.built, kept.recorded, fun entry member => ?_⟩
    rcases List.mem_cons.mp member with rfl | earlier
    · exact fun row inside zone among ready => meant _ (permitted row inside zone among ready)
    · exact kept.sound entry earlier
  | clock => exact kept
  | _ => exact Delivery.outcome_state kept fun _ => kept

theorem Store.Kept.learnt (kept : store.Kept images providers) (distinct : DistinctNames images providers)
    (meant : Known known store) (answer : Answer) (name : String) :
    Known (learn images providers known name (store.serve answer (.getJob name)).1) store := by
  rintro target (before | ⟨used, named, job, replied, done⟩)
  · exact meant target before
  · have found : store.jobs name = some job := by
      have carriedOut := (Delivery.outcome_reply replied nofun).2
      split at carriedOut
      · rename_i stored
        cases carriedOut
        exact stored
      · cases carriedOut
    obtain ⟨other, otherUsed, otherNamed, built⟩ := kept.built found
    cases distinct target other used otherUsed (named.trans otherNamed.symm)
    obtain ⟨manifest, member, args⟩ := kept.recorded found done
    exact ⟨manifest, member, by unfold BuiltFor at built ⊢; rwa [args]⟩

theorem Known.mono (meant : Known known store)
    (more : ∀ manifest ∈ store.finished, manifest ∈ after.finished) : Known known after := by
  intro target learnt
  obtain ⟨manifest, member, built⟩ := meant target learnt
  exact ⟨manifest, more manifest member, built⟩

theorem Store.Kept.happen (kept : store.Kept images providers) {event : JobEvent}
    (happened : store.happen event = some after) :
    after.Kept images providers ∧ ∀ manifest ∈ store.finished, manifest ∈ after.finished := by
  cases event with
  | succeed name =>
    obtain ⟨job, found, rfl⟩ := Option.map_eq_some_iff.mp happened
    have recorded : ({ store with finished := job.manifest :: store.finished } : Store).Kept images providers := by
      refine ⟨kept.built, fun held done => ?_, fun entry member row inside zone among ready => ?_⟩
      · obtain ⟨manifest, member, args⟩ := kept.recorded held done
        exact ⟨manifest, List.mem_cons_of_mem _ member, args⟩
      · obtain ⟨manifest, earlier, built⟩ := kept.sound entry member row inside zone among ready
        exact ⟨manifest, List.mem_cons_of_mem _ earlier, built⟩
    refine ⟨recorded.put fun changed same => ?_, fun manifest => List.mem_cons_of_mem _⟩
    cases same
    have built := kept.built found
    exact ⟨built, fun _ => ⟨job.manifest, List.mem_cons_self, rfl⟩⟩
  | fail name condition =>
    obtain ⟨job, found, rfl⟩ := Option.map_eq_some_iff.mp happened
    refine ⟨kept.put fun changed same => ?_, fun _ => id⟩
    cases same
    have built := kept.built found
    have recorded := kept.recorded found
    exact ⟨built, recorded⟩
  | vanish name =>
    cases happened
    exact ⟨kept.put fun _ => nofun, fun _ => id⟩

theorem imports_inductive (distinct : DistinctNames images providers) :
    Machine.Inductive (Among images providers) (Store.Kept images providers)
      (Machine.Abides (importing images providers) Known) where
  launched := by
    intro state task input program _ among _ launched
    cases launched
    refine ⟨fun _ => False, fun _ => False.elim, ?_⟩
    cases input with
    | libvirt ctx image sources rawDisk => exact wp_mono (wpe_reconcile_libvirt among) fun _ _ _ => trivial
    | vsphere ctx image =>
      refine wp_mono (wpe_reconcile_vsphere among.1 fun source found => ?_) fun _ _ _ => trivial
      have imported := among.2
      rw [found] at imported
      simpa using imported
  served := by
    intro state task answer call next holds among running
    have kept := holds.1
    refine (holds.2 task _ running).served fun known meant permitted => ⟨kept.serve meant answer permitted, ?_⟩
    have later : ∀ stage, Known stage state.service → Known stage (state.service.serve answer call).2 :=
      fun _ meant => meant.mono fun _ member => (state.service.serve_finished answer call).symm ▸ member
    cases call with
    | getJob name => exact ⟨_, rfl, later _ (kept.learnt distinct meant answer name)⟩
    | listProviders =>
      refine ⟨known, ⟨rfl, fun list replied provider member => ?_⟩, later _ meant⟩
      cases (Delivery.outcome_reply replied nofun).2
      exact among provider member
    | _ => exact ⟨known, rfl, later _ meant⟩
  undisturbed := by
    intro state task answer call next other program holds _ running _ active
    exact (holds.2 other program active).stable fun known meant =>
      meant.mono fun _ member => (state.service.serve_finished answer call).symm ▸ member
  disturbed := by
    intro state event service holds _ happened
    obtain ⟨kept, more⟩ := holds.1.happen happened
    exact ⟨kept, fun task program active => (holds.2 task program active).stable fun known meant => meant.mono more⟩

/-- As long as no two targets in use share the name of their Jobs, a zone is reported
ready only after a Job for that very target has succeeded. -/
theorem ready_zones_have_own_jobs (images : ProviderClass → String → Prop) (providers : Provider → Prop)
    (distinct : DistinctNames images providers) (events : List importMachine.Event) (last : importMachine.State)
    (run : Machine.Run (Among images providers) (Machine.State.idle Store.empty) events last) :
    last.service.Sound :=
  ((imports_inductive distinct).run run (Machine.holds_idle ⟨nofun, nofun, nofun⟩)).1.sound

/-! ### Two providers of one name -/

/-- The provider of a tenant's site, with one pool. -/
def siteProvider (tenant : String) : Provider :=
  { metadata := { name := "site", namespaceName := some tenant }
    spec :=
      { providerClassRef := ⟨"libvirt"⟩
        capabilities := { storageClasses := [{ name := "fast", target := some ⟨[("pool", "images")], by decide⟩ }] } }
    status := some { failureDomains := [{ name := "host", attributes := { availableStorageClasses := ["fast"] } }] } }

def siteArtifact : BuildArtifactStatus :=
  { kind := .cloudImage, phase := .ready, osArtifactRef := "kairos", file := some "kairos.raw" }

/-- A pass of the workload for the tenant's provider, launched for the built image. -/
def sitePass (worker : Nat) : importMachine.Event :=
  .launch worker (.libvirt
    { providerName := some "site", importImage := "banlieue", importServiceAccount := "importer" } "kairos"
    [{ providerClass := "libvirt", kind := .url }] (some siteArtifact))

def serveSite (worker : Nat) (tenant : String) : importMachine.Event :=
  .serve worker ({ providers := [siteProvider tenant] } : Answer)

/-- The first tenant's pass makes a Job, which succeeds; the second tenant's pass comes
afterwards. -/
def importFor (first second : String) : List importMachine.Event :=
  [sitePass 0, serveSite 0 first, serveSite 0 first, serveSite 0 first, serveSite 0 first,
    .disturb (JobEvent.succeed "import-kairos-site-images"),
    sitePass 1, serveSite 1 second, serveSite 1 second, serveSite 1 second]

instance Store.decidableSound (store : Store) : Decidable store.Sound :=
  inferInstanceAs (Decidable (∀ entry ∈ store.published, ∀ row ∈ entry.2.2, ∀ zone ∈ row.zones, zone.ready = true → _))

/-- The second tenant's zone is reported ready for the first tenant's Job. -/
theorem tenants_share_job :
    ∃ last : importMachine.State,
      (Machine.State.idle Store.empty : importMachine.State).exec (importFor "tenant-a" "tenant-b") = some last ∧
      ¬ last.service.Sound := by
  have seen : ((Machine.State.idle Store.empty : importMachine.State).exec (importFor "tenant-a" "tenant-b")).any
      (fun last => !(Store.decidableSound last.service).decide) = true := by
    decide +kernel
  obtain ⟨last, executed, unsound⟩ := (Option.any_eq_true _ _).mp seen
  exact ⟨last, executed, @of_decide_eq_false _ (Store.decidableSound _) ((Bool.not_eq_true' _).mp unsound)⟩

def kairosOnLibvirt (providerClass : ProviderClass) (image : String) : Prop :=
  providerClass = .libvirt ∧ image = "kairos"

instance (providerClass : ProviderClass) (image : String) : Decidable (kairosOnLibvirt providerClass image) :=
  inferInstanceAs (Decidable (_ ∧ _))

theorem distinctNames_site : DistinctNames kairosOnLibvirt (· = siteProvider "tenant-a") := by
  have only : ∀ target, InUse kairosOnLibvirt (· = siteProvider "tenant-a") target →
      target = ⟨.libvirt, "kairos", "tenant-a", "site", "images"⟩ := by
    rintro ⟨_, _, _, _, zone⟩ ⟨⟨rfl, rfl⟩, _, rfl, -, rfl, rfl, member⟩
    have pools : zonesOf .libvirt (siteProvider "tenant-a") = ["images"] := by decide +kernel
    rw [pools, List.mem_singleton] at member
    cases member
    rfl
  intro first second firstUsed secondUsed _
  exact (only first firstUsed).trans (only second secondUsed).symm

theorem site_zone_ready :
    ∃ last : importMachine.State,
      Machine.Run (Among kairosOnLibvirt (· = siteProvider "tenant-a")) (Machine.State.idle Store.empty)
        (importFor "tenant-a" "tenant-a") last ∧
      (∃ entry ∈ last.service.published, ∃ row ∈ entry.2.2, ∃ zone ∈ row.zones, zone.ready = true) ∧
      last.service.Sound := by
  have seen : ((Machine.State.idle Store.empty : importMachine.State).execIf
      (Among kairosOnLibvirt (· = siteProvider "tenant-a")) (importFor "tenant-a" "tenant-a")).any
      (fun last => decide (∃ entry ∈ last.service.published, ∃ row ∈ entry.2.2, ∃ zone ∈ row.zones, zone.ready = true))
        = true := by
    decide +kernel
  obtain ⟨last, executed, ready⟩ := (Option.any_eq_true _ _).mp seen
  have run := Machine.Run.of_execIf executed
  exact ⟨last, run, of_decide_eq_true ready, ready_zones_have_own_jobs _ _ distinctNames_site _ last run⟩

end Banlieue.Image
