import Banlieue.Vm.Survey

namespace Banlieue.Vm

open Banlieue.Api Banlieue.Data Banlieue.Data.Program Banlieue.Infra Banlieue.Sdk Banlieue.Scheduler
open Banlieue.Controller (Error Action)

/-! # When a pass leaves a placement alone

Only the last part of a pass, which acts on the decision, can delete the machine's
infra machine or report its placement invalid.
-/

/-- The call deletes an infra machine of this machine, or reports its placement
invalid where its status does not say so yet. -/
def Call.Upsets (vm : VirtualMachine) : Call → Prop
  | .deleteInfra _ owner => owner = key vm
  | .applyStatus owner status =>
    owner = key vm ∧ PlacementInvalid status.conditions ∧
      ¬ PlacementInvalid (vm.status.getD {}).conditions
  | _ => False

/-- A part of a pass that does no such thing, whatever it is answered. -/
abbrev Spares {α : Type} (vm : VirtualMachine) (part : Pass α) : Prop :=
  Heeds (permitting fun call => ¬ call.Upsets vm) part

section Spares

variable {context : Context} {age : Nat} {cluster : Cluster} {vm : VirtualMachine} {call : Call}
  {α β : Type}

theorem spares_tolerates (vm : VirtualMachine) : Tolerates vm fun call => ¬ call.Upsets vm where
  reads call plain := by
    cases call with
    | deleteInfra | applyStatus => contradiction
    | now | getClassOpt | listClasses | getImage | listVms | getInfra | getSecret | getConfigMap
    | patchFinalizers | getClass | listProviders | storeState | applyInfra | patchInfraPower =>
      exact not_false
  finalizers _ := not_false
  power _ _ := not_false
  status _ same := fun ⟨_, invalid, valid⟩ => valid (same.mp invalid)

theorem spares_return {part : Pass Unit} (spares : Spares vm part) (action : Action) :
    Spares vm (do part; return action) :=
  Heeds.bind spares fun _ => rfl

variable {part : Pass α} {next : α → Pass β}

theorem Spares.not_made (spares : Spares vm part) (upsets : call.Upsets vm) : call ∉ (perform age part cluster).calls :=
  fun made => spares.makes.calls _ _ call made upsets

theorem Spares.returned (spares : Spares vm part)
    (upsets : call.Upsets vm) (made : call ∈ (perform age (part >>= next) cluster).calls) :
    ∃ value last calls, Returns age part cluster value last calls ∧ call ∈ (perform age (next value) last).calls :=
  (mem_calls_bind made).resolve_left (spares.not_made upsets)

theorem answered_of_upset {asked : Call} {wrap : KubeError → Error}
    {view : Reply asked → Except KubeError α} (upsets : call.Upsets vm)
    (made : call ∈ (perform age (Pass.require wrap asked view >>= next) cluster).calls) (harmless : ¬ asked.Upsets vm) :
    ∃ value, view (cluster.answering age asked).1 = .ok value ∧
      call ∈ (perform age (next value) (cluster.answering age asked).2).calls := by
  have spares : Spares vm (Pass.require wrap asked view) := heeds_require harmless
  obtain ⟨value, last, calls, returned, later⟩ := spares.returned upsets made
  obtain ⟨answered, rfl⟩ := answered_of_returns returned
  exact ⟨value, answered, later⟩

theorem found_eq_ok {value : Option α} {present : α} (given : Cluster.found value = .ok present) :
    value = some present := by
  cases value with
  | none => contradiction
  | some other =>
    cases given
    rfl

end Spares

/-! ## Only a decision can upset a placement -/

section Decision

variable {context : Context} {age : Nat} {cluster : Cluster} {vm : VirtualMachine} {call : Call}
  {namespaceName : String} {vmClass : VMClass} {image : VMImage} {providers : List Provider}
  {siblings : List VirtualMachine}

theorem decided_of_upset (upsets : call.Upsets vm)
    (made : call ∈ (perform age (placeVm context namespaceName vm vmClass image providers siblings) cluster).calls) :
    ∃ decision provider kind, schedule ⟨vm, vmClass, image, providers, siblings, cluster.classes⟩ = .ok decision ∧
      (providers.find? fun found => found.name == decision.providerName) = some provider ∧
      InfraKind.fromProviderClass decision.providerClass = some kind ∧
      call ∈ (perform age (settlePlacement context namespaceName vm vmClass image decision provider
        kind) cluster).calls := by
  obtain ⟨classes, answered, made⟩ := answered_of_upset upsets made not_false
  cases answered
  cases decided : schedule ⟨vm, vmClass, image, providers, siblings, cluster.classes⟩ with
  | error failure =>
    simp only [decided] at made
    have spares := heeds_patchSchedulingFailure (spares_tolerates vm) failure
    exact absurd made ((spares_return spares _).not_made upsets)
  | ok decision =>
    simp only [decided] at made
    cases chosen : providers.find? fun found => found.name == decision.providerName with
    | none =>
      simp only [chosen] at made
      exact absurd made List.not_mem_nil
    | some provider =>
      simp only [chosen] at made
      cases known : InfraKind.fromProviderClass decision.providerClass with
      | none =>
        simp only [known] at made
        have spares := heeds_patchInfraBuildFailure (spares_tolerates vm) (noBuilderText decision.providerClass)
        exact absurd made ((spares_return spares _).not_made upsets)
      | some kind =>
        simp only [known] at made
        exact ⟨decision, provider, kind, rfl, chosen, known, made⟩

theorem surveyed_of_upset (upsets : call.Upsets vm)
    (made : call ∈ (perform age (match pairingRefusal context vmClass image with
      | some refusal => do
        patchImageClassMismatch vm refusal
        return Action.requeueLong
      | none => do
        match ← contestedAddress context vm vmClass with
        | some duplicate =>
          blockOnDuplicateAddress vm duplicate
          return Action.requeueDefault
        | none => placeVm context namespaceName vm vmClass image providers siblings) cluster).calls) :
    pairingRefusal context vmClass image = none ∧
      (∃ calls, Returns age (contestedAddress context vm vmClass) cluster none cluster calls) ∧
      call ∈ (perform age (placeVm context namespaceName vm vmClass image providers siblings) cluster).calls := by
  cases paired : pairingRefusal context vmClass image with
  | some refusal =>
    simp only [paired] at made
    have spares := heeds_patchImageClassMismatch (spares_tolerates vm) refusal
    exact absurd made ((spares_return spares _).not_made upsets)
  | none =>
    simp only [paired] at made
    have checking : Spares vm (contestedAddress context vm vmClass) :=
      heeds_contestedAddress (spares_tolerates vm).reads not_false
    obtain ⟨found, checked, calls, checks, made⟩ := checking.returned upsets made
    cases state_of_contestedAddress checks
    cases found with
    | some duplicate =>
      have spares := heeds_blockOnDuplicateAddress (spares_tolerates vm) duplicate
      exact absurd made ((spares_return spares _).not_made upsets)
    | none => exact ⟨rfl, ⟨calls, checks⟩, made⟩

theorem exists_survey_of_upset (kept : vm.deleting = false) (upsets : call.Upsets vm)
    (made : call ∈ (perform age (reconcile context vm) cluster).calls) : ∃ survey : Survey context age cluster vm,
      call ∈ (perform age survey.settle survey.ensured).calls := by
  unfold reconcile at made
  cases inside : vm.metadata.namespaceName with
  | none =>
    simp only [inside] at made
    exact absurd made List.not_mem_nil
  | some namespaceName =>
    simp only [inside] at made
    cases active : vm.spec.paused with
    | true =>
      have spares (now : Timestamp) := heeds_pausedStatus (spares_tolerates vm) now
      have pausing : Spares vm (Pass.timestampNow >>= fun now => do
          Pass.applyStatus (key vm) (pausedStatus vm.status (generationOf vm) now)
          return Action.requeueLong) :=
        Heeds.bind (heeds_timestampNow (spares_tolerates vm).reads) fun now => spares_return (spares now) _
      simp only [active, if_true] at made
      exact absurd made (pausing.not_made upsets)
    | false =>
      simp only [active, kept, Bool.false_eq_true, if_false] at made
      have ensuring : Spares vm (Pass.ensureFinalizer vm vmFinalizer) :=
        heeds_patchFinalizers (spares_tolerates vm).finalizers
      obtain ⟨⟨⟩, ensured, ensureCalls, ensures, made⟩ := ensuring.returned upsets made
      obtain ⟨vmClass, classFound, made⟩ := answered_of_upset upsets made not_false
      obtain ⟨image, imageFound, made⟩ := answered_of_upset upsets made not_false
      obtain ⟨providers, listed, made⟩ := answered_of_upset upsets made not_false
      obtain ⟨siblings, read, made⟩ := answered_of_upset upsets made not_false
      cases listed
      cases read
      obtain ⟨paired, ⟨checkCalls, checks⟩, made⟩ := surveyed_of_upset upsets made
      obtain ⟨decision, provider, kind, decided, chosen, buildable, made⟩ := decided_of_upset upsets made
      exact ⟨⟨namespaceName, vmClass, image, decision, provider, kind, ensured, ensureCalls,
        checkCalls, inside, active, kept, ensures, found_eq_ok classFound, found_eq_ok imageFound,
        paired, checks, decided, chosen, buildable⟩, made⟩

end Decision

/-! ## What a decision does to a placement -/

namespace Survey

variable {context : Context} {age : Nat} {cluster : Cluster} {vm : VirtualMachine}
  (survey : Survey context age cluster vm) {drift : PlacementDriftReason}

theorem spares_inPlace (same : evaluate vm survey.decision = .inPlace) : Spares vm survey.settle := by
  unfold settle settlePlacement
  simp only [same]
  exact heeds_applyPlacement (spares_tolerates vm) fun _ _ _ => not_false

theorem spares_stickToOld (kept : evaluate vm survey.decision = .stickToOld) : Spares vm survey.settle := by
  unfold settle settlePlacement
  simp only [kept]
  exact heeds_mirrorOnlyPath (spares_tolerates vm) survey.kind

variable (surfaced : evaluate vm survey.decision = .surfaceOnly drift)

include surfaced

theorem spares_surfaceOnly (reported : PlacementInvalid (vm.status.getD {}).conditions) : Spares vm survey.settle := by
  unfold settle settlePlacement
  simp only [surfaced]
  refine spares_return (heeds_patchPlacementInvalid not_false ?_) _
  exact fun _ _ upsets => upsets.2.2 reported

theorem perform_surfaceOnly :
    perform age survey.settle survey.ensured =
      perform age (do patchPlacementInvalid vm drift; return Action.requeueDefault)
        survey.ensured := by
  unfold settle settlePlacement
  simp only [surfaced]

theorem upsets_surfaceOnly (unreported : ¬ PlacementInvalid (vm.status.getD {}).conditions) :
    ∃ call ∈ (perform age survey.settle survey.ensured).calls, call.Upsets vm := by
  rw [survey.perform_surfaceOnly surfaced]
  refine ⟨.applyStatus (key vm) _, mem_calls_first (List.mem_cons_of_mem _ List.mem_cons_self) _, rfl, ?_, unreported⟩
  refine placementInvalid_clearPaused.mpr ((placementInvalid_setCondition (by decide)).mpr ?_)
  exact status_findCondition_setCondition_self

omit surfaced

theorem perform_recreate (moved : evaluate vm survey.decision = .recreate drift) :
    perform age survey.settle survey.ensured =
      (perform age (do patchPlacementInvalid vm drift; return Action.requeueDefault)
        (survey.ensured.deleteInfra survey.kind (key vm)).2).after
        [.deleteInfra survey.kind (key vm)] := by
  unfold settle settlePlacement
  simp only [moved]
  exact returns_deleteExistingInfra.perform_bind _

theorem upsets_recreate (moved : evaluate vm survey.decision = .recreate drift) :
    ∃ call ∈ (perform age survey.settle survey.ensured).calls, call.Upsets vm := by
  rw [survey.perform_recreate moved]
  exact ⟨_, List.mem_cons_self, rfl⟩

/-- The recorded placement is that of the passing candidate with the least spread. -/
def StillFirst (placement : ScheduledPlacement) : Prop :=
  ∃ candidate, IsFirstLeast survey.inputs.spreadKey survey.inputs.candidates survey.inputs.passes
      candidate ∧ Matches placement (buildDecision survey.vmClass candidate.1 candidate.2)

theorem stillFirst_iff {placement : ScheduledPlacement} :
    survey.StillFirst placement ↔ Matches placement survey.decision := by
  obtain ⟨chosen, first, decided⟩ := schedule_eq_ok_iff.mp survey.decided
  constructor
  · intro ⟨candidate, least, same⟩
    rw [decided, ← least.unique first]
    exact same
  · intro same
    exact ⟨chosen, first, decided ▸ same⟩

/-- Nothing is done about the placement: the policy never does, the placement is the
one the scheduler would choose, or what would be reported is reported. -/
def LetsBe (placement : ScheduledPlacement) : Prop :=
  vm.spec.migrationPolicy = .never ∨ survey.StillFirst placement ∨
    vm.spec.migrationPolicy = .manual ∧ migrateAnnotationSet vm = false ∧
      PlacementInvalid (vm.status.getD {}).conditions

theorem settle_spares_iff {placement : ScheduledPlacement} (recorded : vm.scheduled = some placement) :
    (∀ call ∈ (perform age survey.settle survey.ensured).calls, ¬ call.Upsets vm) ↔ survey.LetsBe placement := by
  by_cases same : Matches placement survey.decision
  · have inPlace : evaluate vm survey.decision = .inPlace := by
      rw [evaluate_inPlace_iff, recorded]
      intro current member
      cases member
      exact same
    refine ⟨fun _ => .inr (.inl (survey.stillFirst_iff.mpr same)), fun _ call made upsets => ?_⟩
    exact (survey.spares_inPlace inPlace).not_made upsets made
  · obtain ⟨drift, -, action⟩ := evaluate_drifted recorded same
    simp only [LetsBe, survey.stillFirst_iff, same, false_or]
    cases policy : vm.spec.migrationPolicy with
    | never =>
      simp only [policy] at action
      refine ⟨fun _ => .inl rfl, fun _ call made upsets => ?_⟩
      exact (survey.spares_stickToOld action).not_made upsets made
    | automatic =>
      simp only [policy] at action
      obtain ⟨call, made, upsets⟩ := survey.upsets_recreate action
      exact ⟨fun spares => absurd upsets (spares call made), by simp⟩
    | manual =>
      simp only [policy, reduceCtorEq, false_or, true_and] at action ⊢
      cases asked : migrateAnnotationSet vm with
      | true =>
        simp only [asked, if_true] at action
        obtain ⟨call, made, upsets⟩ := survey.upsets_recreate action
        exact ⟨fun spares => absurd upsets (spares call made), by simp⟩
      | false =>
        simp only [asked, Bool.false_eq_true, if_false, true_and] at action ⊢
        constructor
        · intro spares
          by_contra unreported
          obtain ⟨call, made, upsets⟩ := survey.upsets_surfaceOnly action unreported
          exact spares call made upsets
        · intro reported call made upsets
          exact (survey.spares_surfaceOnly action reported).not_made upsets made

end Survey

/-- A pass over a scheduled machine that is not being deleted neither deletes its infra
machine nor newly reports its placement invalid, exactly if it comes to no decision or
its decision lets the placement be. -/
theorem pass_spares_placement_iff (context : Context) (age : Nat) (cluster : Cluster)
    (vm : VirtualMachine) (placement : ScheduledPlacement) (recorded : vm.scheduled = some placement)
    (kept : vm.deleting = false) :
    (∀ call ∈ (perform age (reconcile context vm) cluster).calls, ¬ call.Upsets vm) ↔
      ∀ survey : Survey context age cluster vm, survey.LetsBe placement := by
  constructor
  · intro spares survey
    rw [← survey.settle_spares_iff recorded]
    intro call made
    refine spares call ?_
    rw [survey.perform_reconcile]
    exact List.mem_append_right _ made
  · intro letsBe call made upsets
    obtain ⟨survey, settling⟩ := exists_survey_of_upset kept upsets made
    exact (survey.settle_spares_iff recorded).mpr (letsBe survey) call settling upsets

/-! ## A valid placement that is given up -/

def plainContext : Context where
  text := { trim := id, reprint := fun _ => none }
  firstBootSealing := true
  describe _ := "unavailable"

def hostDomain (name : String) : FailureDomain :=
  { name
    attributes := { availableStorageClasses := ["gold"], availableNetworkClasses := ["lan"] } }

def hostProvider (name providerClass : String) (domains : List String) : Provider :=
  { metadata := { name, namespaceName := some "prod" }
    spec := { providerClassRef := ⟨providerClass⟩ }
    status := some { failureDomains := domains.map hostDomain } }

def hostClass : VMClass :=
  { metadata := { name := "small" }
    spec :=
      { hardware :=
          { cpus := 1, memoryMiB := 1024
            disks := [{ name := "os", sizeGiB := 10, storageClass := "gold" }] }
        network := { interfaces := [{ name := "eth0", networkClass := "lan" }] } } }

def hostImage : VMImage :=
  { metadata := { name := "linux" }
    status := some
      { perProvider := ["p", "q"].map fun providerName =>
          { providerName, ready := true, resolvedRef := some "base" } } }

def hostedVm (name : String) (policy : MigrationPolicy) (placed : Option Decision) : VirtualMachine :=
  { metadata := { name, namespaceName := some "prod", finalizers := [vmFinalizer] }
    spec := { classRef := ⟨"small"⟩, imageRef := ⟨"linux"⟩, migrationPolicy := policy }
    status := placed.map fun decision => { scheduled := some (decision.toScheduledPlacement ⟨0⟩) } }

def twoHosts : Provider := hostProvider "p" "libvirt" ["p-a", "p-b"]

def onHost (domain : String) : Decision := buildDecision hostClass twoHosts (hostDomain domain)

/-- The infra machine applied for a decision. -/
def hostedInfra (vm : VirtualMachine) (decision : Decision) (provider : Provider) (kind : InfraKind) :
    List AppliedInfra :=
  match buildInfraMachine kind vm hostClass hostImage decision provider none with
  | .ok machine => [{ object := { machine }, networkClasses := ["lan"] }]
  | .error _ => []

/-- Both machines were placed on `p-a`, and `p-b` is free. -/
def crowded (policy : MigrationPolicy) : Cluster where
  now := ⟨30⟩
  vms :=
    { vms := [hostedVm "api" policy (some (onHost "p-a")), hostedVm "db" .never (some (onHost "p-a"))]
      distinct := by cases policy <;> decide }
  infra := hostedInfra (hostedVm "api" policy none) (onHost "p-a") twoHosts .libvirt
  classes := [hostClass]
  images := [hostImage]
  providers := [twoHosts]

theorem hostImage_paired : pairingRefusal plainContext hostClass hostImage = none := rfl

theorem onHost_buildable (domain : String) :
    InfraKind.fromProviderClass (onHost domain).providerClass = some .libvirt := rfl

def crowdedSurvey (policy : MigrationPolicy) :
    Survey plainContext 0 (crowded policy) (hostedVm "api" policy (some (onHost "p-a"))) where
  namespaceName := "prod"
  vmClass := hostClass
  image := hostImage
  decision := onHost "p-b"
  provider := twoHosts
  kind := .libvirt
  ensured := crowded policy
  ensureCalls := []
  checkCalls := []
  inNamespace := rfl
  active := rfl
  kept := rfl
  ensures := rfl
  classFound := rfl
  imageFound := rfl
  paired := hostImage_paired
  checks := rfl
  decided := by cases policy <;> rfl
  chosen := rfl
  buildable := onHost_buildable "p-b"

/-- The recorded host still passes every filter with the same storage and network,
and the pass deletes the infra machine, because the other host has become emptier. -/
theorem crowded_pass_deletes :
    (∃ candidate ∈ (crowdedSurvey .automatic).inputs.candidates,
      (crowdedSurvey .automatic).inputs.passes candidate = true ∧
        Matches ((onHost "p-a").toScheduledPlacement ⟨0⟩)
          (buildDecision hostClass candidate.1 candidate.2)) ∧
      ((crowded .automatic).infraAt .libvirt ("prod", "api")).isSome = true ∧
      Call.deleteInfra .libvirt ("prod", "api") ∈
        (perform 0 (reconcile plainContext (hostedVm "api" .automatic (some (onHost "p-a"))))
          (crowded .automatic)).calls := by
  refine ⟨⟨(twoHosts, hostDomain "p-a"), by decide, by decide, matches_toScheduledPlacement _ _⟩,
    by decide, ?_⟩
  have moved : evaluate (hostedVm "api" .automatic (some (onHost "p-a"))) (onHost "p-b") =
      .recreate (.failureDomainChanged "p" "p-a" "p-b") := by decide
  rw [(crowdedSurvey .automatic).perform_reconcile, (crowdedSurvey .automatic).perform_recreate moved]
  exact List.mem_append_right _ List.mem_cons_self

/-- The same machine under the policy `Never` stays. -/
theorem pass_spares_placement_never :
    (hostedVm "api" .never (some (onHost "p-a"))).scheduled =
        some ((onHost "p-a").toScheduledPlacement ⟨0⟩) ∧
      ∀ call ∈ (perform 0 (reconcile plainContext (hostedVm "api" .never (some (onHost "p-a"))))
        (crowded .never)).calls, ¬ call.Upsets (hostedVm "api" .never (some (onHost "p-a"))) :=
  ⟨rfl, (pass_spares_placement_iff plainContext 0 (crowded .never)
    (hostedVm "api" .never (some (onHost "p-a"))) ((onHost "p-a").toScheduledPlacement ⟨0⟩) rfl
    rfl).mpr fun _ => .inl rfl⟩

end Banlieue.Vm
