import Banlieue.Vm.Placement

namespace Banlieue.Vm

open Banlieue.Api Banlieue.Data Banlieue.Data.Program Banlieue.Infra Banlieue.Sdk Banlieue.Scheduler
open Banlieue.Controller (Error Action)

/-! # A pass that stays

A machine whose placement is in place has its infra machine applied and the status of
it mirrored.
-/

/-- What the API server answers to the apply of an infra machine. -/
def Cluster.appliedObject (cluster : Cluster) (machine : InfraMachine) (networkClasses : List String) :
    InfraObject :=
  let fresh := AppliedInfra.fresh machine networkClasses
  match cluster.infraAt machine.kind fresh.key with
  | some applied => (Cluster.reapply machine networkClasses applied).object
  | none => fresh.object

theorem Cluster.applyInfra_answer (cluster : Cluster) (machine : InfraMachine) (networkClasses : List String) :
    (cluster.applyInfra machine networkClasses).1 = .ok (cluster.appliedObject machine networkClasses) := by
  simp only [applyInfra, appliedObject]
  cases cluster.infraAt machine.kind _ <;> rfl

theorem Cluster.applyInfra_now (cluster : Cluster) (machine : InfraMachine) (networkClasses : List String) :
    (cluster.applyInfra machine networkClasses).2.now = cluster.now := by
  simp only [applyInfra, changeInfra]
  split <;> rfl

variable {context : Context} {age : Nat} {cluster : Cluster} {vm : VirtualMachine}

/-- The placement is in place, and its infra machine can be built. -/
structure InPlacePass (survey : Survey context age cluster vm) where
  userData : Option String
  machine : InfraMachine
  userDataCalls : List Call
  inPlace : evaluate vm survey.decision = .inPlace
  resolved : Returns age (resolveRenderedUserData survey.namespaceName vm) survey.ensured userData
    survey.ensured userDataCalls
  built : buildInfraMachine survey.kind vm survey.vmClass survey.image survey.decision survey.provider
    userData = .ok machine

namespace InPlacePass

variable {survey : Survey context age cluster vm} (pass : InPlacePass survey)

def networkClasses (_ : InPlacePass survey) : List String :=
  survey.vmClass.spec.network.interfaces.map NetworkInterfaceSpec.networkClass

/-- The infra machine the pass finds once it has applied it. -/
def infra : InfraObject := survey.ensured.appliedObject pass.machine pass.networkClasses

def applied : Cluster := (survey.ensured.applyInfra pass.machine pass.networkClasses).2

/-- The status the pass publishes. -/
def published : VirtualMachineStatus :=
  let status := appliedStatus context vm survey.vmClass survey.decision survey.kind
    survey.namespaceName pass.infra survey.ensured.now
  { status with conditions := clearPaused status.conditions }

theorem perform_settle :
    ∃ result, perform age survey.settle survey.ensured =
      { result := result
        state := (pass.applied.applyStatus (key vm) pass.published).2
        calls := pass.userDataCalls ++ [.applyInfra pass.machine pass.networkClasses, .now,
          .applyStatus (key vm) pass.published] } := by
  have apply : Returns age
      (Pass.require .sdk (.applyInfra pass.machine pass.networkClasses) id) survey.ensured pass.infra
      pass.applied [.applyInfra pass.machine pass.networkClasses] :=
    returns_require (Cluster.applyInfra_answer _ _ _)
  have clock : Returns age Pass.timestampNow pass.applied survey.ensured.now pass.applied [.now] :=
    congrArg (fun now => (⟨.ok now, pass.applied, [.now]⟩ : Performance Call Cluster (Except Error _)))
      (Cluster.applyInfra_now survey.ensured pass.machine pass.networkClasses)
  unfold Survey.settle settlePlacement
  simp only [pass.inPlace]
  unfold applyPlacement
  rw [perform, (returns_attempt pass.resolved).perform_bind]
  simp only [pass.built]
  change ∃ result, Performance.after (Program.perform _ (Pass.require .sdk
    (.applyInfra pass.machine pass.networkClasses) id >>= _).run _) _ = _
  rw [apply.perform_bind, clock.perform_bind]
  obtain ⟨written, write⟩ : ∃ result, perform age (Pass.applyStatus (key vm) pass.published)
      pass.applied = ⟨result, _, _⟩ := perform_require
  obtain ⟨result, last⟩ : ∃ result, perform age (Pass.applyStatus (key vm) pass.published >>= fun _ =>
      pure Action.requeueDefault) pass.applied = ⟨result, _, _⟩ := perform_bind_pure _ _
  rw [write] at last
  refine ⟨result, ?_⟩
  change Performance.after (Performance.after (Performance.after (perform age
    (Pass.applyStatus (key vm) pass.published >>= fun _ => pure Action.requeueDefault) pass.applied) _) _) _ = _
  rw [last]
  rfl

theorem calls_reconcile : (perform age (reconcile context vm) cluster).calls =
      survey.calls ++ (pass.userDataCalls ++ [Call.applyInfra pass.machine pass.networkClasses, .now,
        .applyStatus (key vm) pass.published]) := by
  obtain ⟨result, settled⟩ := pass.perform_settle
  rw [survey.perform_reconcile, settled]
  rfl

theorem state_reconcile : (perform age (reconcile context vm) cluster).state =
      (pass.applied.applyStatus (key vm) pass.published).2 := by
  obtain ⟨result, settled⟩ := pass.perform_settle
  rw [survey.perform_reconcile, settled]
  rfl

theorem cases_of_made {call : Call} (made : call ∈ (perform age (reconcile context vm) cluster).calls)
    (effect : call.preliminary = false) : call = .applyInfra pass.machine pass.networkClasses ∨
      call = .applyStatus (key vm) pass.published := by
  have resolves : Makes (fun call : Call => call.preliminary = true)
      (resolveRenderedUserData survey.namespaceName vm).run :=
    (heeds_resolveRenderedUserData (fun _ => Call.preliminary_of_plain) _).makes
  have resolved := resolves.calls (Cluster.answering age) survey.ensured
  rw [pass.resolved] at resolved
  rw [pass.calls_reconcile] at made
  simp only [List.mem_append, List.mem_cons, List.not_mem_nil, or_false] at made
  rcases made with way | data | rfl | rfl | rfl
  · rw [survey.preliminary_calls call way] at effect
    contradiction
  · rw [resolved call data] at effect
    contradiction
  · exact .inl rfl
  · contradiction
  · exact .inr rfl

theorem ready_published_iff (infraReady : isConditionTrue pass.infra.conditions ConditionTypes.ready = true) :
    (findCondition pass.published.conditions ConditionTypes.ready).map Condition.status = some ConditionStatus.true ↔
      ¬ PlacementInvalid (vm.status.getD {}).conditions := by
  have scheduled (now : Timestamp) :
      PlacementInvalid (setCondition (vm.status.getD {}).conditions ConditionTypes.scheduled
        ConditionStatus.true "Scheduled" "VirtualMachine scheduled successfully" (generationOf vm)
        now) ↔ PlacementInvalid (vm.status.getD {}).conditions :=
    placementInvalid_setCondition (by decide)
  simp only [published]
  rw [findCondition_clearPaused (by decide), ← scheduled survey.ensured.now]
  exact ready_mirror_iff status_findCondition_setCondition_self infraReady

end InPlacePass

/-- A pass that finds its machine in place and the infra machine ready publishes
`Ready`, exactly if the status it started from does not report the placement invalid;
and where it does, no pass, whatever it is answered, publishes a status without it. -/
theorem in_place_pass_ready_iff (context : Context) (age : Nat) (cluster : Cluster)
    (vm : VirtualMachine) (survey : Survey context age cluster vm) (pass : InPlacePass survey)
    (infraReady : isConditionTrue pass.infra.conditions ConditionTypes.ready = true) :
    ((∃ status, .applyStatus (key vm) status ∈ (perform age (reconcile context vm) cluster).calls ∧
        (findCondition status.conditions ConditionTypes.ready).map Condition.status =
          some ConditionStatus.true) ↔
      ¬ PlacementInvalid (vm.status.getD {}).conditions) ∧
    (PlacementInvalid (vm.status.getD {}).conditions →
      Makes (fun call => ∀ owner status, call = .applyStatus owner status →
        PlacementInvalid status.conditions) (reconcile context vm).run) := by
  refine ⟨?_, ?_⟩
  · rw [← pass.ready_published_iff infraReady]
    constructor
    · intro ⟨status, made, ready⟩
      rcases pass.cases_of_made made rfl with impossible | written
      · contradiction
      · cases written
        exact ready
    · intro ready
      refine ⟨pass.published, ?_, ready⟩
      rw [pass.calls_reconcile]
      simp
  · intro invalid
    refine (makes_reconcile context vm).mono ?_
    rintro _ ⟨learnt, rfl, permitted⟩ owner status rfl
    exact permitted.2 invalid

/-! ## A report that outlives its cause -/

def readyCondition : Condition :=
  { type := ConditionTypes.ready, status := ConditionStatus.true, reason := "Provisioned", message := ""
    observedGeneration := none, lastTransitionTime := ⟨0⟩ }

/-- What a pass leaves that only reports the drift from `p-a` to `p-b`. -/
def surfacedConditions : List Condition :=
  let drift : PlacementDriftReason := .failureDomainChanged "p" "p-a" "p-b"
  setCondition
    (setCondition [] ConditionTypes.placementValid ConditionStatus.false drift.reason drift.message 0
      ⟨30⟩)
    ConditionTypes.ready ConditionStatus.false "PlacementInvalid"
    "current placement no longer satisfies the spec" 0 ⟨30⟩

def surfacedStatus : VirtualMachineStatus where
  scheduled := some ((onHost "p-a").toScheduledPlacement ⟨0⟩)
  conditions := clearPaused surfacedConditions
  observedGeneration := some 0

def manualVm (surfaced : Bool) : VirtualMachine :=
  let placed := hostedVm "api" .manual (some (onHost "p-a"))
  if surfaced then { placed with status := some surfacedStatus } else placed

/-- The machine is alone again, and its infra machine is ready. -/
def calm (surfaced : Bool) : Cluster where
  now := ⟨60⟩
  vms := { vms := [manualVm surfaced], distinct := List.nodup_singleton _ }
  infra := (hostedInfra (manualVm false) (onHost "p-a") twoHosts .libvirt).map
    fun applied => { applied with object.status := some { conditions := [readyCondition] } }
  classes := [hostClass]
  images := [hostImage]
  providers := [twoHosts]

def calmSurvey (surfaced : Bool) : Survey plainContext 0 (calm surfaced) (manualVm surfaced) where
  namespaceName := "prod"
  vmClass := hostClass
  image := hostImage
  decision := onHost "p-a"
  provider := twoHosts
  kind := .libvirt
  ensured := calm surfaced
  ensureCalls := []
  checkCalls := []
  inNamespace := by cases surfaced <;> rfl
  active := by cases surfaced <;> rfl
  kept := by cases surfaced <;> rfl
  ensures := by cases surfaced <;> rfl
  classFound := by cases surfaced <;> rfl
  imageFound := by cases surfaced <;> rfl
  paired := hostImage_paired
  checks := by cases surfaced <;> rfl
  decided := by cases surfaced <;> rfl
  chosen := rfl
  buildable := onHost_buildable "p-a"

def calmMachine : LibvirtMachine where
  metadata := infraMetadata (manualVm false)
  spec :=
    { providerId := none
      failureDomain := some "p-a"
      providerRef := ⟨"p"⟩
      pool := "gold"
      domainName := domainNameFor (manualVm false)
      bootSource := { kind := .backingVolume, volume := "base" }
      vcpus := 1
      memoryMiB := 1024
      firmware := .efi
      machineType := none
      tpmEnabled := false
      disks := [{ name := "os", sizeGiB := 10, bus := .virtio }]
      network := [libvirtNic (manualVm false) twoHosts ⟨"eth0", "lan", {}⟩ ⟨"lan", "lan"⟩]
      userData := none
      desiredPowerState := .poweredOn
      firstBootSealing := none }

def calmPass (surfaced : Bool) : InPlacePass (calmSurvey surfaced) where
  userData := none
  machine := .libvirt calmMachine
  userDataCalls := []
  inPlace := by cases surfaced <;> decide
  resolved := by cases surfaced <;> rfl
  built := by cases surfaced <;> rfl

/-- Without the report the same pass publishes `Ready`. -/
theorem in_place_pass_ready_unreported :
    ∃ status, .applyStatus ("prod", "api") status ∈
        (perform 0 (reconcile plainContext (manualVm false)) (calm false)).calls ∧
      (findCondition status.conditions ConditionTypes.ready).map Condition.status =
        some ConditionStatus.true :=
  (in_place_pass_ready_iff plainContext 0 (calm false) (manualVm false) (calmSurvey false)
    (calmPass false) (by decide)).1.mpr (by decide)

/-- Drift that was only surfaced is over; the placement is in place, the infra machine
is ready, and the machine is still not. -/
theorem surfaced_drift_keeps_unready :
    .applyStatus ("prod", "api") surfacedStatus ∈
        (perform 0 (reconcile plainContext (manualVm false)) (crowded .manual)).calls ∧
      isConditionTrue (calmPass true).infra.conditions ConditionTypes.ready = true ∧
      ∀ later, .applyStatus ("prod", "api") later ∈
          (perform 0 (reconcile plainContext (manualVm true)) (calm true)).calls →
        (findCondition later.conditions ConditionTypes.ready).map Condition.status =
          some ConditionStatus.false := by
  refine ⟨?_, by decide, fun later made => ?_⟩
  · have surfaced : evaluate (manualVm false) (onHost "p-b") =
        .surfaceOnly (.failureDomainChanged "p" "p-a" "p-b") := by decide
    change _ ∈ (perform 0 (reconcile plainContext (hostedVm "api" .manual (some (onHost "p-a")))) _).calls
    rw [(crowdedSurvey .manual).perform_reconcile, (crowdedSurvey .manual).perform_surfaceOnly surfaced]
    exact List.mem_append_right _ (mem_calls_first (List.mem_cons_of_mem _ List.mem_cons_self) _)
  · rcases (calmPass true).cases_of_made made rfl with impossible | written
    · contradiction
    · cases written
      decide

end Banlieue.Vm
