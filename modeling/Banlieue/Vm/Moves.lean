import Banlieue.Vm.InPlace

namespace Banlieue.Vm

open Banlieue.Api Banlieue.Data Banlieue.Data.Program Banlieue.Infra Banlieue.Sdk Banlieue.Scheduler
open Banlieue.Controller (Error Action)

/-! # Machines on the move

Passes over one machine, one after the other, while the scheduler keeps to its
decision.
-/

variable {context : Context} {age : Nat} {cluster : Cluster} {vm : VirtualMachine}

/-! ## What a pass leaves of its machine -/

/-- The machine is wanted as before. -/
structure SameDesire (before after : VirtualMachine) : Prop where
  spec : after.spec = before.spec
  annotations : after.metadata.annotations = before.metadata.annotations

theorem Cluster.find_applyStatus {owner : VmKey} {stored : VirtualMachine}
    (found : cluster.vms.find owner = some stored) (status : VirtualMachineStatus) :
    (cluster.applyStatus owner status).2.vms.find owner = some (Cluster.withStatus status stored) := by
  simp only [applyStatus, found, commit]
  rw [Snapshot.find_update, found]
  rfl

theorem Survey.find_ensured (survey : Survey context age cluster vm) (current : cluster.vms.find (key vm) = some vm) :
    ∃ stored, survey.ensured.vms.find (key vm) = some stored ∧ SameDesire vm stored := by
  have ensures := survey.ensures
  unfold Pass.ensureFinalizer Pass.patchFinalizers at ensures
  split at ensures
  · have same : cluster = survey.ensured := congrArg Performance.state ensures
    rw [← same]
    exact ⟨vm, current, rfl, rfl⟩
  · rename_i finalizers _
    obtain ⟨answered, state⟩ := answered_of_returns ensures
    change (cluster.patchFinalizers (key vm) finalizers).1 = .ok () at answered
    rw [state]
    change ∃ stored, (cluster.patchFinalizers (key vm) finalizers).2.vms.find (key vm) = some stored ∧ _
    simp only [Cluster.patchFinalizers, current, survey.kept, Bool.false_and, Bool.false_eq_true,
      if_false] at answered ⊢
    split at answered
    · rename_i accepted
      simp only [accepted, if_true, Cluster.commit]
      rw [Snapshot.find_update, current]
      exact ⟨_, rfl, rfl, rfl⟩
    · contradiction

theorem InPlacePass.find_after {survey : Survey context age cluster vm} (pass : InPlacePass survey)
    (current : cluster.vms.find (key vm) = some vm) :
    ∃ next, (perform age (reconcile context vm) cluster).state.vms.find (key vm) = some next ∧ SameDesire vm next ∧
      next.scheduled = some (survey.decision.toScheduledPlacement survey.ensured.now) := by
  obtain ⟨stored, found, same⟩ := survey.find_ensured current
  have applied : pass.applied.vms.find (key vm) = some stored := by
    rw [← found]
    simp only [applied, Cluster.applyInfra, Cluster.changeInfra]
    split <;> rfl
  rw [pass.state_reconcile, Cluster.find_applyStatus applied]
  exact ⟨_, rfl, ⟨same.spec, same.annotations⟩, rfl⟩

theorem Survey.find_after_recreate (survey : Survey context age cluster vm)
    {drift : PlacementDriftReason} (current : cluster.vms.find (key vm) = some vm)
    (moved : evaluate vm survey.decision = .recreate drift) :
    ∃ next, (perform age (reconcile context vm) cluster).state.vms.find (key vm) = some next ∧
      SameDesire vm next ∧ next.scheduled = vm.scheduled := by
  obtain ⟨stored, found, same⟩ := survey.find_ensured current
  have deleted : (survey.ensured.deleteInfra survey.kind (key vm)).2.vms.find (key vm) = some stored := by
    rw [← found]
    simp only [Cluster.deleteInfra, Cluster.eraseInfra, Cluster.changeInfra]
    split
    · rfl
    · split <;> rfl
  rw [survey.perform_reconcile, survey.perform_recreate moved]
  simp only [Performance.after]
  obtain ⟨result, last⟩ : ∃ result, perform age (patchPlacementInvalid vm drift >>= fun _ =>
      pure Action.requeueDefault) (survey.ensured.deleteInfra survey.kind (key vm)).2 =
        ⟨result, _, _⟩ := perform_bind_pure _ _
  obtain ⟨_, status, written, scheduled⟩ : ∃ result status, perform age (patchPlacementInvalid vm drift)
      (survey.ensured.deleteInfra survey.kind (key vm)).2 = ⟨result, _, _⟩ ∧ _ := perform_patchNotReady
  rw [last, written, Cluster.find_applyStatus deleted]
  refine ⟨_, rfl, ⟨same.spec, same.annotations⟩, ?_⟩
  change status.scheduled = vm.scheduled
  rw [scheduled, VirtualMachine.scheduled]
  cases vm.status <;> rfl

/-! ## Rounds -/

/-- Between two passes nobody else writes the machine.  What else changes does not
change the decision, nor that its infra machine can be built. -/
structure Rounds (context : Context) (owner : VmKey) where
  states : Nat → Cluster
  ages : Nat → Nat
  copies : Nat → VirtualMachine
  surveys : (round : Nat) → Survey context (ages round) (states round) (copies round)
  decision : Decision
  current : ∀ round, (states round).vms.find owner = some (copies round)
  follows : ∀ round, (states (round + 1)).vms.find owner =
    (perform (ages round) (reconcile context (copies round)) (states round)).state.vms.find owner
  decided : ∀ round, (surveys round).decision = decision
  buildable : ∀ round, evaluate (copies round) decision = .inPlace →
    Nonempty (InPlacePass (surveys round))

/-- The policy lets the machine move. -/
def Movable (vm : VirtualMachine) : Prop :=
  vm.spec.migrationPolicy = .automatic ∨
    vm.spec.migrationPolicy = .manual ∧ migrateAnnotationSet vm = true

theorem SameDesire.movable {before after : VirtualMachine} (same : SameDesire before after)
    (movable : Movable before) : Movable after := by
  rw [Movable, migrateAnnotationSet, same.spec, same.annotations]
  exact movable

variable {placement : ScheduledPlacement}

theorem Movable.evaluate {decision : Decision} (movable : Movable vm)
    (recorded : vm.scheduled = some placement) (drifted : ¬ Matches placement decision) :
    ∃ drift, evaluate vm decision = .recreate drift := by
  obtain ⟨drift, -, action⟩ := evaluate_drifted recorded drifted
  refine ⟨drift, ?_⟩
  rcases movable with automatic | ⟨manual, asked⟩
  · simp only [action, automatic]
  · simp only [action, manual, asked, if_true]

namespace Rounds

variable {owner : VmKey} (rounds : Rounds context owner)

def calls (round : Nat) : List Call :=
  (perform (rounds.ages round) (reconcile context (rounds.copies round)) (rounds.states round)).calls

/-- From that round on the machine is where the scheduler wants it. -/
structure SettledFrom (round : Nat) : Prop where
  applied : ∃ machine networkClasses, .applyInfra machine networkClasses ∈ rounds.calls round ∧
    machine.providerRef = ⟨rounds.decision.providerName⟩ ∧
    machine.failureDomain = some rounds.decision.failureDomainName
  recorded : ∃ placement, (rounds.copies (round + 1)).scheduled = some placement ∧
    Matches placement rounds.decision
  undeleted : ∀ later, round ≤ later → ∀ kind, .deleteInfra kind owner ∉ rounds.calls later

theorem key_copies (round : Nat) : key (rounds.copies round) = owner :=
  Snapshot.find_key (rounds.current round)

theorem current_copy (round : Nat) :
    (rounds.states round).vms.find (key (rounds.copies round)) = some (rounds.copies round) := by
  rw [rounds.key_copies]
  exact rounds.current round

variable {round : Nat}

theorem next_copy {next : VirtualMachine}
    (found : (perform (rounds.ages round) (reconcile context (rounds.copies round))
      (rounds.states round)).state.vms.find (key (rounds.copies round)) = some next) :
    rounds.copies (round + 1) = next := by
  rw [rounds.key_copies, ← rounds.follows, rounds.current] at found
  exact Option.some.inj found

theorem drifted_next (movable : Movable (rounds.copies round))
    (recorded : (rounds.copies round).scheduled = some placement) (drifted : ¬ Matches placement rounds.decision) :
    Movable (rounds.copies (round + 1)) ∧ (rounds.copies (round + 1)).scheduled = some placement := by
  obtain ⟨drift, moved⟩ := movable.evaluate recorded drifted
  rw [← rounds.decided round] at moved
  obtain ⟨next, found, same, scheduled⟩ := (rounds.surveys round).find_after_recreate (rounds.current_copy round) moved
  rw [rounds.next_copy found]
  exact ⟨same.movable movable, scheduled.trans recorded⟩

theorem drifted_always (movable : Movable (rounds.copies 0)) (recorded : (rounds.copies 0).scheduled = some placement)
    (drifted : ¬ Matches placement rounds.decision) (round : Nat) :
    Movable (rounds.copies round) ∧ (rounds.copies round).scheduled = some placement := by
  induction round with
  | zero => exact ⟨movable, recorded⟩
  | succ round ih => exact rounds.drifted_next ih.1 ih.2 drifted

theorem deletes_of_drifted (movable : Movable (rounds.copies round))
    (recorded : (rounds.copies round).scheduled = some placement) (drifted : ¬ Matches placement rounds.decision) :
    .deleteInfra (rounds.surveys round).kind owner ∈ rounds.calls round := by
  obtain ⟨drift, moved⟩ := movable.evaluate recorded drifted
  rw [← rounds.decided round] at moved
  have made : .deleteInfra (rounds.surveys round).kind (key (rounds.copies round)) ∈ rounds.calls round := by
    rw [calls, (rounds.surveys round).perform_reconcile, (rounds.surveys round).perform_recreate moved]
    exact List.mem_append_right _ List.mem_cons_self
  rwa [rounds.key_copies] at made

theorem inPlace_next (inPlace : evaluate (rounds.copies round) rounds.decision = .inPlace) :
    ∃ placement, (rounds.copies (round + 1)).scheduled = some placement ∧ Matches placement rounds.decision := by
  obtain ⟨pass⟩ := rounds.buildable round inPlace
  obtain ⟨next, found, -, scheduled⟩ := pass.find_after (rounds.current_copy round)
  rw [rounds.next_copy found, scheduled, rounds.decided round]
  exact ⟨_, rfl, matches_toScheduledPlacement _ _⟩

theorem inPlace_always (inPlace : evaluate (rounds.copies 0) rounds.decision = .inPlace) (round : Nat) :
    evaluate (rounds.copies round) rounds.decision = .inPlace := by
  induction round with
  | zero => exact inPlace
  | succ round ih =>
    obtain ⟨placement, recorded, same⟩ := rounds.inPlace_next ih
    rw [evaluate_inPlace_iff, recorded]
    intro current member
    cases member
    exact same

theorem undeleted_of_inPlace (inPlace : evaluate (rounds.copies round) rounds.decision = .inPlace) (kind : InfraKind) :
    .deleteInfra kind owner ∉ rounds.calls round := by
  obtain ⟨pass⟩ := rounds.buildable round inPlace
  intro made
  rcases pass.cases_of_made made rfl with impossible | impossible <;> contradiction

theorem settledFrom_zero (inPlace : evaluate (rounds.copies 0) rounds.decision = .inPlace) : rounds.SettledFrom 0 := by
  obtain ⟨pass⟩ := rounds.buildable 0 inPlace
  refine ⟨⟨pass.machine, pass.networkClasses, ?_, ?_, ?_⟩, rounds.inPlace_next inPlace, ?_⟩
  · rw [calls, pass.calls_reconcile]
    simp
  · rw [(buildInfraMachine_builtFrom pass.built).providerRef, rounds.decided]
  · rw [(buildInfraMachine_builtFrom pass.built).failureDomain, rounds.decided]
  · intro later _
    exact rounds.undeleted_of_inPlace (rounds.inPlace_always inPlace later)

end Rounds

/-- A machine that may move comes to rest where the scheduler wants it, exactly if it
was not placed elsewhere before. -/
theorem rounds_settle_iff (context : Context) (owner : VmKey) (rounds : Rounds context owner)
    (movable : Movable (rounds.copies 0)) :
    (∃ round, rounds.SettledFrom round) ↔
      ∀ placement ∈ (rounds.copies 0).scheduled, Matches placement rounds.decision := by
  constructor
  · intro ⟨round, settled⟩ placement recorded
    by_contra drifted
    obtain ⟨movable, recorded⟩ := rounds.drifted_always movable recorded drifted round
    exact settled.undeleted round le_rfl _ (rounds.deletes_of_drifted movable recorded drifted)
  · intro same
    exact ⟨0, rounds.settledFrom_zero (evaluate_inPlace_iff.mpr same)⟩

/-! ## A machine that arrives, and one that never does -/

/-- What the first pass publishes for a machine that is placed on `p-a`. -/
def arrivedStatus : VirtualMachineStatus :=
  let status := appliedStatus plainContext (hostedVm "api" .automatic none) hostClass (onHost "p-a")
    .libvirt "prod" { machine := .libvirt calmMachine } ⟨60⟩
  { status with conditions := clearPaused status.conditions }

def arrivingVm (arrived : Bool) : VirtualMachine :=
  { hostedVm "api" .automatic none with status := if arrived then some arrivedStatus else none }

def arriving (arrived : Bool) : Cluster where
  now := ⟨60⟩
  vms := { vms := [arrivingVm arrived], distinct := List.nodup_singleton _ }
  infra := if arrived then [{ object := { machine := .libvirt calmMachine }, networkClasses := ["lan"] }]
    else []
  classes := [hostClass]
  images := [hostImage]
  providers := [twoHosts]

def arrivingSurvey (arrived : Bool) :
    Survey plainContext 0 (arriving arrived) (arrivingVm arrived) where
  namespaceName := "prod"
  vmClass := hostClass
  image := hostImage
  decision := onHost "p-a"
  provider := twoHosts
  kind := .libvirt
  ensured := arriving arrived
  ensureCalls := []
  checkCalls := []
  inNamespace := rfl
  active := rfl
  kept := by cases arrived <;> rfl
  ensures := by cases arrived <;> rfl
  classFound := rfl
  imageFound := rfl
  paired := hostImage_paired
  checks := by cases arrived <;> rfl
  decided := by cases arrived <;> rfl
  chosen := rfl
  buildable := onHost_buildable "p-a"

def arrivingPass (arrived : Bool) : InPlacePass (arrivingSurvey arrived) where
  userData := none
  machine := .libvirt calmMachine
  userDataCalls := []
  inPlace := by cases arrived <;> decide
  resolved := by cases arrived <;> rfl
  built := by cases arrived <;> rfl

def arrivingRounds : Rounds plainContext ("prod", "api") where
  states round := arriving (round != 0)
  ages _ := 0
  copies round := arrivingVm (round != 0)
  surveys round := arrivingSurvey (round != 0)
  decision := onHost "p-a"
  current round := by cases round <;> rfl
  follows round := by
    rw [(arrivingPass (round != 0)).state_reconcile]
    cases round with
    | zero => decide
    | succ round =>
      change (arriving true).vms.find ("prod", "api") = ((arrivingPass true).applied.applyStatus
        ("prod", "api") (arrivingPass true).published).2.vms.find ("prod", "api")
      decide
  decided _ := rfl
  buildable round _ := ⟨arrivingPass (round != 0)⟩

theorem rounds_settle_arriving : ∃ round, arrivingRounds.SettledFrom round :=
  (rounds_settle_iff plainContext ("prod", "api") arrivingRounds (.inl rfl)).mpr (by
    intro placement recorded
    cases recorded)

/-- The machine of the crowded host, before and after its drift is reported. -/
def restlessVm (surfaced : Bool) : VirtualMachine :=
  let placed := hostedVm "api" .automatic (some (onHost "p-a"))
  if surfaced then { placed with status := some surfacedStatus } else placed

def restless (surfaced : Bool) : Cluster :=
  { crowded .automatic with
    vms :=
      { vms := [restlessVm surfaced, hostedVm "db" .never (some (onHost "p-a"))]
        distinct := by cases surfaced <;> decide } }

def restlessSurvey (surfaced : Bool) :
    Survey plainContext 0 (restless surfaced) (restlessVm surfaced) where
  namespaceName := "prod"
  vmClass := hostClass
  image := hostImage
  decision := onHost "p-b"
  provider := twoHosts
  kind := .libvirt
  ensured := restless surfaced
  ensureCalls := []
  checkCalls := []
  inNamespace := by cases surfaced <;> rfl
  active := by cases surfaced <;> rfl
  kept := by cases surfaced <;> rfl
  ensures := by cases surfaced <;> rfl
  classFound := by cases surfaced <;> rfl
  imageFound := by cases surfaced <;> rfl
  paired := hostImage_paired
  checks := by cases surfaced <;> rfl
  decided := by cases surfaced <;> rfl
  chosen := rfl
  buildable := onHost_buildable "p-b"

theorem restless_drifts (surfaced : Bool) :
    evaluate (restlessVm surfaced) (onHost "p-b") =
      .recreate (.failureDomainChanged "p" "p-a" "p-b") := by
  cases surfaced <;> decide

def restlessRounds : Rounds plainContext ("prod", "api") where
  states round := restless (round != 0)
  ages _ := 0
  copies round := restlessVm (round != 0)
  surveys round := restlessSurvey (round != 0)
  decision := onHost "p-b"
  current round := by cases round <;> rfl
  follows round := by
    rw [(restlessSurvey (round != 0)).perform_reconcile,
      (restlessSurvey (round != 0)).perform_recreate (restless_drifts _)]
    cases round with
    | zero => decide +kernel
    | succ round =>
      change (restless true).vms.find ("prod", "api") = (perform 0 (do
        patchPlacementInvalid (restlessVm true) (.failureDomainChanged "p" "p-a" "p-b")
        return Action.requeueDefault)
        ((restless true).deleteInfra .libvirt ("prod", "api")).2).state.vms.find ("prod", "api")
      decide +kernel
  decided _ := rfl
  buildable round inPlace := by
    rw [restless_drifts] at inPlace
    contradiction

/-- Nothing changes but what the passes do, and each of them deletes the infra machine
again: the record never follows the decision. -/
theorem restless_never_arrives :
    Movable (restlessRounds.copies 0) ∧
      ∀ round, .deleteInfra .libvirt ("prod", "api") ∈ restlessRounds.calls round ∧
        ¬ restlessRounds.SettledFrom round := by
  have movable : Movable (restlessRounds.copies 0) := .inl rfl
  have drifted : ¬ Matches ((onHost "p-a").toScheduledPlacement ⟨0⟩) (onHost "p-b") :=
    fun same => absurd same.failureDomain (by decide)
  refine ⟨movable, fun round => ?_⟩
  obtain ⟨moves, recorded⟩ := restlessRounds.drifted_always movable rfl drifted round
  have deleted := restlessRounds.deletes_of_drifted moves recorded drifted
  exact ⟨deleted, fun settled => settled.undeleted round le_rfl _ deleted⟩

end Banlieue.Vm
