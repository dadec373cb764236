import Banlieue.Scheduler.Specification
import Banlieue.Vm.Reconcile

namespace Banlieue.Vm

open Banlieue.Api Banlieue.Data Banlieue.Data.Program Banlieue.Infra Banlieue.Sdk Banlieue.Scheduler
open Banlieue.Controller (Error Action)

/-! # What a pass may ask for

Most calls of a pass only look something up.  Those that change the cluster are
about the pass's own machine, and an infra machine is applied only on the
strength of what was read before.
-/

/-- Calls that look something up and are not remembered. -/
def Call.plain : Call → Bool
  | .now | .getClassOpt _ | .listClasses | .getImage _ | .listVms _ | .getInfra _ _ | .getSecret _ _
  | .getConfigMap _ _ => true
  | _ => false

theorem findCondition_clearPaused {conditions : List Condition} {type : String} (different : type ≠ conditionPaused) :
    findCondition (clearPaused conditions) type = findCondition conditions type := by
  rw [findCondition, clearPaused, List.find?_filter]
  refine congrArg (fun test => conditions.find? test) (funext fun condition => ?_)
  by_cases here : condition.type = type
  · simp [here, different]
  · simp [here]

theorem placementInvalid_clearPaused {conditions : List Condition} :
    PlacementInvalid (clearPaused conditions) ↔ PlacementInvalid conditions :=
  placementInvalid_congr (findCondition_clearPaused (by decide))

variable {vmClass : VMClass} {namespaceName : String} {decision : Decision} {context : Context} {kind : InfraKind}

section Parts

variable {permitted : Call → Prop} {α : Type} {vm : VirtualMachine} {call : Call} {wrap : KubeError → Error}

@[simp]
theorem wpe_require {σ : Type} {rules : Rules σ Call Reply} {post : α → σ → Prop} {failed : Error → σ → Prop}
    {view : Reply call → Except KubeError α} :
    wpe rules (Pass.require wrap call view) post failed = fun stage => (rules call).pre stage ∧
      ∀ reply after, (rules call).post stage reply after →
        either post (fun reason => failed (wrap reason)) (view reply) after := by
  simp only [Pass.require, Pass.ask, wpe_bind, wpe_lift, wp_request]
  congr! 6 with stage reply
  cases view reply <;> rfl

attribute [local simp] Pass.ask Pass.timestampNow Pass.applyStatus Call.plain Option.forall

theorem heeds_require {view : Reply call → Except KubeError α}
    (allowed : permitted call) : Heeds (permitting permitted) (Pass.require wrap call view) := by
  simp [allowed]

theorem heeds_patchFinalizers {next : Option (List String)}
    (patches : ∀ finalizers, permitted (.patchFinalizers (key vm) finalizers)) :
    Heeds (permitting permitted) (Pass.patchFinalizers vm next) := by
  cases next <;> simp [Pass.patchFinalizers, patches]

theorem heeds_patchNotReady {current : VirtualMachineStatus}
    {set : Timestamp → List Condition → List Condition} {reason message : String} (clock : permitted .now)
    (writes : ∀ now status, (PlacementInvalid status.conditions ↔ PlacementInvalid (set now current.conditions)) →
        permitted (.applyStatus (key vm) status)) :
    Heeds (permitting permitted) (patchNotReady vm current set reason message) := by
  refine Heeds.bind (by simp [clock]) fun now => heeds_require (writes now _ ?_)
  exact placementInvalid_clearPaused.trans (placementInvalid_setCondition (by decide))

theorem heeds_patchPlacementInvalid {drift : PlacementDriftReason} (clock : permitted .now)
    (writes : ∀ status, PlacementInvalid status.conditions → permitted (.applyStatus (key vm) status)) :
    Heeds (permitting permitted) (patchPlacementInvalid vm drift) :=
  heeds_patchNotReady clock fun _ status written =>
    writes status (written.mpr status_findCondition_setCondition_self)

theorem heeds_deleteExistingInfra (deletes : permitted (.deleteInfra kind (key vm))) :
    Heeds (permitting permitted) (deleteExistingInfra kind vm) := by
  simp [deleteExistingInfra, deletes]

variable (reads : ∀ call, call.plain = true → permitted call)

include reads

theorem heeds_timestampNow : Heeds (permitting permitted) Pass.timestampNow := by simp_all

theorem heeds_getClasses (names : List String) : Heeds (permitting permitted) (getClasses names) := by
  induction names with
  | nil => rfl
  | cons name rest ih => simp_all [getClasses]

theorem heeds_contestedAddress (storeRead : permitted (.storeState vm)) :
    Heeds (permitting permitted) (contestedAddress context vm vmClass) := by
  have classes := heeds_getClasses reads
  simp_all [contestedAddress, duplicateAddress]

theorem heeds_existingInfra (kinds : List InfraKind) : Heeds (permitting permitted) (existingInfra vm kinds) := by
  induction kinds with
  | nil => rfl
  | cons kind rest ih => simp_all [existingInfra, getInfra]

theorem heeds_infraStates (kinds : List InfraKind) : Heeds (permitting permitted) (infraStates vm kinds) := by
  induction kinds with
  | nil => rfl
  | cons kind rest ih => simp_all [infraStates, infraState]

theorem heeds_resolveRenderedUserData (namespaceName : String) :
    Heeds (permitting permitted) (resolveRenderedUserData namespaceName vm) := by
  have secret (selector : KeySelector) : Heeds (permitting permitted) (resolveSecretData namespaceName selector) := by
    refine Heeds.bind (by simp_all) fun secret => ?_
    split
    · rfl
    · split <;> rfl
  have configMap (selector : KeySelector) :
      Heeds (permitting permitted) (resolveConfigMapData namespaceName selector) := by
    refine Heeds.bind (by simp_all) fun configMap => ?_
    split <;> rfl
  unfold resolveRenderedUserData
  split
  · rfl
  · split
    · rfl
    · split <;> simp_all

end Parts

/-! ## Parts that leave the placement alone -/

/-- What is permitted besides reads: to patch the machine's finalizers and the power
of its infra machine, and to write a status that says the same of the placement. -/
structure Tolerates (vm : VirtualMachine) (permitted : Call → Prop) : Prop where
  reads : ∀ call, call.plain = true → permitted call
  finalizers : ∀ finalizers, permitted (.patchFinalizers (key vm) finalizers)
  power : ∀ kind power, permitted (.patchInfraPower kind (key vm) power)
  status : ∀ status, (PlacementInvalid status.conditions ↔
    PlacementInvalid (vm.status.getD {}).conditions) → permitted (.applyStatus (key vm) status)

section Tolerated

variable {permitted : Call → Prop} {vm : VirtualMachine} (tolerated : Tolerates vm permitted)

include tolerated

theorem heeds_pausedStatus (now : Timestamp) : Heeds (permitting permitted)
      (Pass.applyStatus (key vm) (pausedStatus vm.status (generationOf vm) now)) := by
  refine heeds_require (tolerated.status _ ?_)
  exact (placementInvalid_setCondition (by decide)).trans (placementInvalid_setCondition (by decide))

theorem heeds_patchStatus {status : VirtualMachineStatus} (same : PlacementInvalid status.conditions ↔
    PlacementInvalid (vm.status.getD {}).conditions) : Heeds (permitting permitted) (patchStatus vm status) :=
  heeds_require (tolerated.status _ (placementInvalid_clearPaused.trans same))

theorem heeds_patchNotReady_same {current : VirtualMachineStatus}
    {set : Timestamp → List Condition → List Condition} {reason message : String}
    (same : ∀ now, PlacementInvalid (set now current.conditions) ↔ PlacementInvalid (vm.status.getD {}).conditions) :
    Heeds (permitting permitted) (patchNotReady vm current set reason message) :=
  heeds_patchNotReady (tolerated.reads _ rfl)
    fun now status written => tolerated.status status (written.trans (same now))

theorem heeds_patchSchedulingFailure (failure : ScheduleError) :
    Heeds (permitting permitted) (patchSchedulingFailure vm failure) :=
  heeds_patchNotReady_same tolerated fun _ => placementInvalid_setCondition (by decide)

theorem heeds_patchInfraBuildFailure (detail : String) :
    Heeds (permitting permitted) (patchInfraBuildFailure vm detail) :=
  heeds_patchNotReady_same tolerated fun _ => placementInvalid_setCondition (by decide)

theorem heeds_patchImageClassMismatch (refusal : PairingRefusal) :
    Heeds (permitting permitted) (patchImageClassMismatch vm refusal) :=
  heeds_patchNotReady_same tolerated fun _ => Iff.rfl

theorem heeds_blockOnDuplicateAddress (duplicate : DuplicateAddress) :
    Heeds (permitting permitted) (blockOnDuplicateAddress vm duplicate) := by
  refine Heeds.bind (heeds_existingInfra tolerated.reads _) fun found => ?_
  match found with
  | none => exact heeds_patchNotReady_same tolerated fun _ => Iff.rfl
  | some (kind, infra) =>
    have mirrored : Heeds (permitting permitted) (do
        let now ← Pass.timestampNow
        patchNotReady vm (mirrorOntoVm vm infra now) (fun _ conditions => conditions)
          reasonDuplicateAddress (duplicate.message ++ withheldNote) : Pass Unit) :=
      Heeds.bind (heeds_timestampNow tolerated.reads) fun now =>
        heeds_patchNotReady_same tolerated fun _ => placementInvalid_mirror
    dsimp only
    split
    · exact Heeds.bind (heeds_require (tolerated.power _ _)) fun _ => mirrored
    · exact mirrored

theorem heeds_mirrorOnlyPath (kind : InfraKind) : Heeds (permitting permitted) (mirrorOnlyPath kind vm) := by
  refine Heeds.bind (heeds_require (tolerated.reads _ rfl)) fun found => ?_
  cases found with
  | none => rfl
  | some infra =>
    refine Heeds.bind (heeds_timestampNow tolerated.reads) fun now => ?_
    exact Heeds.bind (heeds_patchStatus tolerated placementInvalid_mirror) fun _ => rfl

theorem heeds_appliedStatus (applied : InfraObject) :
    Heeds (permitting permitted) (do
      let now ← Pass.timestampNow
      patchStatus vm (appliedStatus context vm vmClass decision kind namespaceName applied now)
      return Action.requeueDefault : Pass Action) :=
  Heeds.bind (heeds_timestampNow tolerated.reads) fun _ =>
    Heeds.bind (heeds_patchStatus tolerated
      (placementInvalid_mirror.trans (placementInvalid_setCondition (by decide)))) fun _ => rfl

theorem heeds_applyPlacement {image : VMImage} {provider : Provider} (applies : ∀ userData machine,
      buildInfraMachine kind vm vmClass image decision provider userData = .ok machine → permitted (.applyInfra machine
          (vmClass.spec.network.interfaces.map NetworkInterfaceSpec.networkClass))) : Heeds (permitting permitted)
      (applyPlacement context namespaceName vm vmClass image decision provider kind) := by
  refine Heeds.bind (Heeds.lift (heeds_resolveRenderedUserData tolerated.reads _)) fun found => ?_
  cases found with
  | error reason => exact Heeds.bind (heeds_patchInfraBuildFailure tolerated _) fun _ => rfl
  | ok userData =>
    dsimp only
    cases built : buildInfraMachine kind vm vmClass image decision provider userData with
    | error reason => exact Heeds.bind (heeds_patchInfraBuildFailure tolerated _) fun _ => rfl
    | ok machine =>
      exact Heeds.bind (heeds_require (applies userData machine built)) fun applied => heeds_appliedStatus tolerated applied

theorem heeds_finalizeVm (deletes : ∀ kind, permitted (.deleteInfra kind (key vm))) :
    Heeds (permitting permitted) (finalizeVm vm) := by
  have deleteAll (kinds : List InfraKind) : Heeds (permitting permitted) (deleteAll vm kinds) := by
    induction kinds with
    | nil => rfl
    | cons kind rest ih =>
      refine Heeds.bind (Heeds.lift (heeds_deleteExistingInfra (deletes kind))) fun _ => ?_
      exact Heeds.bind ih fun _ => rfl
  refine Heeds.bind (heeds_infraStates tolerated.reads _) fun states => Heeds.bind (deleteAll _) fun failed => ?_
  split
  · exact Heeds.bind (heeds_patchFinalizers tolerated.finalizers) fun _ => rfl
  · rfl

end Tolerated

/-! ## The discipline -/

/-- What a pass has read: it started from a copy of its machine. -/
structure Learnt where
  copy : VirtualMachine
  vmClass : Option VMClass := none
  providers : Option (List Provider) := none
  /-- What the store showed, with the class the machine had then. -/
  store : Option (VMClass × List VirtualMachine) := none

namespace Learnt

variable (context : Context) (learnt : Learnt)

/-- Once an infra machine is applied, what was read is used up. -/
def after : (call : Call) → Reply call → Learnt
  | .getClass _, .ok vmClass => { learnt with vmClass := some vmClass }
  | .listProviders _, .ok providers => { learnt with providers := some providers }
  | .storeState _, .ok vms => { learnt with store := learnt.vmClass.map fun vmClass => (vmClass, vms) }
  | .storeState _, .error _ => { learnt with store := none }
  | .applyInfra _ _, _ => { copy := learnt.copy }
  | _, _ => learnt

/-- The machine declares no address, or the store showed nobody to contest one. -/
def Unopposed (vmClass : VMClass) : Prop :=
  learnt.copy.spec.networkOverrides = [] ∨
    ∃ vms, learnt.store = some (vmClass, vms) ∧ ∃ classes,
      findDuplicateAddress context.text learnt.copy (contendingVms context.text learnt.copy vms)
        (vmClass :: classes) = none

/-- An infra machine that what was read gives rise to. -/
def Places (machine : InfraMachine) (networkClasses : List String) : Prop :=
  ∃ vmClass, ∃ providers ∈ learnt.providers, ∃ provider ∈ providers, ∃ decision,
    InfraKind.fromProviderClass provider.spec.providerClassRef.name = some machine.kind ∧
      BuiltFrom machine.kind learnt.copy vmClass decision machine ∧
      networkClasses = vmClass.spec.network.interfaces.map NetworkInterfaceSpec.networkClass ∧
      learnt.Unopposed context vmClass

/-- Every change is one of the pass's own machine; an invalid placement stays reported. -/
def Permits : Call → Prop
  | .patchFinalizers vm _ | .deleteInfra _ vm | .patchInfraPower _ vm _ => vm = key learnt.copy
  | .applyStatus vm status =>
    vm = key learnt.copy ∧
      (PlacementInvalid (learnt.copy.status.getD {}).conditions → PlacementInvalid status.conditions)
  | .getClass name => name = learnt.copy.spec.classRef.name
  | .storeState reader => reader = learnt.copy
  | .applyInfra machine networkClasses => learnt.Places context machine networkClasses
  | _ => True

/-- A permitted call from which the pass learns nothing. -/
def Quiet (call : Call) : Prop :=
  learnt.Permits context call ∧ ∀ reply, learnt.after call reply = learnt

end Learnt

def discipline (context : Context) : Discipline Call Reply where
  Stage := Learnt
  permits learnt call := learnt.Permits context call
  expects _ _ _ := True
  advance learnt call reply after := after = learnt.after call reply

section Discipline

variable {context : Context} {learnt : Learnt} {α : Type} {post : α → Learnt → Prop}

/-- The discipline as rules. -/
@[simp]
abbrev learning (context : Context) : Rules Learnt Call Reply := fun call =>
  { pre learnt := learnt.Permits context call
    post learnt reply after := after = learnt.after call reply }

theorem quiet_tolerates : Tolerates learnt.copy (learnt.Quiet context) where
  reads call plain := by
    cases call with
    | now | getClassOpt | listClasses | getImage | listVms | getInfra | getSecret | getConfigMap =>
      exact ⟨trivial, fun _ => rfl⟩
    | patchFinalizers | getClass | listProviders | storeState | applyInfra | deleteInfra
    | patchInfraPower | applyStatus => contradiction
  finalizers _ := ⟨rfl, fun _ => rfl⟩
  power _ _ := ⟨rfl, fun _ => rfl⟩
  status _ same := ⟨⟨rfl, same.mpr⟩, fun _ => rfl⟩

theorem wpe_quiet {part : Pass α} (heeds : Heeds (permitting (learnt.Quiet context)) part)
    (reached : ∀ value, post value learnt) : wpe (learning context) part post (fun _ _ => True) learnt :=
  heeds.stays (fun _ quiet => ⟨quiet.1, fun reply _ moved => moved.trans (quiet.2 reply)⟩) reached fun _ => trivial

theorem wpe_learn {call : Call} {wrap : KubeError → Error} {view : Reply call → Except KubeError α}
    (permitted : learnt.Permits context call)
    (reached : ∀ reply value, view reply = .ok value → post value (learnt.after call reply)) :
    wpe (learning context) (Pass.require wrap call view) post (fun _ _ => True) learnt := by
  rw [wpe_require]
  refine ⟨permitted, fun reply after moved => ?_⟩
  rw [moved]
  exact either_intro (reached reply) fun _ _ => trivial

theorem wpe_contestedAddress {post : Option DuplicateAddress → Learnt → Prop} (classRead : learnt.vmClass = some vmClass)
    (reached : ∀ found store, (found = none → Learnt.Unopposed context { learnt with store := store } vmClass) →
      post found { learnt with store := store }) :
    wpe (learning context) (contestedAddress context learnt.copy vmClass) post (fun _ _ => True) learnt := by
  unfold contestedAddress
  split
  · rename_i bare
    exact reached none learnt.store fun _ => .inl (List.isEmpty_iff.mp bare)
  · rw [duplicateAddress, wpe_bind]
    refine wpe_learn rfl fun reply vms answered => ?_
    cases answered
    simp only [Learnt.after, classRead, Option.map_some]
    rw [← classRead]
    split
    · rename_i alone
      refine reached none _ fun _ => .inr ⟨vms, rfl, [], ?_⟩
      dsimp only
      rw [List.isEmpty_iff.mp alone]
      exact findDuplicateAddress_nil _ _ _
    · rw [wpe_bind]
      refine wpe_quiet (heeds_getClasses quiet_tolerates.reads _) fun others => ?_
      exact reached _ _ fun clear => .inr ⟨vms, rfl, others, clear⟩

theorem exists_provider_of_schedule {inputs : Inputs} (decided : schedule inputs = .ok decision) :
    ∃ provider ∈ inputs.providers, provider.spec.providerClassRef.name = decision.providerClass := by
  obtain ⟨candidate, first, rfl⟩ := schedule_eq_ok_iff.mp decided
  obtain ⟨provider, listed, domain⟩ := List.mem_flatMap.mp first.mem
  obtain ⟨failureDomain, -, rfl⟩ := List.mem_map.mp domain
  exact ⟨provider, listed, rfl⟩

section Placing

variable {namespaceName : String} {vmClass : VMClass} {image : VMImage} {decision : Decision}
  {provider : Provider} {kind : InfraKind}
  (places : ∀ machine, BuiltFrom kind learnt.copy vmClass decision machine →
    learnt.Places context machine
      (vmClass.spec.network.interfaces.map NetworkInterfaceSpec.networkClass))

include places

theorem wpe_applyPlacement :
    wpe (learning context) (applyPlacement context namespaceName learnt.copy vmClass image decision provider kind)
      (fun _ _ => True) (fun _ _ => True) learnt := by
  have tolerated : Tolerates learnt.copy (learnt.Quiet context) := quiet_tolerates
  have refused (detail : String) : Heeds (permitting (learnt.Quiet context)) (do
      patchInfraBuildFailure learnt.copy detail
      return requeueOnError : Pass Action) :=
    Heeds.bind (heeds_patchInfraBuildFailure tolerated detail) fun _ => rfl
  rw [applyPlacement, wpe_bind]
  refine wpe_quiet (Heeds.lift (heeds_resolveRenderedUserData tolerated.reads _)) fun found => ?_
  cases found with
  | error reason => exact wpe_quiet (refused _) fun _ => trivial
  | ok userData =>
    dsimp only
    cases built : buildInfraMachine kind learnt.copy vmClass image decision provider userData with
    | error reason => exact wpe_quiet (refused _) fun _ => trivial
    | ok machine =>
      dsimp only
      rw [wpe_bind]
      refine wpe_learn (places machine (buildInfraMachine_builtFrom built)) fun _ object _ => ?_
      have tolerated : Tolerates _ (Learnt.Quiet context { copy := learnt.copy }) := quiet_tolerates
      exact wpe_quiet (heeds_appliedStatus tolerated object) fun _ => trivial

theorem wpe_settlePlacement :
    wpe (learning context) (settlePlacement context namespaceName learnt.copy vmClass image decision provider kind)
      (fun _ _ => True) (fun _ _ => True) learnt := by
  have tolerated : Tolerates learnt.copy (learnt.Quiet context) := quiet_tolerates
  have surfaced (drift : PlacementDriftReason) : Heeds (permitting (learnt.Quiet context)) (do
      patchPlacementInvalid learnt.copy drift
      return Action.requeueDefault : Pass Action) := by
    refine Heeds.bind (heeds_patchPlacementInvalid (tolerated.reads _ rfl) ?_) fun _ => rfl
    exact fun _ invalid => ⟨⟨rfl, fun _ => invalid⟩, fun _ => rfl⟩
  unfold settlePlacement
  cases evaluate learnt.copy decision with
  | inPlace => exact wpe_applyPlacement places
  | stickToOld => exact wpe_quiet (heeds_mirrorOnlyPath tolerated kind) fun _ => trivial
  | surfaceOnly drift => exact wpe_quiet (surfaced drift) fun _ => trivial
  | recreate drift =>
    refine wpe_quiet (Heeds.bind (heeds_deleteExistingInfra ⟨rfl, fun _ => rfl⟩) fun _ => ?_) fun _ => trivial
    exact surfaced drift

end Placing

theorem wpe_placeVm {image : VMImage} {providers : List Provider} {siblings : List VirtualMachine}
    (listed : learnt.providers = some providers) (unopposed : learnt.Unopposed context vmClass) :
    wpe (learning context) (placeVm context namespaceName learnt.copy vmClass image providers siblings)
      (fun _ _ => True) (fun _ _ => True) learnt := by
  have tolerated : Tolerates learnt.copy (learnt.Quiet context) := quiet_tolerates
  rw [placeVm, wpe_bind]
  refine wpe_quiet (heeds_require (tolerated.reads _ rfl)) fun classes => ?_
  cases decided : schedule ⟨learnt.copy, vmClass, image, providers, siblings, classes⟩ with
  | error failure =>
    exact wpe_quiet (Heeds.bind (heeds_patchSchedulingFailure tolerated failure) fun _ => rfl) fun _ => trivial
  | ok decision =>
    dsimp only
    split
    · trivial
    · split
      · exact wpe_quiet (Heeds.bind (heeds_patchInfraBuildFailure tolerated _) fun _ => rfl) fun _ => trivial
      · rename_i kind known
        refine wpe_settlePlacement fun machine built => ?_
        obtain ⟨provider, member, named⟩ := exists_provider_of_schedule decided
        refine ⟨vmClass, providers, listed, provider, member, decision, ?_, ?_, rfl, unopposed⟩
        · rw [named, known, built.kind]
        · rw [built.kind]
          exact built

variable (context : Context) (vm : VirtualMachine)

theorem wpe_reconcile :
    wpe (learning context) (reconcile context vm) (fun _ _ => True) (fun _ _ => True) { copy := vm } := by
  have tolerated : Tolerates vm (Learnt.Quiet context { copy := vm }) := @quiet_tolerates context { copy := vm }
  unfold reconcile
  split
  · trivial
  split
  · refine wpe_quiet (Heeds.bind (heeds_timestampNow tolerated.reads) fun now => ?_) fun _ => trivial
    exact Heeds.bind (heeds_pausedStatus tolerated now) fun _ => rfl
  split
  · exact wpe_quiet (heeds_finalizeVm tolerated fun _ => ⟨rfl, fun _ => rfl⟩) fun _ => trivial
  rw [wpe_bind]
  refine wpe_quiet (heeds_patchFinalizers tolerated.finalizers) fun _ => ?_
  rw [wpe_bind]
  refine wpe_learn rfl fun _ vmClass answered => ?_
  cases answered
  rw [wpe_bind]
  refine wpe_quiet (heeds_require (quiet_tolerates.reads _ rfl)) fun image => ?_
  rw [wpe_bind]
  refine wpe_learn trivial fun _ providers answered => ?_
  cases answered
  rw [wpe_bind]
  refine wpe_quiet (heeds_require (quiet_tolerates.reads _ rfl)) fun siblings => ?_
  split
  · refine wpe_quiet (Heeds.bind ?_ fun _ => rfl) fun _ => trivial
    exact heeds_patchImageClassMismatch quiet_tolerates _
  rw [wpe_bind]
  let read : Learnt := { copy := vm, vmClass := some vmClass, providers := some providers }
  refine @wpe_contestedAddress vmClass context read _ rfl fun found store clear => ?_
  cases found with
  | some duplicate =>
    refine wpe_quiet (Heeds.bind ?_ fun _ => rfl) fun _ => trivial
    exact heeds_blockOnDuplicateAddress quiet_tolerates duplicate
  | none => exact @wpe_placeVm vmClass _ context { read with store := store } _ _ _ rfl (clear rfl)

theorem obeys_reconcile :
    (reconcile context vm).run.Obeys (discipline context) (fun _ _ => True) { copy := vm } :=
  obeys_of_wp (fun _ _ => id) (fun _ _ _ _ => ⟨_, rfl, rfl⟩) (wp_mono (wpe_reconcile context vm) fun _ _ _ => trivial)

theorem Learnt.copy_after (learnt : Learnt) (call : Call) (reply : Reply call) :
    (learnt.after call reply).copy = learnt.copy := by
  unfold after
  split <;> rfl

theorem makes_reconcile : Makes (fun call => ∃ learnt : Learnt, learnt.copy = vm ∧ learnt.Permits context call)
      (reconcile context vm).run :=
  Heeds.makes (heeds_of_wpe (fun learnt => learnt.copy = vm) (wpe_reconcile context vm) rfl
    (fun learnt _ own permitted => ⟨learnt, own, permitted⟩)
    fun learnt call reply own => ⟨_, rfl, (learnt.copy_after call reply).trans own⟩)

end Discipline

end Banlieue.Vm
