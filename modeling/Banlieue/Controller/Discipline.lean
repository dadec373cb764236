import Banlieue.Claim.Reconcile
import Banlieue.Pool.Reconcile

namespace Banlieue.Controller

open Banlieue.Api Banlieue.Data Banlieue.Data.Program Banlieue.Claim Banlieue.Pool Banlieue.Sdk

/-! # What the reconcile passes keep to

A stage says what a pass has learnt from the API server so far; the discipline
says which calls it may make with that knowledge.
-/

inductive Progress where
  | started
  | listed (members : List VirtualMachine)
  | read (members : List VirtualMachine) (member : String) (object : Versioned VirtualMachine)
  | bound (member : String)
  /-- The API server has said that the bound member does not exist. -/
  | gone

/-- A pass of a pool has listed the members or not; a pass of a claim works from
one cached copy throughout. -/
inductive Stage where
  | pool (name : String) (listed : Option (List VirtualMachine))
  | claim (copy : VirtualMachineClaim) (progress : Progress)

/-- A pool's pass deletes only what its list shows without a claim label. -/
def Call.PermittedToPool (name : String) (listed : Option (List VirtualMachine)) : Call → Prop
  | .now | .getImage _ | .applyPoolStatus _ _ => True
  | .listVms pool => pool = name
  | .deleteVm member =>
    ∃ members ∈ listed, ∃ vm ∈ members, vm.name = member ∧ vm.claimLabel = none
  | .createVm vm => vm.claimLabel = none
  | _ => False

/-- A copy from which a pass may bind. -/
def Unbound (copy : VirtualMachineClaim) : Prop :=
  copy.deleting = false ∧ copy.boundName = none

def Call.PermittedToClaim (copy : VirtualMachineClaim) (progress : Progress) : Call → Prop
  | .now | .getVm _ | .getPool _ => True
  | .listVms pool => pool = copy.spec.poolRef.name
  | .patchVm name version patch =>
    Unbound copy ∧ patch.claim = copy.name ∧
      ∃ members object, progress = .read members name object ∧ object.version = version ∧
        Candidate copy.name members name
  | .deleteVm name => copy.boundName = some name
  | .patchFinalizers claim finalizers =>
    claim = copy.name ∧ (claimFinalizer ∈ finalizers ∨
      copy.deleting = true ∧ (copy.boundName = none ∨ progress = .gone))
  | .patchClaimStatus claim patch =>
    claim = copy.name ∧ ∀ ref, patch.virtualMachineRef = some ref → progress = .bound ref.name
  | .deleteClaim claim => claim = copy.name
  | .createVm _ | .applyPoolStatus _ _ | .getImage _ => False

/-- Where an answer takes a pass of a pool. -/
def ListedAfter (listed : Option (List VirtualMachine)) :
    (call : Call) → Reply call → Option (List VirtualMachine)
  | .listVms _, .ok members => some members
  | .listVms _, .error _ => none
  | _, _ => listed

/-- Where an answer takes a pass of a claim. -/
def Progress.After (progress : Progress) : (call : Call) → Reply call → Progress → Prop
  | .listVms _, .ok members, next => next = .listed members
  | .getVm name, .ok (some object), next =>
    next = progress ∨ ∃ members, progress = .listed members ∧ next = .read members name object
  | .patchVm name _ _, .ok _, next => next = .bound name
  -- The patch may have been carried out: what the pass has read no longer holds.
  | .patchVm _ _ _, .error _, next => next = .started
  | .deleteVm _, .error reason, next => next = if reason = .notFound then .gone else progress
  | _, _, next => next = progress

/-- The ways an answer can take a pass of a claim further, one constructor for each. -/
inductive Progress.Moved (progress : Progress) :
    (call : Call) → Reply call → Progress → Prop where
  | stays {call : Call} {reply : Reply call}
      (unbinding : ∀ name version patch, call ≠ .patchVm name version patch) :
      Moved progress call reply progress
  | listed {pool : String} {members : List VirtualMachine} :
      Moved progress (.listVms pool) (.ok members) (.listed members)
  | read {name : String} {object : Versioned VirtualMachine} {members : List VirtualMachine}
      (found : progress = .listed members) :
      Moved progress (.getVm name) (.ok (some object)) (.read members name object)
  | bound {name : String} {version : Nat} {patch : MemberPatch} :
      Moved progress (.patchVm name version patch) (.ok ()) (.bound name)
  | refused {name : String} {version : Nat} {patch : MemberPatch} {reason : KubeError} :
      Moved progress (.patchVm name version patch) (.error reason) .started
  | gone {name : String} : Moved progress (.deleteVm name) (.error .notFound) .gone

theorem Progress.After.moved {progress next : Progress} {call : Call} {reply : Reply call}
    (after : progress.After call reply next) : progress.Moved call reply next := by
  cases call with
  | getVm name =>
    match reply with
    | .ok (some object) =>
      rcases after with rfl | ⟨members, rfl, rfl⟩
      · exact .stays nofun
      · exact .read rfl
    | .ok none | .error _ =>
      cases after
      exact .stays nofun
  | listVms pool =>
    match reply with
    | .ok members =>
      cases after
      exact .listed
    | .error _ =>
      cases after
      exact .stays nofun
  | patchVm name version patch =>
    match reply with
    | .ok () =>
      cases after
      exact .bound
    | .error reason =>
      cases after
      exact .refused
  | deleteVm name =>
    match reply with
    | .ok () =>
      cases after
      exact .stays nofun
    | .error reason =>
      cases after
      split
      · rename_i missing
        subst missing
        exact .gone
      · exact .stays nofun
  | now | createVm | getPool | applyPoolStatus | getImage | patchFinalizers | patchClaimStatus
  | deleteClaim =>
    cases after
    exact .stays nofun

def discipline : Discipline Call Reply where
  Stage := Stage
  permits
    | .pool name listed, call => call.PermittedToPool name listed
    | .claim copy progress, call => call.PermittedToClaim copy progress
  expects
    | _, .getPool name, .ok (some pool) => pool.name = name
    | _, _, _ => True
  advance
    | .pool name listed, call, reply, after => after = .pool name (ListedAfter listed call reply)
    | .claim copy progress, call, reply, after =>
      ∃ next, after = .claim copy next ∧ progress.After call reply next

/-! ## Where a pass goes

The stages a pass is in, with the choices the discipline leaves to it made: a member that
is read after the list is read to be bound.
-/

def Progress.next (progress : Progress) : (call : Call) → Reply call → Progress
  | .listVms _, .ok members => .listed members
  | .getVm name, .ok (some object) =>
    match progress with
    | .listed members => .read members name object
    | _ => progress
  | .patchVm name _ _, .ok _ => .bound name
  | .patchVm _ _ _, .error _ => .started
  | .deleteVm _, .error reason => if reason = .notFound then .gone else progress
  | _, _ => progress

theorem Progress.after_next (progress : Progress) (call : Call) (reply : Reply call) :
    progress.After call reply (progress.next call reply) := by
  cases call with
  | getVm name =>
    match reply with
    | .ok (some object) =>
      cases progress with
      | listed members => exact .inr ⟨members, rfl, rfl⟩
      | started | read | bound | gone => exact .inl rfl
    | .ok none | .error _ => rfl
  | listVms | patchVm | deleteVm => cases reply <;> rfl
  | now | createVm | getPool | applyPoolStatus | getImage | patchFinalizers | patchClaimStatus
  | deleteClaim => rfl

def Stage.after : Stage → (call : Call) → Reply call → Stage
  | .pool name listed, call, reply => .pool name (ListedAfter listed call reply)
  | .claim copy progress, call, reply => .claim copy (progress.next call reply)

@[simp]
abbrev passes : Rules Stage Call Reply := fun call =>
  { pre stage := discipline.permits stage call
    post stage reply after := discipline.expects stage call reply ∧ after = stage.after call reply }

variable {failed : Error → Stage → Prop}

theorem obeys_of_passes {α : Type} {stage : Stage} {pass : Pass α} {post : α → Stage → Prop}
    (holds : wpe passes pass post failed stage) : pass.run.Obeys discipline (fun _ _ => True) stage := by
  refine Obeys.mono (obeys_of_wp (fun _ _ => id) (fun stage call reply expected => ?_) holds) fun _ _ _ => trivial
  refine ⟨_, ⟨expected, rfl⟩, ?_⟩
  cases stage with
  | pool name listed => rfl
  | claim copy progress => exact ⟨_, rfl, progress.after_next call reply⟩

attribute [local simp] discipline Stage.after ListedAfter Progress.next Call.PermittedToPool Call.PermittedToClaim Pass.ask
  Pass.timestampNow Pass.getVm Pass.listVms Pass.getPool Pass.getImage Pass.deleteVm Option.forall

@[local simp]
theorem wpe_require {α : Type} {wrap : KubeError → Error} {call : Call} {reply : Reply call → Except KubeError α}
    {post : α → Stage → Prop} :
    wpe passes (Pass.require wrap call reply) post failed = fun stage => discipline.permits stage call ∧
      ∀ answer, discipline.expects stage call answer →
        either post (fun reason => failed (wrap reason)) (reply answer) (stage.after call answer) := by
  funext stage
  simp only [Pass.require, wpe_bind, Pass.ask, wpe_lift, wp_request, eq_iff_iff, and_congr_right_iff, and_imp]
  refine fun _ => forall_congr' fun answer => ?_
  simp only [forall_eq_apply_imp_iff]
  cases reply answer <;> simp

/-! ## Passes of a pool -/

section PoolPass

variable {name : String} {listed : Option (List VirtualMachine)} {pool : VirtualMachinePool}

/-- The pass goes on with the same list. -/
@[simp]
abbrev Continues {α : Type} (name : String) (listed : Option (List VirtualMachine)) (pass : Pass α) : Prop :=
  wpe passes pass (fun _ after => after = .pool name listed) (fun _ _ => True) (.pool name listed)

theorem deleteMembers_continues {planned : List (String × DeleteReason)}
    (permitted : ∀ entry ∈ planned, Call.PermittedToPool name listed (.deleteVm entry.1)) :
    Continues name listed (deleteMembers planned) := by
  induction planned with
  | nil => rfl
  | cons entry rest ih =>
    have remaining := ih fun other member => permitted other (List.mem_cons_of_mem entry member)
    have first := permitted entry List.mem_cons_self
    simp_all [deleteMembers]

variable (unlabelled : pool.spec.template.labels.get labelClaim = none)

include unlabelled

theorem buildMember_unlabelled {revision : String} {new : NewMember} {vm : VirtualMachine}
    (built : buildMember pool revision new = some vm) : vm.claimLabel = none := by
  simp only [buildMember, Option.bind_eq_bind, Option.bind_eq_some_iff, Option.pure_def, Option.some.injEq] at built
  obtain ⟨owner, _, rfl⟩ := built
  simp only [VirtualMachine.claimLabel, VirtualMachine.labels]
  rw [SortedMap.get_insert_of_ne _ _ (by decide), SortedMap.get_insert_of_ne _ _ (by decide)]
  exact unlabelled

theorem createMembers_continues {revision : String} (planned : List NewMember) :
    Continues name listed (createMembers pool revision planned) := by
  induction planned with
  | nil => rfl
  | cons new rest ih =>
    simp only [createMembers]
    split
    · trivial
    · rename_i vm built
      simp_all [buildMember_unlabelled unlabelled built]

theorem applyPlan_continues {revision : String} {members : List VirtualMachine} {now : Timestamp} :
    Continues name (some members) (applyPlan pool revision members now) := by
  simp only [applyPlan]
  split
  · simp [publish]
  · refine wpe_andThen (deleteMembers_continues ?_) ?_
    · rintro ⟨member, reason⟩ planned
      exact ⟨members, rfl, mem_plan_delete_unlabelled planned⟩
    · rintro _ _ rfl
      refine wpe_andThen (createMembers_continues unlabelled _) ?_
      rintro _ _ rfl
      simp [publish]

theorem pool_reconcile_obeys : (Pool.reconcile pool).run.Obeys discipline (fun _ _ => True) (.pool pool.name none) := by
  refine obeys_of_passes (?_ : wpe passes _ (fun _ _ => True) (fun _ _ => True) _)
  have rest (revision : String) (members : List VirtualMachine) (now : Timestamp) :
      wpe passes (applyPlan pool revision members now) (fun _ _ => True) (fun _ _ => True)
        (.pool pool.name (some members)) :=
    wp_mono (applyPlan_continues unlabelled) fun result _ _ => by cases result <;> trivial
  simp only [Pool.reconcile]
  split
  · trivial
  · simp [rest]

omit unlabelled

end PoolPass

/-! ## Passes of a claim -/

section ClaimPass

variable {copy : VirtualMachineClaim} {progress : Progress}

/-- The rest of a pass, of which nothing more is needed. -/
@[simp]
abbrev Finishes {α : Type} (copy : VirtualMachineClaim) (progress : Progress) (pass : Pass α) : Prop :=
  wpe passes pass (fun _ _ => True) (fun _ _ => True) (.claim copy progress)

variable {generation : Int} {boundVm : Option (Versioned VirtualMachine)}

@[local simp]
theorem wpe_patchStatus {phase : ClaimPhase} {reason message : String} {extra : StatusExtra}
    {post : Unit → Stage → Prop} :
    wpe passes (patchStatus copy.name phase reason message generation extra) post failed (.claim copy progress) ↔
      (∀ ref, extra.virtualMachineRef = some ref → progress = .bound ref.name) ∧
        post () (.claim copy progress) ∧ ∀ reason, failed (.kube reason) (.claim copy progress) := by
  simp [patchStatus, Unique.forall_iff]

theorem wpe_patchFinalizers {next : Option (List String)}
    (permitted : ∀ finalizers, next = some finalizers → claimFinalizer ∈ finalizers ∨
      copy.deleting = true ∧ (copy.boundName = none ∨ progress = .gone)) :
    wpe passes (Pass.patchFinalizers copy next) (fun _ after => after = .claim copy progress) (fun _ _ => True)
      (.claim copy progress) := by
  cases next with
  | none => rfl
  | some finalizers => simp [Pass.patchFinalizers, permitted finalizers rfl]

theorem wpe_ensureFinalizer :
    wpe passes (Pass.ensureFinalizer copy claimFinalizer) (fun _ after => after = .claim copy progress) (fun _ _ => True)
      (.claim copy progress) :=
  wpe_patchFinalizers fun _ patched => .inl (Operation.ensure_keeps patched)

theorem wpe_pick : wpe passes (pick copy) (fun picked after => ∃ next, after = .claim copy next ∧
      ∀ member, picked.1 = some member → ∃ members, next = .listed members ∧ Candidate copy.name members member)
      (fun _ _ => True) (.claim copy progress) := by
  suffices ∀ pool : VirtualMachinePool, pool.name = copy.spec.poolRef.name → _ by simpa [pick] using this
  refine fun pool named => ⟨named, fun members => ?_⟩
  cases found : memberBoundTo (labelled members) copy.name with
  | some ours => simp [candidate_of_memberBoundTo found]
  | none => simpa using fun now member => candidate_of_pickMember found

variable {now : Timestamp}

theorem finishes_bind {members : List VirtualMachine} {member : String}
    (unbound : Unbound copy) (candidate : Candidate copy.name members member) :
    Finishes copy (.listed members) (Claim.bind copy member now generation) := by
  simp only [Claim.bind]
  cases copy.metadata.controllerOwnerRef "VirtualMachineClaim" <;> simp [unbound, candidate, boundStatus]

theorem finishes_letGo (released : copy.boundName = none ∨ progress = .gone) :
    Finishes copy progress (letGo copy copy.deleting) := by
  simp only [letGo]
  split
  · rename_i deleting
    exact wpe_andThen (wpe_patchFinalizers fun _ _ => .inr ⟨deleting, released⟩) fun _ _ _ => trivial
  · simp

theorem finishes_release : Finishes copy progress (release copy copy.boundName copy.deleting generation) := by
  cases bound : copy.boundName with
  | none => exact finishes_letGo (.inl bound)
  | some member =>
    have rest : Finishes copy .gone (letGo copy copy.deleting) := finishes_letGo (.inr rfl)
    simpa [release, bound] using rest

/-- The steps a pass may apply with what it knows. -/
def StepFits (copy : VirtualMachineClaim) (progress : Progress) : ClaimStep → Prop
  | .release member deleting => member = copy.boundName ∧ deleting = copy.deleting
  | .bind member => Unbound copy ∧
      ∃ members, progress = .listed members ∧ Candidate copy.name members member
  | .hold _ | .fail _ | .wait => True

theorem finishes_apply {pool : Option VirtualMachinePool} {step : ClaimStep} (fits : StepFits copy progress step) :
    Finishes copy progress (Claim.apply copy boundVm pool now generation step) := by
  cases step with
  | release member deleting =>
    obtain ⟨rfl, rfl⟩ := fits
    exact finishes_release
  | hold member =>
    refine wpe_andThen wpe_ensureFinalizer ?_
    rintro _ _ rfl
    cases boundVm <;> simp [hold]
  | fail member | wait =>
    refine wpe_andThen wpe_ensureFinalizer ?_
    rintro _ _ rfl
    simp
  | bind member =>
    obtain ⟨unbound, members, rfl, candidate⟩ := fits
    refine wpe_andThen wpe_ensureFinalizer ?_
    rintro _ _ rfl
    exact finishes_bind unbound candidate

theorem stepFits_nextStep {candidate : Option String} (picked : ∀ member, candidate = some member →
      ∃ members, progress = .listed members ∧ Candidate copy.name members member) :
    StepFits copy progress (nextStep (claimInputs copy boundVm now) candidate) := by
  cases step : nextStep (claimInputs copy boundVm now) candidate with
  | release member deleting =>
    obtain ⟨rfl, rfl⟩ := nextStep_eq_release step
    exact ⟨by simp [claimInputs, Function.comp_def], rfl⟩
  | bind member =>
    obtain ⟨kept, unbound, rfl⟩ := nextStep_eq_bind step
    exact ⟨⟨kept, by simpa [claimInputs] using unbound⟩, picked member rfl⟩
  | hold | fail | wait => trivial

theorem wpe_boundMember : wpe passes (boundMember copy) (fun _ after => after = .claim copy .started) (fun _ _ => True)
      (.claim copy .started) := by
  unfold boundMember
  split <;> simp

theorem claim_reconcile_obeys (copy : VirtualMachineClaim) :
    (Claim.reconcile copy).run.Obeys discipline (fun _ _ => True) (.claim copy .started) := by
  refine obeys_of_passes (?_ : Finishes copy .started _)
  simp only [Claim.reconcile]
  split
  · trivial
  · refine wpe_andThen wpe_boundMember ?_
    rintro boundVm _ rfl
    refine wpe_andThen (?_ : wpe passes _ (fun _ after => after = .claim copy .started) _ _) ?_
    · simp
    rintro now _ rfl
    split
    · refine wpe_andThen wpe_pick ?_
      rintro ⟨candidate, pool⟩ _ ⟨next, rfl, picked⟩
      exact finishes_apply (stepFits_nextStep picked)
    · exact finishes_apply (stepFits_nextStep fun member impossible => by contradiction)

end ClaimPass

end Banlieue.Controller
