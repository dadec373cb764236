import Banlieue.Vm.Placement
import Banlieue.Vm.System

namespace Banlieue.Vm

open Banlieue.Api Banlieue.Data Banlieue.Data.Program Banlieue.Infra Banlieue.Sdk Banlieue.Scheduler
open Banlieue.Controller (Error Action)

/-! # One backend at a time

A pass deletes and applies infra machines of the kind its decision is for.  Infra
machines of another kind are out of its sight.
-/

/-- Infra machines of one machine that are not being deleted are of one kind. -/
def Cluster.OneBackend (cluster : Cluster) : Prop :=
  ∀ first ∈ cluster.infra, ∀ second ∈ cluster.infra, first.key = second.key →
    first.object.deleting = false → second.object.deleting = false → first.kind = second.kind

/-- The machine's infra machines are of the kind of every provider that has one. -/
def Cluster.SameBackend (cluster : Cluster) (vm : VmKey) (providers : List Provider) : Prop :=
  ∀ provider ∈ providers,
    ∀ kind ∈ InfraKind.fromProviderClass provider.spec.providerClassRef.name,
      ∀ applied ∈ cluster.infra, applied.key = vm → applied.object.deleting = false →
        applied.kind = kind

instance (cluster : Cluster) : Decidable cluster.OneBackend :=
  inferInstanceAs (Decidable (∀ first ∈ cluster.infra, ∀ second ∈ cluster.infra, _))

section Steps

variable {context : Context} {before after : Cluster} {vm : VmKey} {providers : List Provider}

theorem AppliedInfra.Later.kept {old applied : AppliedInfra} (later : old.Later applied)
    (kept : applied.object.deleting = false) : old.object.deleting = false := by
  by_contra deleting
  rw [Bool.not_eq_false] at deleting
  rw [later.deleting deleting] at kept
  contradiction

theorem Cluster.OneBackend.keeps (one : before.OneBackend) (keeps : before.Keeps after) : after.OneBackend := by
  intro first firstIn second secondIn same firstKept secondKept
  obtain ⟨firstOld, firstStored, firstLater⟩ := keeps first firstIn
  obtain ⟨secondOld, secondStored, secondLater⟩ := keeps second secondIn
  rw [firstLater.kind, secondLater.kind]
  refine one firstOld firstStored secondOld secondStored ?_ (firstLater.kept firstKept) (secondLater.kept secondKept)
  rw [← firstLater.key, ← secondLater.key, same]

theorem Cluster.SameBackend.later (same : before.SameBackend vm providers)
    (inherited : ∀ applied ∈ after.infra, applied.key = vm →
      ∃ old ∈ before.infra, old.Later applied) : after.SameBackend vm providers := by
  intro provider listed kind known applied member own kept
  obtain ⟨old, stored, later⟩ := inherited applied member own
  rw [later.kind]
  exact same provider listed kind known old stored (later.key.symm.trans own) (later.kept kept)

theorem Cluster.OneBackend.applies {fresh : AppliedInfra} (one : before.OneBackend)
    (applies : before.Applies fresh after)
    (same : ∀ old ∈ before.infra, old.key = fresh.key → old.object.deleting = false →
      old.kind = fresh.kind) : after.OneBackend := by
  intro first firstIn second secondIn sameKey firstKept secondKept
  rcases applies first firstIn with ⟨firstOld, firstStored, firstLater⟩ | firstNew
  · rcases applies second secondIn with ⟨secondOld, secondStored, secondLater⟩ | secondNew
    · rw [firstLater.kind, secondLater.kind]
      refine one firstOld firstStored secondOld secondStored ?_ (firstLater.kept firstKept)
        (secondLater.kept secondKept)
      rw [← firstLater.key, ← secondLater.key, sameKey]
    · rw [firstLater.kind, secondNew.kind]
      refine same firstOld firstStored ?_ (firstLater.kept firstKept)
      rw [← firstLater.key, sameKey, secondNew.key]
  · rcases applies second secondIn with ⟨secondOld, secondStored, secondLater⟩ | secondNew
    · rw [firstNew.kind, secondLater.kind]
      refine (same secondOld secondStored ?_ (secondLater.kept secondKept)).symm
      rw [← secondLater.key, ← sameKey, firstNew.key]
    · rw [firstNew.kind, secondNew.kind]

end Steps

/-! ## Runs -/

/-- The pass is one of this machine, and the providers it has listed are of the kind of
the machine's infra machines. -/
def BackendKnown (vm : VmKey) (learnt : Learnt) (cluster : Cluster) : Prop :=
  key learnt.copy = vm ∧ ∀ providers ∈ learnt.providers, cluster.SameBackend vm providers

instance (cluster : Cluster) (vm : VmKey) (providers : List Provider) :
    Decidable (cluster.SameBackend vm providers) :=
  inferInstanceAs (Decidable (∀ provider ∈ providers, ∀ kind ∈ InfraKind.fromProviderClass _,
    ∀ applied ∈ cluster.infra, _))

/-- A pass lists its providers only where they are of the kind of the machine's infra
machines. -/
def SteadyListing (cluster : Cluster) (vm : VmKey) : Call → Prop
  | .listProviders namespaceName => cluster.SameBackend vm (cluster.providersIn namespaceName)
  | _ => True

def Steady (context : Context) (state : (vmMachine context).State) : (vmMachine context).Event → Prop
  | .serve vm _ => Program.AtCall (SteadyListing state.service vm) (state.running vm)
  | _ => True

instance SteadyListing.decidable (cluster : Cluster) (vm : VmKey) :
    DecidablePred (SteadyListing cluster vm)
  | .listProviders _ => inferInstanceAs (Decidable (Cluster.SameBackend _ _ _))
  | .now | .patchFinalizers _ _ | .getClass _ | .getClassOpt _ | .listClasses | .getImage _
  | .listVms _ | .storeState _ | .getInfra _ _ | .applyInfra _ _ | .deleteInfra _ _
  | .patchInfraPower _ _ _ | .applyStatus _ _ | .getSecret _ _ | .getConfigMap _ _ => .isTrue trivial

instance (context : Context) (state : (vmMachine context).State) : DecidablePred (Steady context state)
  | .serve vm _ =>
    @Program.AtCall.decidable _ _ _ _ (SteadyListing.decidable state.service vm) (state.running vm)
  | .launch _ _ | .crash _ | .disturb _ => .isTrue trivial

section Runs

variable {context : Context} {cluster after : Cluster} {vm : VmKey} {learnt : Learnt}
  {choice : Cluster.Choice} {call : Call} (known : BackendKnown vm learnt cluster)

include known

theorem BackendKnown.later (inherited : ∀ applied ∈ after.infra, applied.key = vm →
      ∃ old ∈ cluster.infra, old.Later applied) : BackendKnown vm learnt after :=
  ⟨known.1, fun providers listed => (known.2 providers listed).later inherited⟩

theorem BackendKnown.keeps (keeps : cluster.Keeps after) : BackendKnown vm learnt after :=
  known.later fun applied member _ => keeps applied member

theorem BackendKnown.served (steady : SteadyListing cluster vm call) :
    BackendKnown vm (learnt.after call (cluster.serve choice call).1) (cluster.serve choice call).2 := by
  have effect := cluster.serve_effect choice call
  generalize answered : (cluster.serve choice call).1 = reply
  unfold Learnt.after
  split
  · exact known.keeps effect
  · rename_i namespaceName providers
    refine BackendKnown.keeps ⟨known.1, ?_⟩ effect
    intro listed same
    cases same
    rw [Cluster.request_answered answered]
    exact steady
  · exact known.keeps effect
  · exact known.keeps effect
  · exact ⟨known.1, fun _ none => nomatch none⟩
  · rename_i idle
    refine known.keeps (effect.keeps fun machine networkClasses same => ?_)
    subst same
    exact idle machine networkClasses _ rfl HEq.rfl

theorem BackendKnown.one (one : cluster.OneBackend)
    (permitted : learnt.Permits context call) : (cluster.serve choice call).2.OneBackend := by
  have effect := cluster.serve_effect choice call
  by_cases applying : ∃ machine networkClasses, call = .applyInfra machine networkClasses
  · obtain ⟨machine, networkClasses, rfl⟩ := applying
    obtain ⟨vmClass, providers, listed, provider, member, decision, kind, built, -, -⟩ := permitted
    refine one.applies effect fun old stored same kept => ?_
    rw [AppliedInfra.key_fresh built, known.1] at same
    exact known.2 providers listed provider member machine.kind kind old stored same kept
  · exact one.keeps (effect.keeps fun machine networkClasses same =>
      applying ⟨machine, networkClasses, same⟩)

theorem BackendKnown.apart {other : VmKey} {others : Learnt} (own : key others.copy = other) (different : vm ≠ other)
    (permitted : others.Permits context call) : BackendKnown vm learnt (cluster.serve choice call).2 := by
  have effect := cluster.serve_effect choice call
  by_cases applying : ∃ machine networkClasses, call = .applyInfra machine networkClasses
  · obtain ⟨machine, networkClasses, rfl⟩ := applying
    obtain ⟨vmClass, providers, -, provider, -, decision, -, built, -, -⟩ := permitted
    refine known.later fun applied member mine => ?_
    rcases effect applied member with inherited | new
    · exact inherited
    · rw [new.key, AppliedInfra.key_fresh built, own] at mine
      exact absurd mine.symm different
  · exact known.keeps (effect.keeps fun machine networkClasses same =>
      applying ⟨machine, networkClasses, same⟩)

omit known

theorem backends_inductive (context : Context) :
    Machine.Inductive (Steady context) Cluster.OneBackend (Informed context BackendKnown) where
  launched := by
    intro state vm age program _ _ _ launched
    exact informed_launched (fun copy own => ⟨own, fun _ none => nomatch none⟩) launched
  served := by
    intro state vm choice call next holds allowed running
    have informed := holds.2 vm _ running
    have steady : SteadyListing state.service vm call := by
      simpa only [Steady, running, Program.AtCall] using allowed
    refine ⟨?_, Machine.Disciplined.served _ _ informed fun learnt known permitted => ⟨trivial, ?_⟩⟩
    · obtain ⟨learnt, known, permitted, -⟩ := informed
      exact known.one holds.1 permitted
    · intro later advanced
      rw [advanced]
      exact known.served steady
  undisturbed := by
    intro state vm choice call next other program holds _ running different active
    obtain ⟨learnt, known, permitted, -⟩ := holds.2 vm _ running
    refine Machine.Disciplined.stable _ _ (holds.2 other program active) fun theirs meant => ?_
    exact meant.apart known.1 different permitted
  disturbed := by
    intro state disturbance service holds _ disturbed
    have keeps := Cluster.disturb_keeps disturbed
    refine ⟨holds.1.keeps keeps, fun vm program active => ?_⟩
    exact Machine.Disciplined.stable _ _ (holds.2 vm program active) fun _ known => known.keeps keeps

end Runs

theorem Survey.deletes_iff {context : Context} {age : Nat} {cluster : Cluster} {vm : VirtualMachine}
    (survey : Survey context age cluster vm) {drift : PlacementDriftReason} {kind : InfraKind}
    (moved : evaluate vm survey.decision = .recreate drift) :
    .deleteInfra kind (key vm) ∈ (perform age (reconcile context vm) cluster).calls ↔ survey.kind = kind := by
  rw [survey.perform_reconcile, survey.perform_recreate moved]
  constructor
  · intro made
    rcases List.mem_append.mp made with way | settling
    · have preliminary := survey.preliminary_calls _ way
      contradiction
    · rcases List.mem_cons.mp settling with deleted | reporting
      · cases deleted
        rfl
      · have spares : Heeds (permitting fun call => ∀ other owner, call ≠ .deleteInfra other owner) (do
            patchPlacementInvalid vm drift
            return Action.requeueDefault : Pass Action) := by
          refine Heeds.bind (heeds_patchPlacementInvalid ?_ ?_) fun _ => rfl
          · exact fun _ _ => Call.noConfusion
          · exact fun _ _ _ _ => Call.noConfusion
        exact absurd rfl (spares.makes.calls _ _ _ reporting kind (key vm))
  · intro same
    subst same
    exact List.mem_append_right _ List.mem_cons_self

/-- In a run whose passes list only providers of the kind of their machine's infra
machines, no machine ever has infra machines of two kinds; and a pass that gives up a
placement deletes the infra machine of the recorded one exactly if the decision is for
the same kind. -/
theorem one_backend_of_run (context : Context) (start : Cluster) (last : (vmMachine context).State)
    (events : List (vmMachine context).Event) (initially : start.OneBackend)
    (run : Machine.Run (Steady context) (Machine.State.idle start) events last) :
    Cluster.OneBackend last.service ∧
      ∀ (age : Nat) (cluster : Cluster) (vm : VirtualMachine) (survey : Survey context age cluster vm)
        (placement : ScheduledPlacement) (drift : PlacementDriftReason) (kind : InfraKind),
        vm.scheduled = some placement →
        InfraKind.fromProviderClass placement.providerClass = some kind →
        evaluate vm survey.decision = .recreate drift →
        (.deleteInfra kind (key vm) ∈ (perform age (reconcile context vm) cluster).calls ↔
          InfraKind.fromProviderClass survey.decision.providerClass =
            InfraKind.fromProviderClass placement.providerClass) := by
  refine ⟨((backends_inductive context).run run (Machine.holds_idle initially)).1, ?_⟩
  intro age cluster vm survey placement drift kind _ known moved
  rw [survey.deletes_iff moved, known, survey.buildable, Option.some.injEq]

/-! ## A change of backends -/

def hypervisor : Provider := hostProvider "q" "cloud-hypervisor" ["q-a"]

/-- The machine was placed on libvirt; only the other backend is left. -/
def exiled : Cluster where
  now := ⟨60⟩
  vms := { vms := [hostedVm "api" .automatic (some (onHost "p-a"))], distinct := by decide }
  infra := hostedInfra (hostedVm "api" .automatic none) (onHost "p-a") twoHosts .libvirt
  classes := [hostClass]
  images := [hostImage]
  providers := [hypervisor]

def exiledSurvey : Survey plainContext 0 exiled (hostedVm "api" .automatic (some (onHost "p-a"))) where
  namespaceName := "prod"
  vmClass := hostClass
  image := hostImage
  decision := buildDecision hostClass hypervisor (hostDomain "q-a")
  provider := hypervisor
  kind := .cloudHypervisor
  ensured := exiled
  ensureCalls := []
  checkCalls := []
  inNamespace := rfl
  active := rfl
  kept := rfl
  ensures := rfl
  classFound := rfl
  imageFound := rfl
  paired := hostImage_paired
  checks := rfl
  decided := rfl
  chosen := rfl
  buildable := rfl

/-- A machine that has never been placed. -/
def unplaced : Cluster :=
  { exiled with
    vms := { vms := [hostedVm "api" .automatic none], distinct := by decide }
    infra := []
    providers := [twoHosts] }

/-- A pass up to and including its apply. -/
def untilApplied : List (vmMachine plainContext).Event :=
  .launch ("prod", "api") (0 : Nat) ::
    List.replicate 6 (.serve ("prod", "api") ({} : Cluster.Choice))

/-- The controller stops between the apply and the record of the placement, and starts
again once only the other backend is left. -/
def interrupted : List (vmMachine plainContext).Event :=
  untilApplied ++
    [.crash ("prod", "api"),
      .disturb (.surroundings ⟨60⟩ [hostClass] [hostImage] [hypervisor] [] [])] ++
    untilApplied

/-- The kinds of the infra machines that are not being deleted. -/
def undeletedKinds (state : (vmMachine plainContext).State) : List InfraKind :=
  ((Cluster.infra state.service).filter fun applied => !applied.object.deleting).map AppliedInfra.kind

/-- A pass moves a machine from libvirt and leaves its libvirt machine alone; and an
interrupted pass leaves one behind that the next pass does not see. -/
theorem old_backend_is_left :
    (evaluate (hostedVm "api" .automatic (some (onHost "p-a"))) exiledSurvey.decision =
        .recreate (.providerChanged "p" "q") ∧
      (exiled.infraAt .libvirt ("prod", "api")).isSome = true ∧
      .deleteInfra .libvirt ("prod", "api") ∉
        (perform 0 (reconcile plainContext (hostedVm "api" .automatic (some (onHost "p-a"))))
          exiled).calls) ∧
    ∃ last, Machine.Run (fun _ _ => True) (Machine.State.idle unplaced) interrupted last ∧
      undeletedKinds last = [.libvirt, .cloudHypervisor] ∧
      ((Cluster.infra last.service).map AppliedInfra.key) = [("prod", "api"), ("prod", "api")] := by
  have moved : evaluate (hostedVm "api" .automatic (some (onHost "p-a"))) exiledSurvey.decision =
      .recreate (.providerChanged "p" "q") := by decide
  refine ⟨⟨moved, by decide, ?_⟩, ?_⟩
  · intro made
    have same := (exiledSurvey.deletes_iff moved).mp made
    contradiction
  · have seen : ((Machine.State.idle unplaced : (vmMachine plainContext).State).exec interrupted).map
        (fun last => (undeletedKinds last, (Cluster.infra last.service).map AppliedInfra.key)) =
        some ([.libvirt, .cloudHypervisor], [("prod", "api"), ("prod", "api")]) := by
      decide +kernel
    simp only [Option.map_eq_some_iff, Prod.mk.injEq] at seen
    obtain ⟨last, executed, kinds, keys⟩ := seen
    exact ⟨last, .of_exec executed, kinds, keys⟩

/-- Without the change, the interrupted pass is taken up on the same backend. -/
theorem one_backend_of_repeated :
    ∃ last, Machine.Run (Steady plainContext) (Machine.State.idle unplaced)
        (untilApplied ++ [.crash ("prod", "api")] ++ untilApplied) last ∧
      undeletedKinds last = [.libvirt] ∧ Cluster.OneBackend last.service := by
  have seen : ((Machine.State.idle unplaced : (vmMachine plainContext).State).execIf
      (Steady plainContext) (untilApplied ++ [.crash ("prod", "api")] ++ untilApplied)).map
      undeletedKinds = some [.libvirt] := by
    decide +kernel
  obtain ⟨last, executed, kinds⟩ := Option.map_eq_some_iff.mp seen
  have run := Machine.Run.of_execIf executed
  exact ⟨last, run, kinds, (one_backend_of_run plainContext unplaced last _ (by decide) run).1⟩

end Banlieue.Vm
