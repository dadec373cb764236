import Banlieue.Controller.Knowledge

namespace Banlieue.Controller

open Banlieue.Api Banlieue.Data Banlieue.Claim

/-! # A member is bound once

A bind patch rests on the version of a GET, but not on what that GET showed.  As
long as every GET shows a member that is free or the claim's own, no member is
ever bound by two claims.
-/

namespace Server

/-- What later steps cannot take back. -/
structure Grows (before after : Server) : Prop where
  remembers : ∀ name version seen, before.machines.store.Remembers name version seen →
    after.machines.store.Remembers name version seen
  binds : ∀ entry ∈ before.binds, entry ∈ after.binds

variable {server after : Server}

theorem QuietStep.grows (step : QuietStep server after) : Grows server after :=
  ⟨step.machines.remembers, by simp [step.binds]⟩

variable {name : String} {version : Nat} {patch : MemberPatch} {change : VirtualMachineClaim → VirtualMachineClaim}
  {call : Call}

theorem BindStep.grows (step : BindStep name version patch server after) : Grows server after where
  remembers := step.remembers
  binds := by
    intro entry member
    rw [step.binds]
    exact List.mem_append_left _ member

theorem ClaimStep.grows (step : ClaimStep name change server after) : Grows server after :=
  ⟨by simp [step.machines], by simp [step.binds]⟩

theorem Disturbed.grows (disturbed : Disturbed server after) : Grows server after := by
  cases disturbed with
  | quiet step => exact step.grows
  | deleteClaim name step => exact step.grows
  | newClaim claim machines binds => exact ⟨by simp [machines], by simp [binds]⟩

theorem Effect.grows {copy : VirtualMachineClaim} {progress : Progress}
    (permitted : call.PermittedToClaim copy progress) (effect : Effect server after call) : Grows server after := by
  cases effect.change with
  | quiet step => exact step.grows
  | created => exact permitted.elim
  | bound step => exact step.grows
  | finalizers step | status step | marked step => exact step.grows

theorem Effect.mem_binds {entry : String × String} (effect : Effect server after call)
    (member : entry ∈ server.binds) : entry ∈ after.binds := by
  cases effect.change with
  | quiet step => exact step.grows.binds entry member
  | created _ _ binds =>
    rw [binds]
    exact member
  | bound step => exact step.grows.binds entry member
  | finalizers step | status step | marked step => exact step.grows.binds entry member

theorem binds_of_run {allowed : controlPlane.State → controlPlane.Event → Prop}
    {state last : controlPlane.State} {events : List controlPlane.Event}
    (run : Machine.Run allowed state events last) (entry : String × String)
    (member : entry ∈ Server.binds state.service) : entry ∈ Server.binds last.service :=
  run.relates (fun before after : Server => entry ∈ before.binds → entry ∈ after.binds)
    (fun _ => id) (fun first second => second ∘ first)
    (fun server _ choice call => (server.serve_effect choice call).mem_binds)
    (fun changed => (disturb_effect changed).grows.binds entry) member

/-! ## The log of binds -/

/-- Labels and references say what the log says, and the log is single-valued. -/
structure BoundOnce (server : Server) : Prop where
  known : ∀ member claim, (member, claim) ∈ server.binds → member ∈ server.machines.names
  labelled : ∀ member claim, (member, claim) ∈ server.binds →
    ∀ object, server.machines.get member = some object → object.value.claimLabel = some claim
  logged : ∀ member object claim, server.machines.get member = some object →
    object.value.claimLabel = some claim → (member, claim) ∈ server.binds
  referred : ∀ claim copy member, copy ∈ server.claims.copies claim →
    copy.boundName = some member → (member, claim) ∈ server.binds
  once : ∀ member first second, (member, first) ∈ server.binds → (member, second) ∈ server.binds →
    first = second

variable (bound : BoundOnce server)

include bound

theorem BoundOnce.quiet (step : QuietStep server after) :
    BoundOnce after where
  known := by
    intro member claim logged
    rw [step.binds] at logged
    exact step.machines.names member (bound.known member claim logged)
  labelled := by
    intro member claim logged object found
    rw [step.binds] at logged
    rcases step.machines.inherits member object found with ⟨-, fresh⟩ | ⟨old, stored, label, -⟩
    · exact absurd (bound.known member claim logged) fresh
    · rw [label]
      exact bound.labelled member claim logged old stored
  logged := by
    intro member object claim found carried
    rw [step.binds]
    rcases step.machines.inherits member object found with ⟨free, -⟩ | ⟨old, stored, label, -⟩
    · rw [free] at carried
      contradiction
    · exact bound.logged member old claim stored (label.symm.trans carried)
  referred := by
    rw [step.claims, step.binds]
    exact bound.referred
  once := by
    rw [step.binds]
    exact bound.once

theorem BoundOnce.claims (machines : after.machines = server.machines) (binds : after.binds = server.binds)
    (referred : ∀ claim copy member, copy ∈ after.claims.copies claim →
      copy.boundName = some member → (member, claim) ∈ server.binds) : BoundOnce after where
  known := by
    rw [machines, binds]
    exact bound.known
  labelled := by
    rw [machines, binds]
    exact bound.labelled
  logged := by
    rw [machines, binds]
    exact bound.logged
  referred := by
    rw [binds]
    exact referred
  once := by
    rw [binds]
    exact bound.once

theorem BoundOnce.claimStep (step : ClaimStep name change server after)
    (referred : ∀ live member, server.claims.live name = some live →
      (change live).boundName = some member → (member, name) ∈ server.binds) : BoundOnce after := by
  obtain ⟨live, found, record⟩ := step.written
  apply bound.claims step.machines step.binds
  intro claim copy member had named
  rcases (Claims.mem_copies_put record).mp had with old | ⟨rfl, rfl⟩
  · exact bound.referred claim copy member old named
  · exact referred live member found named

theorem BoundOnce.live {member : String} {live : VirtualMachineClaim} (found : server.claims.live name = some live)
    (named : live.boundName = some member) : (member, name) ∈ server.binds :=
  bound.referred name live member (server.claims.current name live found) named

theorem BoundOnce.disturbed (disturbed : Disturbed server after) : BoundOnce after := by
  cases disturbed with
  | quiet step => exact bound.quiet step
  | deleteClaim name step => exact bound.claimStep step fun _ _ found named => bound.live found named
  | newClaim claim machines binds unused unbound kept record =>
    apply bound.claims machines binds
    intro name copy member had named
    rcases (Claims.mem_copies_put record).mp had with old | ⟨rfl, rfl⟩
    · exact bound.referred name copy member old named
    · simp [VirtualMachineClaim.boundName, unbound] at named

theorem BoundOnce.bindStep (step : BindStep name version patch server after)
    (free : ∀ object, server.machines.get name = some object → object.version = version →
      object.value.claimLabel = none ∨ object.value.claimLabel = some patch.claim) : BoundOnce after := by
  obtain ⟨object, _, found, current, -⟩ := step.written
  have earlier : ∀ claim, (name, claim) ∈ server.binds → claim = patch.claim := by
    intro claim logged
    have label := bound.labelled name claim logged object found
    rcases free object found current with unlabelled | own
    · rw [unlabelled] at label
      contradiction
    · rw [own] at label
      exact (Option.some.inj label).symm
  have split : ∀ member claim, (member, claim) ∈ after.binds ↔
      (member, claim) ∈ server.binds ∨ member = name ∧ claim = patch.claim := by
    intro member claim
    simp [step.binds]
  refine ⟨?_, ?_, ?_, ?_, ?_⟩
  · intro member claim logged
    rw [step.names]
    rcases (split member claim).mp logged with old | ⟨rfl, -⟩
    · exact bound.known member claim old
    · exact Machines.mem_names found
  · intro member claim logged stored present
    rcases step.get present with ⟨rfl, old, -, -, patched⟩ | ⟨different, before⟩
    · rw [patched, MemberPatch.apply_claimLabel]
      rcases (split member claim).mp logged with old | ⟨-, rfl⟩
      · rw [earlier claim old]
      · rfl
    · have old := ((split member claim).mp logged).resolve_right fun new => different new.1
      exact bound.labelled member claim old stored before
  · intro member stored claim present carried
    rw [split]
    rcases step.get present with ⟨rfl, old, -, -, patched⟩ | ⟨-, before⟩
    · rw [patched, MemberPatch.apply_claimLabel] at carried
      exact .inr ⟨rfl, (Option.some.inj carried).symm⟩
    · exact .inl (bound.logged member stored claim before carried)
  · intro claim copy member old named
    rw [step.claims] at old
    exact (split member claim).mpr (.inl (bound.referred claim copy member old named))
  · intro member first second left right
    rcases (split member first).mp left with left | ⟨rfl, rfl⟩ <;>
      rcases (split member second).mp right with right | ⟨same, rfl⟩
    · exact bound.once member first second left right
    · subst same
      exact earlier first left
    · exact (earlier second right).symm
    · rfl

omit bound

end Server

/-! ## Passes that read before they bind -/

/-- Every GET of a claim's pass finds a member that is free or the claim's own. -/
def freshReads : Guards where
  grant server name
    | .getVm member => ∀ object ∈ server.machines.get member,
        object.value.claimLabel = none ∨ object.value.claimLabel = some name
    | _ => True

def KnowsBinding (name : String) (progress : Progress) (server : Server) : Prop :=
  match progress with
  | .read _ member object =>
    server.machines.store.Remembers member object.version object.value ∧
      (object.value.claimLabel = none ∨ object.value.claimLabel = some name)
  | .bound member => (member, name) ∈ server.binds
  | .started | .listed _ | .gone => True

def binding : Knowledge where
  invariant := Server.BoundOnce
  knows name _ progress server := KnowsBinding name progress server

section Sound

variable {server after : Server} {name : String} {progress : Progress}

theorem KnowsBinding.grows (grown : Server.Grows server after)
    (known : KnowsBinding name progress server) : KnowsBinding name progress after := by
  cases progress with
  | read members member object => exact ⟨grown.remembers _ _ _ known.1, known.2⟩
  | bound member => exact grown.binds _ known
  | started | listed | gone => trivial

theorem boundName_apply {patch : ClaimStatusPatch} {claim : VirtualMachineClaim} {member : String}
    (named : (patch.apply claim).boundName = some member) :
    (∃ ref, patch.virtualMachineRef = some ref ∧ ref.name = member) ∨ claim.boundName = some member := by
  cases ref : patch.virtualMachineRef with
  | some written =>
    left
    simpa [VirtualMachineClaim.boundName, ClaimStatusPatch.apply, ref] using named
  | none =>
    right
    cases status : claim.status with
    | none => simp [VirtualMachineClaim.boundName, ClaimStatusPatch.apply, ref, status] at named
    | some before =>
      simpa [VirtualMachineClaim.boundName, ClaimStatusPatch.apply, ref, status] using named

variable {copy : VirtualMachineClaim}

theorem binding_invariant {call : Call} {reply : Reply call}
    (bound : server.BoundOnce) (known : KnowsBinding name progress server)
    (served : Knowledge.OwnCall freshReads name copy progress server after call reply) : after.BoundOnce := by
  have own : copy.name = name := server.claims.named name copy served.copy_mem
  cases served.effect.change with
  | quiet step => exact bound.quiet step
  | created => exact served.permitted.elim
  | bound step =>
    obtain ⟨-, claims, members, object, rfl, rfl, -⟩ := served.permitted
    refine bound.bindStep step ?_
    intro current found sameVersion
    -- Nobody has written the member since the GET.
    rw [known.1.2 current found sameVersion, claims, own]
    exact known.2
  | finalizers step | marked step =>
    exact bound.claimStep step fun _ _ found named => bound.live found named
  | status step =>
    obtain ⟨rfl, referred⟩ := served.permitted
    refine bound.claimStep step ?_
    intro live member found named
    rcases boundName_apply named with ⟨ref, written, rfl⟩ | kept
    · rw [referred ref written] at known
      rw [own]
      exact known
    · exact bound.live found kept

theorem binding_knows {call : Call} {reply : Reply call} {next : Progress} (known : KnowsBinding name progress server)
    (served : Knowledge.OwnCall freshReads name copy progress server after call reply)
    (moved : progress.After call reply next) : KnowsBinding name next after := by
  cases moved.moved with
  | stays => exact known.grows (served.effect.grows served.permitted)
  | listed | refused | gone => trivial
  | @read member object members =>
    have found : server.machines.get member = some object := served.answer.symm
    rw [KnowsBinding, served.effect.machines]
    exact ⟨VersionedStore.remembers_read found, served.granted object found⟩
  | bound =>
    have own : copy.name = name := server.claims.named name copy served.copy_mem
    rw [KnowsBinding, served.answer.binds, served.permitted.2.1, own]
    exact List.mem_append_right _ (List.mem_singleton_self _)

theorem binding_sound : binding.Sound freshReads where
  started := fun _ _ _ => trivial
  own := fun bound known served =>
    ⟨binding_invariant bound known served, fun _ moved => binding_knows known served moved⟩
  ambient := fun bound disturbed => bound.disturbed disturbed
  stable := fun _ _ known disturbed => KnowsBinding.grows disturbed.grows known
  apart := fun _ _ known _ _ served =>
    KnowsBinding.grows (served.effect.grows served.permitted) known

end Sound

/-! ## Every run -/

theorem Server.Unclaimed.boundOnce {server : Server} (unclaimed : server.Unclaimed) :
    server.BoundOnce where
  known := by simp [unclaimed.unbound]
  labelled := by simp [unclaimed.unbound]
  logged := by
    intro member object claim found carried
    rw [unclaimed.unlabelled member object found] at carried
    contradiction
  referred := by simp [unclaimed.unused]
  once := by simp [unclaimed.unbound]

/-- Between two moments of a run and at the second of them, no two claims have
the same member. -/
structure BoundByOne (middle last : Server) : Prop where
  binds : ∀ member claim other, (member, claim) ∈ last.binds → (member, other) ∈ last.binds →
    claim = other
  references : ∀ member claim other held taken, last.claims.live claim = some held →
    last.claims.live other = some taken → held.boundName = some member →
    taken.boundName = some member → claim = other
  labels : ∀ member claim other before after, middle.machines.get member = some before →
    last.machines.get member = some after → before.value.claimLabel = some claim →
    after.value.claimLabel = some other → claim = other

/-- In every run in which each GET finds its member free or the claim's own, all
binds of a member are by one claim, no two claims refer to one member, and a
member's label never changes from one claim to another. -/
theorem member_bound_once (start : Server) (unclaimed : start.Unclaimed)
    (earlier later : List controlPlane.Event) (middle last : controlPlane.State)
    (first : Machine.Run freshReads.Allows (Machine.State.idle start) earlier middle)
    (second : Machine.Run freshReads.Allows middle later last) :
    BoundByOne middle.service last.service := by
  have holds := binding_sound.inductive.run first (Machine.holds_idle unclaimed.boundOnce)
  have bound : Server.BoundOnce last.service := (binding_sound.inductive.run second holds).1
  refine ⟨bound.once, ?_, ?_⟩
  · intro member claim other held taken found found' named named'
    exact bound.once member claim other (bound.live found named) (bound.live found' named')
  · intro member claim other before after found found' carried carried'
    have logged := Server.BoundOnce.logged holds.1 member before claim found carried
    have label := bound.labelled member claim (Server.binds_of_run second _ logged) after found'
    exact Option.some.inj (label.symm.trans carried')

/-! ## A GET that comes too late -/

structure BindView where
  label : Option String
  first : Option String
  second : Option String
  binds : List (String × String)
deriving DecidableEq

def bindView (state : controlPlane.State) : BindView where
  label := (Server.machines state.service).get "web-1" |>.bind fun object => object.value.claimLabel
  first := (Server.claims state.service).live "a" |>.bind VirtualMachineClaim.boundName
  second := (Server.claims state.service).live "b" |>.bind VirtualMachineClaim.boundName
  binds := Server.binds state.service

/-- Claim `b` picks the member; then claim `a` picks, reads and binds it. -/
def overtaken : List controlPlane.Event :=
  [createClaim "a", createClaim "b", startClaim "a" 0, startClaim "b" 0] ++
    answer (.claim "b") 4 ++ answer (.claim "a") 9

/-- Claim `b`, which only now reads the member, binds it as well. -/
theorem two_claims_bind_one_member :
    ∃ middle last : controlPlane.State,
      Machine.Run (fun _ _ => True) (Machine.State.idle (webCluster 1)) overtaken middle ∧
      Machine.Run (fun _ _ => True) middle (answer (.claim "b") 5) last ∧
      bindView middle = ⟨some "a", some "web-1", none, [("web-1", "a")]⟩ ∧
      bindView last = ⟨some "b", some "web-1", some "web-1", [("web-1", "a"), ("web-1", "b")]⟩ := by
  have seen : ((Machine.State.idle (webCluster 1) : controlPlane.State).exec overtaken).bind
      (fun middle => (middle.exec (answer (.claim "b") 5)).map fun last =>
        (bindView middle, bindView last)) =
      some (⟨some "a", some "web-1", none, [("web-1", "a")]⟩,
        ⟨some "b", some "web-1", some "web-1", [("web-1", "a"), ("web-1", "b")]⟩) := by
    decide +kernel
  simp only [Option.bind_eq_some_iff, Option.map_eq_some_iff] at seen
  obtain ⟨middle, first, last, second, views⟩ := seen
  rw [Prod.mk.injEq] at views
  exact ⟨middle, last, .of_exec first, .of_exec second, views.1, views.2⟩

instance (server : Server) (name : String) : DecidablePred (freshReads.grant server name)
  | .getVm _ => inferInstanceAs (Decidable (∀ object ∈ _, _ ∨ _))
  | .now | .listVms _ | .patchVm _ _ _ | .deleteVm _ | .createVm _ | .getPool _
  | .applyPoolStatus _ _ | .getImage _ | .patchFinalizers _ _ | .patchClaimStatus _ _
  | .deleteClaim _ => .isTrue trivial

instance (server : Server) (name : String) (copy : VirtualMachineClaim) :
    Decidable (freshReads.start server name copy) := .isTrue trivial

/-- Claim `a` binds the member before claim `b` looks for one. -/
theorem member_bound_once_in_turn :
    ∃ middle last : controlPlane.State,
      Machine.Run freshReads.Allows (Machine.State.idle (webCluster 1))
        ([createClaim "a", createClaim "b", startClaim "a" 0] ++ answer (.claim "a") 9) middle ∧
      Machine.Run freshReads.Allows middle ([startClaim "b" 0] ++ answer (.claim "b") 6) last ∧
      bindView last = ⟨some "a", some "web-1", none, [("web-1", "a")]⟩ ∧
      BoundByOne middle.service last.service := by
  have seen : ((Machine.State.idle (webCluster 1) : controlPlane.State).execIf freshReads.Allows
      ([createClaim "a", createClaim "b", startClaim "a" 0] ++ answer (.claim "a") 9)).bind
      (fun middle => (middle.execIf freshReads.Allows
        ([startClaim "b" 0] ++ answer (.claim "b") 6)).map bindView) =
      some ⟨some "a", some "web-1", none, [("web-1", "a")]⟩ := by
    decide +kernel
  simp only [Option.bind_eq_some_iff, Option.map_eq_some_iff] at seen
  obtain ⟨middle, first, last, second, view⟩ := seen
  have early := Machine.Run.of_execIf first
  have late := Machine.Run.of_execIf second
  exact ⟨middle, last, early, late, view,
    member_bound_once (webCluster 1) (webCluster_unclaimed 1) _ _ middle last early late⟩

end Banlieue.Controller
