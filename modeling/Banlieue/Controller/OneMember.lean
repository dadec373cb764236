import Banlieue.Controller.Knowledge

namespace Banlieue.Controller

open Banlieue.Api Banlieue.Data Banlieue.Claim

/-! # A claim takes one member

A pass that finds no reference in its copy looks for a member that already has
the claim's label before it takes another one.  Its list is fresh, and only the
claim's own passes write that label, so the list shows every member the claim
has, however old the copy and wherever the passes before it ended.
-/

namespace Server

def Labelled (server : Server) (name member : String) : Prop :=
  ∃ object, server.machines.get member = some object ∧ object.value.claimLabel = some name

/-- A claim has one member at most, of the pool its spec names. -/
structure OneMember (server : Server) : Prop where
  single : ∀ name first second, server.Labelled name first → server.Labelled name second →
    first = second
  pooled : ∀ name member object copy, server.machines.get member = some object →
    object.value.claimLabel = some name → copy ∈ server.claims.copies name →
    object.value.poolLabel = some copy.spec.poolRef.name
  known : ∀ name member, server.Labelled name member → server.claims.copies name ≠ []

variable {server after : Server} {name member : String}

theorem Labelled.before (kept : LabelsKept name server after)
    (labelled : after.Labelled name member) : server.Labelled name member := by
  obtain ⟨object, found, label⟩ := labelled
  obtain ⟨old, stored, own, -⟩ := kept member object found label
  exact ⟨old, stored, own⟩

theorem OneMember.pooled_of_spec {object : Versioned VirtualMachine}
    {copy : VirtualMachineClaim} (one : OneMember server) (found : server.machines.get member = some object)
    (label : object.value.claimLabel = some name) (same : ∀ old ∈ server.claims.copies name, copy.spec = old.spec) :
    object.value.poolLabel = some copy.spec.poolRef.name := by
  obtain ⟨old, had⟩ := List.exists_mem_of_ne_nil _ (one.known name member ⟨object, found, label⟩)
  rw [same old had]
  exact one.pooled name member object old found label had

theorem OneMember.kept (one : OneMember server)
    (labels : ∀ claim, LabelsKept claim server after)
    (copies : ∀ claim copy, copy ∈ server.claims.copies claim → copy ∈ after.claims.copies claim) :
    OneMember after where
  single := by
    intro claim first second left right
    exact one.single claim first second (left.before (labels claim)) (right.before (labels claim))
  pooled := by
    intro claim machine object copy found label had
    obtain ⟨old, stored, own, pool, -⟩ := labels claim machine object found label
    rw [pool]
    apply one.pooled_of_spec stored own
    intro earlier present
    exact after.claims.sameSpec claim copy had earlier (copies claim earlier present)
  known := by
    intro claim machine labelled
    obtain ⟨copy, had⟩ := List.exists_mem_of_ne_nil _ (one.known claim machine (labelled.before (labels claim)))
    exact List.ne_nil_of_mem (copies claim copy had)

end Server

/-! ## What the list shows -/

/-- The list shows whatever the claim has, one member at most, and only machines
of the claim's pool. -/
structure Shows (name : String) (copy : VirtualMachineClaim) (members : List VirtualMachine)
    (server : Server) : Prop where
  all : ∀ member, server.Labelled name member →
    ∃ vm ∈ members, vm.name = member ∧ vm.claimLabel = some name
  single : ∀ first ∈ members, ∀ second ∈ members, first.claimLabel = some name →
    second.claimLabel = some name → first.name = second.name
  pooled : ∀ vm ∈ members, vm.name ∈ server.machines.names ∧
    ∀ object, server.machines.get vm.name = some object →
      object.value.poolLabel = some copy.spec.poolRef.name

def KnowsMembers (name : String) (copy : VirtualMachineClaim) (progress : Progress)
    (server : Server) : Prop :=
  match progress with
  | .listed members | .read members _ _ => Shows name copy members server
  | .started | .bound _ | .gone => True

def oneMember : Knowledge where
  invariant := Server.OneMember
  knows := KnowsMembers

section Shows

variable {server after : Server} {name : String} {copy : VirtualMachineClaim}
  {members : List VirtualMachine}

theorem shows_listPool (one : server.OneMember) (had : copy ∈ server.claims.copies name) :
    Shows name copy (server.machines.listPool copy.spec.poolRef.name) server where
  all := by
    rintro member ⟨object, found, label⟩
    have own := Machines.name_eq found
    refine ⟨object.value, Machines.mem_listPool.mpr ⟨object, ?_, rfl, ?_⟩, own, label⟩
    · rw [own]
      exact found
    · exact one.pooled name member object copy found label had
  single := by
    intro first listed second listed' label label'
    obtain ⟨object, found, rfl, -⟩ := Machines.mem_listPool.mp listed
    obtain ⟨object', found', rfl, -⟩ := Machines.mem_listPool.mp listed'
    exact one.single name _ _ ⟨object, found, label⟩ ⟨object', found', label'⟩
  pooled := by
    intro vm listed
    obtain ⟨object, found, rfl, pool⟩ := Machines.mem_listPool.mp listed
    refine ⟨Machines.mem_names found, ?_⟩
    intro current present
    rw [found] at present
    cases present
    exact pool

theorem Shows.kept (shown : Shows name copy members server)
    (labels : Server.LabelsKept name server after) (pools : Server.PoolsKept server after) :
    Shows name copy members after where
  all := fun member labelled => shown.all member (labelled.before labels)
  single := shown.single
  pooled := by
    intro vm listed
    obtain ⟨given, pool⟩ := shown.pooled vm listed
    refine ⟨pools.names _ given, ?_⟩
    intro object found
    obtain ⟨old, stored, same⟩ := pools.pools _ given object found
    rw [same]
    exact pool old stored

theorem Shows.only_candidate {member other : String} (shown : Shows name copy members server)
    (candidate : Candidate name members member) (labelled : server.Labelled name other) : other = member := by
  obtain ⟨vm, listed, rfl, own | free⟩ := candidate
  · obtain ⟨shownVm, shownListed, rfl, label⟩ := shown.all other labelled
    exact shown.single shownVm shownListed vm listed label own
  · obtain ⟨shownVm, shownListed, -, label⟩ := shown.all other labelled
    exact absurd label (free shownVm shownListed)

theorem Server.OneMember.bindStep {member : String} {version : Nat} {patch : MemberPatch}
    (one : server.OneMember) (step : Server.BindStep member version patch server after)
    (had : copy ∈ server.claims.copies name) (claims : patch.claim = name)
    (shown : Shows name copy members server) (candidate : Candidate name members member) : after.OneMember := by
  subst claims
  have only : ∀ other, after.Labelled patch.claim other → other = member := by
    rintro other ⟨current, present, label⟩
    rcases step.get present with ⟨same, -⟩ | ⟨-, before⟩
    · exact same
    · exact shown.only_candidate candidate ⟨current, before, label⟩
  have labels : ∀ claim, claim ≠ patch.claim → Server.LabelsKept claim server after :=
    fun claim different => .bindStep step different
  refine ⟨?_, ?_, ?_⟩
  · intro claim first second left right
    by_cases own : claim = patch.claim
    · subst own
      rw [only first left, only second right]
    · exact one.single claim first second (left.before (labels claim own)) (right.before (labels claim own))
  · intro claim machine current other present label had'
    rw [step.claims] at had'
    rcases step.get present with ⟨rfl, object, found, -, patched⟩ | ⟨-, before⟩
    · rw [patched, MemberPatch.apply_claimLabel, Option.some.injEq] at label
      subst label
      obtain ⟨vm, listed, rfl, -⟩ := candidate
      rw [patched, MemberPatch.apply_poolLabel, server.claims.sameSpec _ other had' copy had]
      exact (shown.pooled vm listed).2 object found
    · exact one.pooled claim machine current other before label had'
  · intro claim machine labelled
    rw [step.claims]
    by_cases own : claim = patch.claim
    · subst own
      exact List.ne_nil_of_mem had
    · exact one.known claim machine (labelled.before (labels claim own))

end Shows

/-! ## Every pass -/

section Sound

variable {server after : Server} {name : String} {copy : VirtualMachineClaim}
  {progress : Progress} {call : Call} {reply : Reply call}

theorem KnowsMembers.kept (known : KnowsMembers name copy progress server)
    (labels : Server.LabelsKept name server after) (pools : Server.PoolsKept server after) :
    KnowsMembers name copy progress after := by
  cases progress with
  | listed members | read members member object => exact Shows.kept known labels pools
  | started | bound | gone => trivial

theorem oneMember_invariant (one : server.OneMember) (known : KnowsMembers name copy progress server)
    (served : Knowledge.OwnCall {} name copy progress server after call reply) : after.OneMember := by
  rcases served.labelsKept name with kept | ⟨-, member, version, patch, rfl, step⟩
  · refine one.kept ?_ fun _ _ had => served.effect.copies had
    intro claim
    rcases served.labelsKept claim with same | ⟨rfl, -⟩
    · exact same
    · exact kept
  · obtain ⟨-, claims, members, object, rfl, -, candidate⟩ := served.permitted
    have own : copy.name = name := server.claims.named name copy served.copy_mem
    rw [own] at claims candidate
    exact one.bindStep step served.copy_mem claims known candidate

theorem oneMember_knows {next : Progress} (one : server.OneMember) (known : KnowsMembers name copy progress server)
    (served : Knowledge.OwnCall {} name copy progress server after call reply)
    (moved : progress.After call reply next) : KnowsMembers name copy next after := by
  have pools := served.poolsKept
  cases moved.moved with
  | stays unbinding =>
    rcases served.labelsKept name with labels | ⟨-, member, version, patch, same, -⟩
    · exact known.kept labels pools
    · exact absurd same (unbinding member version patch)
  | read found =>
    subst found
    exact Shows.kept known (.machines served.effect.machines) pools
  | listed =>
    cases served.permitted
    cases served.answer
    exact (shows_listPool one served.copy_mem).kept (.machines served.effect.machines) pools
  | bound | refused | gone => trivial

theorem oneMember_sound : oneMember.Sound {} where
  started := fun _ _ _ => trivial
  own := fun one known served =>
    ⟨oneMember_invariant one known served, fun _ moved => oneMember_knows one known served moved⟩
  ambient := by
    intro server after one disturbed
    exact one.kept (fun _ => disturbed.labelsKept) fun _ _ had => disturbed.copies had
  stable := by
    intro server after name copy progress _ _ known disturbed
    exact KnowsMembers.kept known disturbed.labelsKept disturbed.poolsKept
  apart := by
    intro server after name copy progress other _ _ call reply _ _ known different _ served
    have labels := (served.labelsKept name).resolve_right fun own => different own.1.symm
    exact KnowsMembers.kept known labels served.poolsKept

end Sound

/-! ## Every run -/

/-- In every run, at every moment, at most one machine carries a claim's label. -/
theorem claim_takes_one_member (start : Server)
    (unlabelled : ∀ member object, start.machines.get member = some object →
      object.value.claimLabel = none)
    (events : List controlPlane.Event) (last : controlPlane.State)
    (run : Machine.Run (fun _ _ => True) (Machine.State.idle start) events last)
    (name first second : String) (labelled : Server.Labelled last.service name first)
    (labelled' : Server.Labelled last.service name second) : first = second := by
  have free : ∀ claim member, ¬ start.Labelled claim member := by
    rintro claim member ⟨object, found, label⟩
    rw [unlabelled member object found] at label
    contradiction
  have initial : start.OneMember := by
    refine ⟨?_, ?_, ?_⟩
    · intro claim member _ there
      exact absurd there (free claim member)
    · intro claim member object _ found label
      exact absurd ⟨object, found, label⟩ (free claim member)
    · intro claim member there
      exact absurd there (free claim member)
  have guarded := run.mono fun state event _ => Guards.allows_all state event
  have one := (oneMember_sound.inductive.run guarded (Machine.holds_idle initial)).1
  exact Server.OneMember.single one name first second labelled labelled'

structure LabelView where
  first : Option String
  second : Option String
  reference : Option String
deriving DecidableEq

def labelView (state : controlPlane.State) : LabelView where
  first := (Server.machines state.service).get "web-1" |>.bind fun object => object.value.claimLabel
  second := (Server.machines state.service).get "web-2" |>.bind fun object => object.value.claimLabel
  reference := (Server.claims state.service).live "a" |>.bind VirtualMachineClaim.boundName

/-- Claim `a` labels `web-1` and crashes; a second pass from the same old copy
finishes the bind although `web-2` is free. -/
theorem claim_takes_one_member_after_crash :
    ∃ last : controlPlane.State,
      Machine.Run (fun _ _ => True) (Machine.State.idle (webCluster 2))
        ([.disturb (Server.Disturbance.createVm "web-2" webMember), createClaim "a",
          startClaim "a" 0] ++ answer (.claim "a") 7 ++
          [.crash (Task.claim "a"), startClaim "a" 0] ++ answer (.claim "a") 8) last ∧
      labelView last = ⟨some "a", none, some "web-1"⟩ ∧
      Server.Labelled last.service "a" "web-1" ∧
      ∀ member, Server.Labelled last.service "a" member → member = "web-1" := by
  have seen : ((Machine.State.idle (webCluster 2) : controlPlane.State).exec
      ([.disturb (Server.Disturbance.createVm "web-2" webMember), createClaim "a",
        startClaim "a" 0] ++ answer (.claim "a") 7 ++
        [.crash (Task.claim "a"), startClaim "a" 0] ++ answer (.claim "a") 8)).map
      labelView = some ⟨some "a", none, some "web-1"⟩ := by
    decide +kernel
  obtain ⟨last, executed, view⟩ := Option.map_eq_some_iff.mp seen
  have run : Machine.Run (fun _ _ => True) _ _ last := .of_exec executed
  have labelled : Server.Labelled last.service "a" "web-1" :=
    Option.bind_eq_some_iff.mp (congrArg LabelView.first view)
  refine ⟨last, run, view, labelled, ?_⟩
  intro member there
  exact claim_takes_one_member (webCluster 2) (webCluster_unclaimed 2).unlabelled _ last run
    "a" member "web-1" there labelled

end Banlieue.Controller
