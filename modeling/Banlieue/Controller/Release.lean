import Banlieue.Controller.Knowledge

namespace Banlieue.Controller

open Banlieue.Api Banlieue.Data Banlieue.Claim

/-! # A claim that is gone has no machine left

A pass lets its claim go once the machine that the claim refers to does not
exist.  The reference is written after the label, and a pass reads it from a
cached copy, so a machine can be labelled without being referred to.
-/

namespace Server

/-- A machine with the claim's label that nobody has deleted. -/
def Held (server : Server) (name member : String) : Prop :=
  ∃ object, server.machines.get member = some object ∧
    object.value.claimLabel = some name ∧ object.value.deleting = false

/-- The claim has had its finalizer and has it no more. -/
def Released (server : Server) (name : String) : Prop :=
  (∃ copy ∈ server.claims.copies name, claimFinalizer ∈ copy.metadata.finalizers) ∧
    ∀ live ∈ server.claims.live name, claimFinalizer ∉ live.metadata.finalizers

variable {server after : Server} {name member : String}

theorem Held.before (kept : LabelsKept name server after) (held : after.Held name member) :
    server.Held name member := by
  obtain ⟨object, found, labelled, undeleted⟩ := held
  obtain ⟨old, stored, label, -, deleted⟩ := kept member object found labelled
  refine ⟨old, stored, label, ?_⟩
  cases marked : old.value.deleting with
  | false => rfl
  | true =>
    rw [deleted marked] at undeleted
    contradiction

theorem Released.record (same : after.claims.record name = server.claims.record name)
    (released : after.Released name) : server.Released name := by
  unfold Released Claims.copies Claims.live at released
  rw [same] at released
  exact released

theorem Released.claims (same : after.claims = server.claims) (released : after.Released name) : server.Released name :=
  released.record (by rw [same])

theorem live_put_of_finalizer {record : ClaimRecord} {claim : VirtualMachineClaim}
    (finalizer : claimFinalizer ∈ claim.metadata.finalizers) : (record.put claim).live = some claim := by
  have nonempty : claim.metadata.finalizers.isEmpty = false := by
    cases listed : claim.metadata.finalizers with
    | nil => simp [listed] at finalizer
    | cons => rfl
  simp [ClaimRecord.put, nonempty]

theorem Released.claimStep {written : String} {change : VirtualMachineClaim → VirtualMachineClaim}
    (step : ClaimStep written change server after)
    (keeps : name = written → ∀ live, claimFinalizer ∈ live.metadata.finalizers →
      claimFinalizer ∈ (change live).metadata.finalizers) (released : after.Released name) : server.Released name := by
  obtain ⟨live, found, record⟩ := step.written
  by_cases same : name = written
  · subst same
    obtain ⟨⟨copy, had, finalizer⟩, lost⟩ := released
    simp only [Claims.copies, Claims.live, record, Function.update_self] at had lost
    have without : claimFinalizer ∉ (change live).metadata.finalizers := by
      intro kept
      exact lost _ (live_put_of_finalizer kept) kept
    refine ⟨⟨copy, ?_, finalizer⟩, ?_⟩
    · rcases Claims.mem_put.mp had with old | rfl
      · exact old
      · exact absurd finalizer without
    · intro current present
      cases found.symm.trans present
      exact fun there => without (keeps rfl live there)
  · exact released.record (by rw [record, Function.update_of_ne same])

theorem Released.disturbed (disturbed : Disturbed server after)
    (released : after.Released name) : server.Released name := by
  cases disturbed with
  | quiet step => exact released.claims step.claims
  | deleteClaim claim step => exact released.claimStep step fun _ _ there => there
  | newClaim claim machines binds unused unbound kept record =>
    by_cases same : name = claim.name
    · subst same
      obtain ⟨⟨copy, had, finalizer⟩, lost⟩ := released
      simp only [Claims.copies, Claims.live, record, Function.update_self] at had lost
      rcases Claims.mem_put.mp had with old | rfl
      · change copy ∈ server.claims.copies claim.name at old
        rw [unused] at old
        contradiction
      · exact absurd finalizer (lost copy (live_put_of_finalizer finalizer))
    · exact released.record (by rw [record, Function.update_of_ne same])

end Server

/-! ## What a pass does to claims and labels -/

section OwnCall

variable {server after : Server} {name other member : String} {copy : VirtualMachineClaim}
  {progress : Progress} {guards : Guards} {call : Call} {reply : Reply call}

theorem held_of_ownCall (served : Knowledge.OwnCall guards name copy progress server after call reply)
    (held : after.Held other member) : server.Held other member ∨ Unbound copy ∧ other = name := by
  rcases served.labelsKept other with kept | ⟨own, _, _, _, rfl, -⟩
  · exact .inl (held.before kept)
  · exact .inr ⟨served.permitted.1, own⟩

/-- Only a pass from a copy marked for deletion releases its claim, when the copy
refers to no machine or to one that does not exist. -/
theorem released_of_ownCall (served : Knowledge.OwnCall guards name copy progress server after call reply)
    (released : after.Released other) : server.Released other ∨
      other = name ∧ copy.deleting = true ∧ (copy.boundName = none ∨ progress = .gone) := by
  have own : copy.name = name := server.claims.named name copy served.copy_mem
  cases served.effect.change with
  | quiet step => exact .inl (released.claims step.claims)
  | created => exact served.permitted.elim
  | bound step => exact .inl (released.claims step.claims)
  | status step => exact .inl (released.claimStep step fun _ _ there => there)
  | marked step => exact .inl (released.claimStep step fun _ _ there => there)
  | finalizers step =>
    obtain ⟨rfl, allowed⟩ := served.permitted
    by_cases mine : other = name
    · rcases allowed with kept | gone
      · exact .inl (released.claimStep step fun _ _ _ => kept)
      · exact .inr ⟨mine, gone⟩
    · refine .inl (released.claimStep step ?_)
      intro same
      exact absurd (same.trans own) mine

end OwnCall

/-! ## Copies that name what they hold -/

/-- A pass starts from a copy marked for deletion only if the copy refers to every
machine the claim still holds, and from an unbound copy only before the release. -/
def namedHolds : Guards where
  start server name copy :=
    (copy.deleting = true → ∀ member, server.Held name member → copy.boundName = some member) ∧
      (Unbound copy → ¬ server.Released name)

structure KnowsRelease (name : String) (copy : VirtualMachineClaim) (progress : Progress)
    (server : Server) : Prop where
  holds : copy.deleting = true → ∀ member, server.Held name member → copy.boundName = some member
  gone : copy.deleting = true → progress = .gone → ∀ member, ¬ server.Held name member
  unreleased : Unbound copy → ¬ server.Released name

def releasing : Knowledge where
  invariant server := ∀ name, server.Released name → ∀ member, ¬ server.Held name member
  knows := KnowsRelease

section Sound

variable {server after : Server} {name : String} {copy : VirtualMachineClaim}
  {progress : Progress}

theorem KnowsRelease.kept (known : KnowsRelease name copy progress server)
    (held : ∀ member, after.Held name member → server.Held name member)
    (released : after.Released name → server.Released name) :
    KnowsRelease name copy progress after where
  holds := fun deleting member found => known.holds deleting member (held member found)
  gone := fun deleting reached member found => known.gone deleting reached member (held member found)
  unreleased := fun unbound done => known.unreleased unbound (released done)

theorem KnowsRelease.nothing_held (known : KnowsRelease name copy progress server)
    (deleting : copy.deleting = true) (allowed : copy.boundName = none ∨ progress = .gone)
    (member : String) : ¬ server.Held name member := by
  rcases allowed with unreferred | gone
  · intro held
    have named := known.holds deleting member held
    rw [unreferred] at named
    contradiction
  · exact known.gone deleting gone member

theorem releasing_invariant {call : Call} {reply : Reply call}
    (invariant : ∀ name, server.Released name → ∀ member, ¬ server.Held name member)
    (known : KnowsRelease name copy progress server)
    (served : Knowledge.OwnCall namedHolds name copy progress server after call reply)
    (claim : String) (released : after.Released claim) (member : String) : ¬ after.Held claim member := by
  intro held
  rcases released_of_ownCall served released with before | ⟨rfl, deleting, allowed⟩
  · rcases held_of_ownCall served held with holding | ⟨unbound, rfl⟩
    · exact invariant claim before member holding
    · exact known.unreleased unbound before
  · rcases held_of_ownCall served held with holding | ⟨unbound, -⟩
    · exact known.nothing_held deleting allowed member holding
    · rw [unbound.1] at deleting
      contradiction

theorem held_of_gone {call : Call} {reply : Reply call}
    (known : KnowsRelease name copy progress server) (deleting : copy.deleting = true)
    (served : Knowledge.OwnCall namedHolds name copy progress server after call reply)
    (moved : progress.After call reply .gone) (member : String) : ¬ server.Held name member := by
  cases moved.moved with
  | stays => exact known.gone deleting rfl member
  | @gone bound =>
    intro held
    have same := known.holds deleting member held
    rw [served.permitted] at same
    cases same
    obtain ⟨object, found, -⟩ := held
    rw [served.answer rfl] at found
    contradiction

theorem releasing_knows {call : Call} {reply : Reply call} {next : Progress}
    (known : KnowsRelease name copy progress server)
    (served : Knowledge.OwnCall namedHolds name copy progress server after call reply)
    (moved : progress.After call reply next) : KnowsRelease name copy next after where
  holds := by
    intro deleting member held
    rcases held_of_ownCall served held with before | ⟨unbound, -⟩
    · exact known.holds deleting member before
    · rw [unbound.1] at deleting
      contradiction
  gone := by
    rintro deleting rfl member held
    rcases held_of_ownCall served held with before | ⟨unbound, -⟩
    · exact held_of_gone known deleting served moved member before
    · rw [unbound.1] at deleting
      contradiction
  unreleased := by
    intro unbound released
    rcases released_of_ownCall served released with before | ⟨-, deleting, -⟩
    · exact known.unreleased unbound before
    · rw [unbound.1] at deleting
      contradiction

theorem releasing_sound : releasing.Sound namedHolds where
  started := fun _ _ allowed => ⟨allowed.1, fun _ => nofun, allowed.2⟩
  own := fun invariant known served =>
    ⟨releasing_invariant invariant known served, fun _ moved => releasing_knows known served moved⟩
  ambient := by
    intro server after invariant disturbed name released member held
    exact invariant name (released.disturbed disturbed) member (held.before disturbed.labelsKept)
  stable := by
    intro server after name copy progress _ _ known disturbed
    exact known.kept (fun _ held => held.before disturbed.labelsKept) fun done => done.disturbed disturbed
  apart := by
    intro server after name copy progress other _ _ call reply _ _ known different _ served
    apply KnowsRelease.kept known
    · intro member held
      exact (held_of_ownCall served held).resolve_right fun own => different own.2.symm
    · intro released
      exact (released_of_ownCall served released).resolve_right fun own => different own.1.symm

end Sound

/-! ## Every run -/

/-- In every run in which copies marked for deletion refer to what their claims
hold, every machine with the label of a released claim has been deleted. -/
theorem released_claim_holds_nothing (start : Server)
    (unused : ∀ name, start.claims.copies name = []) (events : List controlPlane.Event)
    (last : controlPlane.State)
    (run : Machine.Run namedHolds.Allows (Machine.State.idle start) events last)
    (name : String) (released : Server.Released last.service name) (member : String)
    (object : Versioned VirtualMachine)
    (found : (Server.machines last.service).get member = some object)
    (labelled : object.value.claimLabel = some name) : object.value.deleting = true := by
  have initial : releasing.invariant start := by
    rintro claim ⟨⟨copy, had, -⟩, -⟩
    rw [unused] at had
    contradiction
  have invariant := (releasing_sound.inductive.run run (Machine.holds_idle initial)).1
  cases kept : object.value.deleting with
  | true => rfl
  | false => exact absurd ⟨object, found, labelled, kept⟩ (invariant name released member)

/-! ## A crash between the two writes of a bind -/

instance (server : Server) (name : String) : Decidable (server.Released name) :=
  inferInstanceAs (Decidable (_ ∧ _))

def Server.isReleased (server : Server) (name : String) : Bool :=
  decide (server.Released name)

structure ReleaseView where
  label : Option String
  deleting : Option Bool
  present : Bool
  released : Bool
deriving DecidableEq

def releaseView (state : controlPlane.State) : ReleaseView where
  label := (Server.machines state.service).get "web-1" |>.bind fun object => object.value.claimLabel
  deleting := (Server.machines state.service).get "web-1" |>.map fun object => object.value.deleting
  present := ((Server.claims state.service).live "a").isSome
  released := Server.isReleased state.service "a"

def deleteClaim (name : String) : controlPlane.Event :=
  .disturb (Server.Disturbance.deleteClaim name)

/-- Claim `a` labels the member, and its pass crashes before the status patch.  The
claim is deleted, and the next pass lets it go. -/
def forgottenBind : List controlPlane.Event :=
  [createClaim "a", startClaim "a" 0] ++ answer (.claim "a") 7 ++
    [.crash (Task.claim "a"), deleteClaim "a", startClaim "a" 2] ++ answer (.claim "a") 2

theorem released_claim_holds_machine :
    ∃ last : controlPlane.State,
      Machine.Run (fun _ _ => True) (Machine.State.idle (webCluster 1)) forgottenBind last ∧
      releaseView last = ⟨some "a", some false, false, true⟩ := by
  have seen : ((Machine.State.idle (webCluster 1) : controlPlane.State).exec forgottenBind).map
      releaseView = some ⟨some "a", some false, false, true⟩ := by
    decide +kernel
  obtain ⟨last, executed, view⟩ := Option.map_eq_some_iff.mp seen
  exact ⟨last, .of_exec executed, view⟩

instance (server : Server) (name : String) (copy : VirtualMachineClaim) :
    Decidable (namedHolds.start server name copy) :=
  decidable_of_iff
    ((copy.deleting = true → ∀ entry ∈ server.machines.store.list,
      entry.2.value.claimLabel = some name → entry.2.value.deleting = false →
        copy.boundName = some entry.1) ∧
      ((copy.deleting = false ∧ copy.boundName = none) → ¬ server.Released name)) (by
    have holds : (∀ entry ∈ server.machines.store.list,
        entry.2.value.claimLabel = some name → entry.2.value.deleting = false →
          copy.boundName = some entry.1) ↔
        ∀ member, server.Held name member → copy.boundName = some member := by
      constructor
      · rintro named member ⟨object, found, labelled, kept⟩
        exact named (member, object) (VersionedStore.mem_list.mpr found) labelled kept
      · rintro named ⟨member, object⟩ listed labelled kept
        exact named member ⟨object, VersionedStore.mem_list.mp listed, labelled, kept⟩
    rw [holds]
    rfl)

instance (server : Server) (name : String) : DecidablePred (namedHolds.grant server name) :=
  fun _ => .isTrue trivial

/-- The pass crashes at the same place, but the machine is deleted before the claim. -/
theorem released_claim_holds_nothing_in_turn :
    ∃ (last : controlPlane.State) (object : Versioned VirtualMachine),
      Machine.Run namedHolds.Allows (Machine.State.idle (webCluster 1))
        ([createClaim "a", startClaim "a" 0] ++ answer (.claim "a") 7 ++
          [.crash (Task.claim "a"), .disturb (Server.Disturbance.deleteVm "web-1"),
            deleteClaim "a", startClaim "a" 2] ++ answer (.claim "a") 2) last ∧
      releaseView last = ⟨some "a", some true, false, true⟩ ∧
      (Server.machines last.service).get "web-1" = some object ∧
      object.value.deleting = true := by
  have seen : ((Machine.State.idle (webCluster 1) : controlPlane.State).execIf namedHolds.Allows
      ([createClaim "a", startClaim "a" 0] ++ answer (.claim "a") 7 ++
        [.crash (Task.claim "a"), .disturb (Server.Disturbance.deleteVm "web-1"),
          deleteClaim "a", startClaim "a" 2] ++ answer (.claim "a") 2)).map
      releaseView = some ⟨some "a", some true, false, true⟩ := by
    decide +kernel
  obtain ⟨last, executed, view⟩ := Option.map_eq_some_iff.mp seen
  have run := Machine.Run.of_execIf executed
  have released : Server.Released last.service "a" :=
    @of_decide_eq_true _ (_) (congrArg ReleaseView.released view)
  have label := congrArg ReleaseView.label view
  obtain ⟨object, found, labelled⟩ := Option.bind_eq_some_iff.mp label
  exact ⟨last, object, run, view, found,
    released_claim_holds_nothing (webCluster 1) (webCluster_unclaimed 1).unused _ last run "a"
      released "web-1" object found labelled⟩

end Banlieue.Controller
