import Banlieue.Vm.Placement
import Banlieue.Vm.System

namespace Banlieue.Vm

open Banlieue.Api Banlieue.Data Banlieue.Data.Program Banlieue.Infra Banlieue.Sdk Banlieue.Scheduler
open Banlieue.Controller (Error Action)

/-! # Addresses are carried once

A pass checks its addresses against the store, applies its infra machine, and records
what it holds only afterwards.
-/

section Claims

variable {text : AddressText} {vm : VirtualMachine} {vmClass : VMClass}

/-- The same address on the same network, on whatever interface. -/
def AddressClaim.Same (claim other : AddressClaim) : Prop :=
  claim.networkClass = other.networkClass ∧ claim.address = other.address

theorem AddressClaim.Same.matches {claim other : AddressClaim} (same : claim.Same other)
    (third : AddressClaim) : claim.matches third = other.matches third := by
  simp only [AddressClaim.matches, same.1, same.2]

def DistinctInterfaces (vmClass : VMClass) : Prop :=
  (vmClass.spec.network.interfaces.map NetworkInterfaceSpec.name).Nodup

theorem find_interface {interfaces : List NetworkInterfaceSpec} {nic : NetworkInterfaceSpec}
    (distinct : (interfaces.map NetworkInterfaceSpec.name).Nodup) (member : nic ∈ interfaces) :
    (interfaces.find? fun found => found.name == nic.name) = some nic := by
  induction interfaces with
  | nil => contradiction
  | cons first rest ih =>
    rw [List.map_cons, List.nodup_cons] at distinct
    rw [List.find?_cons]
    rcases List.mem_cons.mp member with rfl | later
    · simp
    · have apart : first.name ≠ nic.name := fun same => distinct.1 (same ▸ List.mem_map_of_mem later)
      rw [beq_false_of_ne apart]
      exact ih distinct.2 later

theorem declared_of_requested {nic : NetworkInterfaceSpec} {config : StaticIpamConfig}
    (distinct : DistinctInterfaces vmClass) (member : nic ∈ vmClass.spec.network.interfaces)
    (given : staticFor vm nic = some config) :
    { interface := nic.name, networkClass := some nic.networkClass,
      address := normalize text config.address } ∈ declaredClaims text vm (some vmClass) := by
  obtain ⟨override, found, rfl⟩ := Option.map_eq_some_iff.mp given
  have named : override.name = nic.name := by
    have test := List.find?_some found
    simpa only [beq_iff_eq] using test
  refine List.mem_filterMap.mpr ⟨override, List.mem_of_find?_eq_some found, ?_⟩
  simp only [named, find_interface distinct member, Option.map_some]

/-- What an infra machine carries that was built for the machine and its class. -/
structure AppliedInfra.LoadedFrom (vm : VirtualMachine) (vmClass : VMClass) (applied : AppliedInfra) :
    Prop where
  addresses : ∃ decision,
    applied.object.machine.staticAddresses = requestedAddresses vm vmClass decision
  networkClasses : applied.networkClasses =
    vmClass.spec.network.interfaces.map NetworkInterfaceSpec.networkClass

variable {applied : AppliedInfra}

theorem AppliedInfra.LoadedFrom.claim {claim : AddressClaim}
    (loaded : applied.LoadedFrom vm vmClass) (carried : claim ∈ applied.claims text) :
    ∃ nic ∈ vmClass.spec.network.interfaces, ∃ config, staticFor vm nic = some config ∧
      claim = { interface := nic.name, networkClass := some nic.networkClass,
                address := normalize text config.address } := by
  obtain ⟨decision, addresses⟩ := loaded.addresses
  simp only [AppliedInfra.claims, addresses, requestedAddresses, loaded.networkClasses] at carried
  generalize decision.resolvedNetworks = networks at carried
  generalize vmClass.spec.network.interfaces = interfaces at carried ⊢
  induction interfaces generalizing networks with
  | nil => simp at carried
  | cons nic rest ih =>
    cases networks with
    | nil => simp at carried
    | cons resolved others =>
      simp only [List.zipWith_cons_cons, List.map_cons, List.zip_cons_cons] at carried
      obtain ⟨entry, member, built⟩ := List.mem_filterMap.mp carried
      rcases List.mem_cons.mp member with rfl | later
      · simp only [Option.map_map, Option.map_eq_some_iff] at built
        obtain ⟨config, given, rfl⟩ := built
        exact ⟨nic, List.mem_cons_self, config, given, rfl⟩
      · obtain ⟨found, listed, given⟩ := ih others (List.mem_filterMap.mpr ⟨entry, later, built⟩)
        exact ⟨found, List.mem_cons_of_mem nic listed, given⟩

theorem AppliedInfra.LoadedFrom.declared {claim : AddressClaim}
    (loaded : applied.LoadedFrom vm vmClass) (distinct : DistinctInterfaces vmClass)
    (carried : claim ∈ applied.claims text) : claim ∈ declaredClaims text vm (some vmClass) := by
  obtain ⟨nic, member, config, given, rfl⟩ := loaded.claim carried
  exact declared_of_requested distinct member given

theorem AppliedInfra.LoadedFrom.claims_of_bare
    (loaded : applied.LoadedFrom vm vmClass) (bare : vm.spec.networkOverrides = []) : applied.claims text = [] := by
  rw [List.eq_nil_iff_forall_not_mem]
  intro claim carried
  obtain ⟨nic, -, config, given, -⟩ := loaded.claim carried
  simp [staticFor, bare] at given

end Claims

/-! ## The check -/

/-- Infra machines of different machines carry different addresses. -/
def Cluster.Exclusive (text : AddressText) (cluster : Cluster) : Prop :=
  ∀ first ∈ cluster.infra, ∀ second ∈ cluster.infra, first.key ≠ second.key →
    ∀ claim ∈ first.claims text, ∀ other ∈ second.claims text, claim.matches other = false

/-- What infra machines of others carry is shown as held by them and by nobody else. -/
def Cluster.ShowsHeld (text : AddressText) (cluster : Cluster) (reader : VirtualMachine)
    (vms : List VirtualMachine) : Prop :=
  ∀ applied ∈ cluster.infra, applied.key ≠ key reader → ∀ claim ∈ applied.claims text,
    (∃ holder ∈ vms, key holder = applied.key ∧ ∃ held ∈ heldClaims text holder, held.Same claim) ∧
      ∀ other ∈ everyone reader vms, key other ≠ applied.key →
        ∀ held ∈ heldClaims text other, held.matches claim = false

/-- The addresses are on no infra machine of another machine. -/
def Cluster.Free (text : AddressText) (cluster : Cluster) (vm : VmKey) (claims : List AddressClaim) :
    Prop :=
  ∀ claim ∈ claims, ∀ applied ∈ cluster.infra, applied.key ≠ vm →
    ∀ carried ∈ applied.claims text, carried.matches claim = false

section Check

variable {text : AddressText} {cluster : Cluster} {reader : VirtualMachine} {vmClass : VMClass}
  {classes : List VMClass} {snapshot : Snapshot}

/-- A machine without a duplicate declares nothing that is carried elsewhere, if the
store shows who carries what. -/
theorem Cluster.ShowsHeld.free (shown : cluster.ShowsHeld text reader snapshot.vms)
    (named : vmClass.name = reader.spec.classRef.name)
    (clear : findDuplicateAddress text reader (contendingVms text reader snapshot.vms) (vmClass :: classes) = none) :
    cluster.Free text (key reader) (declaredClaims text reader (some vmClass)) := by
  have own : classOf (vmClass :: classes) reader = some vmClass := by
    simp [classOf, named]
  rw [findDuplicateAddress, reservations_contending snapshot.distinct, Option.map_eq_none_iff] at clear
  intro declared listed applied stored apart carried member
  obtain ⟨⟨holder, among, same, held, kept, alike⟩, alone⟩ := shown applied stored apart carried member
  have considered (vm : VirtualMachine)
      (one : vm ∈ (snapshot.vms.filter fun other => key other != key reader) ++ [reader]) :
      vm ∈ everyone reader snapshot.vms :=
    (everyone_perm reader snapshot.vms).symm.subset one
  have holding : holder ∈ everyone reader snapshot.vms :=
    considered holder (List.mem_append_left _ (List.mem_filter.mpr ⟨among, by simpa [same] using apart⟩))
  obtain ⟨earlier, later, order⟩ := List.append_of_mem holding
  -- Nobody before the holder has the address, so it is reserved for the holder.
  have reserved : (held, (claimant text (vmClass :: classes) holder).key) ∈ (settleHeld AddressClaim.matches
        ((everyone reader snapshot.vms).map (claimant text (vmClass :: classes)))).reserved := by
    refine settleHeld_reserves (by rw [order, List.map_append, List.map_cons]) kept ?_
    intro other before different older theirs
    obtain ⟨machine, place, rfl⟩ := List.mem_map.mp before
    rw [AddressClaim.matches_comm, alike.matches, AddressClaim.matches_comm]
    refine alone machine ?_ (same ▸ different) older theirs
    rw [order]
    exact List.mem_append_left _ place
  rw [← alike.matches]
  refine settle_apart_held (List.mem_map_of_mem (considered reader (by simp))) ?_ clear reserved declared ?_
  · exact fun mine => apart (same.symm.trans mine)
  · simpa only [claimant, own] using listed

end Check

/-! ## What a pass is about to apply -/

/-- The pass can come to apply this infra machine without reading the store again. -/
inductive Commits {α : Type} (fresh : AppliedInfra) : Program Call Reply α → Prop where
  | next {machine : InfraMachine} {networkClasses : List String}
      {continuation : Reply (.applyInfra machine networkClasses) → Program Call Reply α}
      (same : fresh = .fresh machine networkClasses) :
      Commits fresh (.await (.applyInfra machine networkClasses) continuation)
  | later {call : Call} {continuation : Reply call → Program Call Reply α}
      (unread : ∀ reader, call ≠ .storeState reader) (reply : Reply call)
      (rest : Commits fresh (continuation reply)) : Commits fresh (.await call continuation)

/-- What the pass has read leads to this infra machine: it carries no address, or none
that the store showed a contender for. -/
structure Learnt.Grants (context : Context) (learnt : Learnt) (fresh : AppliedInfra) : Prop where
  own : fresh.key = key learnt.copy
  checked : fresh.claims context.text = [] ∨
    ∃ vmClass vms classes, learnt.store = some (vmClass, vms) ∧
      fresh.LoadedFrom learnt.copy vmClass ∧
      findDuplicateAddress context.text learnt.copy (contendingVms context.text learnt.copy vms)
        (vmClass :: classes) = none

section Grants

variable {context : Context} {learnt : Learnt} {fresh : AppliedInfra} {call : Call} {α : Type}

theorem Learnt.Places.grants {machine : InfraMachine} {networkClasses : List String}
    (places : learnt.Places context machine networkClasses) :
    learnt.Grants context (.fresh machine networkClasses) := by
  obtain ⟨vmClass, -, -, -, -, decision, -, built, classes, unopposed⟩ := places
  have loaded : (AppliedInfra.fresh machine networkClasses).LoadedFrom learnt.copy vmClass :=
    ⟨⟨decision, built.staticAddresses⟩, classes⟩
  refine ⟨AppliedInfra.key_fresh built networkClasses, ?_⟩
  rcases unopposed with bare | ⟨vms, stored, others, clear⟩
  · exact .inl (loaded.claims_of_bare bare)
  · exact .inr ⟨vmClass, vms, others, stored, loaded, clear⟩

theorem Learnt.store_after (unread : ∀ reader, call ≠ .storeState reader) (reply : Reply call) :
    (learnt.after call reply).store = learnt.store ∨ (learnt.after call reply).store = none := by
  unfold after
  split
  · exact .inl rfl
  · exact .inl rfl
  · exact absurd rfl (unread _)
  · exact absurd rfl (unread _)
  · exact .inr rfl
  · exact .inl rfl

theorem Learnt.Grants.before (unread : ∀ reader, call ≠ .storeState reader) {reply : Reply call}
    (grants : (learnt.after call reply).Grants context fresh) : learnt.Grants context fresh := by
  have copied := learnt.copy_after call reply
  refine ⟨copied ▸ grants.own, ?_⟩
  rcases grants.checked with bare | ⟨vmClass, vms, classes, stored, loaded, clear⟩
  · exact .inl bare
  · rw [copied] at loaded clear
    refine .inr ⟨vmClass, vms, classes, ?_, loaded, clear⟩
    rcases learnt.store_after unread reply with same | gone
    · rw [← same, stored]
    · rw [gone] at stored
      contradiction

theorem Commits.grants {program : Program Call Reply α} {post : α → Learnt → Prop}
    (commits : Commits fresh program) (obeyed : program.Obeys (discipline context) post learnt) :
    learnt.Grants context fresh := by
  induction commits generalizing learnt with
  | next same =>
    rw [same]
    exact Learnt.Places.grants obeyed.1
  | later unread reply _ ih =>
    obtain ⟨after, advanced, rest⟩ := obeyed.2 reply trivial
    subst advanced
    exact (ih rest).before unread

end Grants

/-! ## Runs -/

section Steps

variable {text : AddressText} {before after : Cluster} {vm : VmKey} {claims : List AddressClaim}
  {fresh : AppliedInfra}

theorem Cluster.Free.applies (free : before.Free text vm claims) (applies : before.Applies fresh after)
    (harmless : fresh.key ≠ vm → ∀ claim ∈ claims, ∀ carried ∈ fresh.claims text,
      carried.matches claim = false) : after.Free text vm claims := by
  intro claim listed applied member apart carried load
  rcases applies applied member with ⟨old, stored, later⟩ | new
  · rw [later.claims text] at load
    exact free claim listed old stored (later.key ▸ apart) carried load
  · rw [new.claims text] at load
    exact harmless (new.key ▸ apart) claim listed carried load

theorem Cluster.Free.keeps (free : before.Free text vm claims) (keeps : before.Keeps after) :
    after.Free text vm claims := by
  intro claim listed applied member apart carried load
  obtain ⟨old, stored, later⟩ := keeps applied member
  rw [later.claims text] at load
  exact free claim listed old stored (later.key ▸ apart) carried load

theorem Cluster.free_nil (cluster : Cluster) : cluster.Free text vm [] :=
  fun _ impossible => nomatch impossible

theorem Cluster.Exclusive.keeps (exclusive : before.Exclusive text) (keeps : before.Keeps after) :
    after.Exclusive text := by
  intro first firstIn second secondIn apart claim claimed other held
  obtain ⟨firstOld, firstStored, firstLater⟩ := keeps first firstIn
  obtain ⟨secondOld, secondStored, secondLater⟩ := keeps second secondIn
  rw [firstLater.key, secondLater.key] at apart
  rw [firstLater.claims text] at claimed
  rw [secondLater.claims text] at held
  exact exclusive firstOld firstStored secondOld secondStored apart claim claimed other held

theorem Cluster.Exclusive.applies (exclusive : before.Exclusive text) (applies : before.Applies fresh after)
    (free : before.Free text fresh.key (fresh.claims text)) : after.Exclusive text := by
  intro first firstIn second secondIn apart claim claimed other held
  rcases applies first firstIn with ⟨firstOld, firstStored, firstLater⟩ | firstNew
  · rw [firstLater.key] at apart
    rw [firstLater.claims text] at claimed
    rcases applies second secondIn with ⟨secondOld, secondStored, secondLater⟩ | secondNew
    · rw [secondLater.key] at apart
      rw [secondLater.claims text] at held
      exact exclusive firstOld firstStored secondOld secondStored apart claim claimed other held
    · rw [secondNew.key] at apart
      rw [secondNew.claims text] at held
      exact free other held firstOld firstStored apart claim claimed
  · rw [firstNew.key] at apart
    rw [firstNew.claims text] at claimed
    rcases applies second secondIn with ⟨secondOld, secondStored, secondLater⟩ | secondNew
    · rw [secondLater.key] at apart
      rw [secondLater.claims text] at held
      rw [AddressClaim.matches_comm]
      exact free claim claimed secondOld secondStored (Ne.symm apart) other held
    · exact absurd secondNew.key.symm apart

end Steps

/-- The classes a pass has read are its machine's, and name each interface once. -/
def ClassesRead (vm : VmKey) (learnt : Learnt) (_ : Cluster) : Prop :=
  key learnt.copy = vm ∧
    ∀ vmClass, (learnt.vmClass = some vmClass ∨ ∃ vms, learnt.store = some (vmClass, vms)) →
      vmClass.name = learnt.copy.spec.classRef.name ∧ DistinctInterfaces vmClass

/-- Classes name each interface once; the store is read only when it shows who holds
what others' infra machines carry; and addresses are applied only while no other pass
has checked its own and not yet applied them. -/
def CarefulCall (context : Context) (state : (vmMachine context).State) (vm : VmKey)
    (choice : Cluster.Choice) : Call → Prop
  | .getClass name => ∀ vmClass ∈ Cluster.classNamed state.service name, DistinctInterfaces vmClass
  | .storeState reader =>
    Cluster.ShowsHeld context.text state.service reader
      (Cluster.store state.service choice.age).vms
  | .applyInfra machine networkClasses =>
    (AppliedInfra.fresh machine networkClasses).claims context.text = [] ∨
      ∀ other program fresh, other ≠ vm → state.running other = some program →
        Commits fresh program → fresh.claims context.text = []
  | _ => True

def Careful (context : Context) (state : (vmMachine context).State) : (vmMachine context).Event → Prop
  | .serve vm choice => Program.AtCall (CarefulCall context state vm choice) (state.running vm)
  | _ => True

section Runs

variable {context : Context} {vm : VmKey} {learnt : Learnt} {choice : Cluster.Choice} {call : Call}

theorem Cluster.request_found {α : Type} {cluster : Cluster} {shown : Option α} {given : α}
    (answered : (serve.request cluster choice (found shown, cluster)).1 = .ok given) : shown = some given := by
  obtain ⟨-, carriedOut⟩ := Delivery.outcome_reply answered nofun
  cases shown with
  | none => cases carriedOut
  | some present =>
    cases carriedOut
    rfl

theorem ClassesRead.served {state : (vmMachine context).State} (known : ClassesRead vm learnt state.service)
    (permitted : learnt.Permits context call) (careful : CarefulCall context state vm choice call) :
    ClassesRead vm (learnt.after call (Cluster.serve state.service choice call).1)
      (Cluster.serve state.service choice call).2 := by
  generalize answered : (Cluster.serve state.service choice call).1 = reply
  unfold Learnt.after
  split
  · rename_i name vmClass
    refine ⟨known.1, fun read which => ?_⟩
    rcases which with same | stored
    · cases same
      have found := Cluster.request_found answered
      have named := List.find?_some found
      rw [beq_iff_eq] at named
      exact ⟨named.trans permitted, careful vmClass found⟩
    · exact known.2 read (.inr stored)
  · exact known
  · refine ⟨known.1, fun read which => ?_⟩
    rcases which with same | ⟨vms, stored⟩
    · exact known.2 read (.inl same)
    · obtain ⟨kept, same, pair⟩ := Option.map_eq_some_iff.mp stored
      cases pair
      exact known.2 read (.inl same)
  · refine ⟨known.1, fun read which => ?_⟩
    rcases which with same | ⟨vms, stored⟩
    · exact known.2 read (.inl same)
    · contradiction
  · refine ⟨known.1, fun read which => ?_⟩
    rcases which with same | ⟨vms, stored⟩ <;> contradiction
  · exact known

theorem ClassesRead.free {state : (vmMachine context).State} {reader : VirtualMachine}
    {fresh : AppliedInfra} (known : ClassesRead vm learnt state.service)
    (permitted : learnt.Permits context (.storeState reader))
    (careful : CarefulCall context state vm choice (.storeState reader)) (grants : (learnt.after (.storeState reader)
      (Cluster.serve state.service choice (.storeState reader)).1).Grants context fresh) :
    Cluster.Free context.text state.service vm (fresh.claims context.text) := by
  have copied : reader = learnt.copy := permitted
  subst copied
  rcases grants.checked with bare | ⟨vmClass, vms, classes, stored, loaded, clear⟩
  · rw [bare]
    exact Cluster.free_nil _
  rw [Learnt.copy_after] at loaded clear
  generalize answered : (Cluster.serve state.service choice (.storeState learnt.copy)).1 = reply at stored
  cases reply with
  | error reason => contradiction
  | ok shown =>
    obtain ⟨read, same, pair⟩ := Option.map_eq_some_iff.mp stored
    cases pair
    rw [Cluster.request_answered answered] at clear
    obtain ⟨named, distinct⟩ := known.2 vmClass (.inl same)
    intro claim carried
    rw [← known.1]
    exact careful.free named clear claim (loaded.declared distinct carried)

/-- A running pass applies only what is free. -/
def AppliesFree (context : Context) (vm : VmKey) (program : Program Call Reply (Except Error Action))
    (cluster : Cluster) : Prop :=
  Informed context ClassesRead vm program cluster ∧
    ∀ fresh, Commits fresh program → cluster.Free context.text vm (fresh.claims context.text)

section Served

variable {state : (vmMachine context).State}
  {next : Reply call → Program Call Reply (Except Error Action)}

theorem AppliesFree.exclusive (holds : AppliesFree context vm (.await call next) state.service)
    (exclusive : Cluster.Exclusive context.text state.service) :
    Cluster.Exclusive context.text (Cluster.serve state.service choice call).2 := by
  have effect := Cluster.serve_effect state.service choice call
  by_cases applying : ∃ machine networkClasses, call = .applyInfra machine networkClasses
  · obtain ⟨machine, networkClasses, rfl⟩ := applying
    obtain ⟨⟨learnt, known, permitted, -⟩, free⟩ := holds
    refine exclusive.applies effect ?_
    rw [(Learnt.Places.grants permitted).own, known.1]
    exact free _ (.next rfl)
  · exact exclusive.keeps (effect.keeps fun machine networkClasses same =>
      applying ⟨machine, networkClasses, same⟩)

theorem AppliesFree.frees {other : VmKey} {claims : List AddressClaim}
    (holds : AppliesFree context vm (.await call next) state.service)
    (harmless : other = vm ∨ claims = [] ∨ ∀ machine networkClasses, call = .applyInfra machine networkClasses →
        (AppliedInfra.fresh machine networkClasses).claims context.text = [])
    (free : Cluster.Free context.text state.service other claims) :
    Cluster.Free context.text (Cluster.serve state.service choice call).2 other claims := by
  have effect := Cluster.serve_effect state.service choice call
  by_cases applying : ∃ machine networkClasses, call = .applyInfra machine networkClasses
  · obtain ⟨machine, networkClasses, rfl⟩ := applying
    obtain ⟨⟨learnt, known, permitted, -⟩, -⟩ := holds
    refine free.applies effect fun apart claim listed carried load => ?_
    rcases harmless with same | bare | unladen
    · rw [(Learnt.Places.grants permitted).own, known.1] at apart
      exact absurd same.symm apart
    · rw [bare] at listed
      contradiction
    · rw [unladen machine networkClasses rfl] at load
      contradiction
  · exact free.keeps (effect.keeps fun machine networkClasses same =>
      applying ⟨machine, networkClasses, same⟩)

theorem AppliesFree.served (holds : AppliesFree context vm (.await call next) state.service)
    (careful : CarefulCall context state vm choice call) :
    AppliesFree context vm (next (Cluster.serve state.service choice call).1)
      (Cluster.serve state.service choice call).2 := by
  refine ⟨Machine.Disciplined.served _ _ holds.1 fun learnt known permitted => ⟨trivial, ?_⟩, ?_⟩
  · intro later advanced
    rw [advanced]
    exact known.served permitted careful
  · intro fresh commits
    refine holds.frees (.inl rfl) ?_
    -- Past the check the addresses are free because of it; anywhere else they were before.
    by_cases reading : ∃ reader, call = .storeState reader
    · obtain ⟨reader, rfl⟩ := reading
      obtain ⟨learnt, known, permitted, rest⟩ := holds.1
      obtain ⟨after, advanced, obeyed⟩ := rest (Cluster.serve state.service choice _).1 trivial
      subst advanced
      exact known.free permitted careful (commits.grants obeyed)
    · exact holds.2 fresh (.later (fun reader same => reading ⟨reader, same⟩) _ commits)

end Served

theorem addresses_inductive (context : Context) :
    Machine.Inductive (Careful context) (Cluster.Exclusive context.text) (AppliesFree context) where
  launched := by
    intro state vm age program _ _ _ launched
    have informed : Informed context ClassesRead vm program state.service :=
      informed_launched (fun copy own => ⟨own, fun _ which => by
        rcases which with none | ⟨_, none⟩ <;> contradiction⟩) launched
    obtain ⟨copy, own, rfl⟩ := launched_copy launched
    refine ⟨informed, fun fresh commits => ?_⟩
    rcases (commits.grants (obeys_reconcile context copy)).checked with bare | ⟨_, _, _, none, _⟩
    · rw [bare]
      exact Cluster.free_nil _
    · contradiction
  served := by
    intro state vm choice call next holds allowed running
    have mine := holds.2 vm _ running
    have careful : CarefulCall context state vm choice call := by
      simpa only [Careful, running, Program.AtCall] using allowed
    exact ⟨mine.exclusive holds.1, mine.served careful⟩
  undisturbed := by
    intro state vm choice call next other program holds allowed running different active
    have mine := holds.2 vm _ running
    have theirs := holds.2 other program active
    have careful : CarefulCall context state vm choice call := by
      simpa only [Careful, running, Program.AtCall] using allowed
    refine ⟨Machine.Disciplined.stable _ _ theirs.1 fun _ known => known, fun fresh commits => ?_⟩
    refine mine.frees (.inr ?_) (theirs.2 fresh commits)
    by_cases bare : fresh.claims context.text = []
    · exact .inl bare
    · refine .inr fun machine networkClasses same => ?_
      subst same
      rcases careful with unladen | alone
      · exact unladen
      · exact absurd (alone other program fresh different active commits) bare
  disturbed := by
    intro state disturbance service holds _ disturbed
    have keeps := Cluster.disturb_keeps disturbed
    refine ⟨holds.1.keeps keeps, fun vm program active => ?_⟩
    obtain ⟨informed, free⟩ := holds.2 vm program active
    exact ⟨Machine.Disciplined.stable _ _ informed fun _ known => known,
      fun fresh commits => (free fresh commits).keeps keeps⟩

end Runs

/-- In a run whose steps are careful, infra machines of different machines never carry
the same address on the same network. -/
theorem addresses_exclusive_of_run (context : Context) (start : Cluster)
    (last : (vmMachine context).State) (events : List (vmMachine context).Event)
    (initially : start.Exclusive context.text)
    (run : Machine.Run (Careful context) (Machine.State.idle start) events last) :
    Cluster.Exclusive context.text last.service :=
  ((addresses_inductive context).run run (Machine.holds_idle initially)).1

/-! ## Two machines, one address -/

def staticVm (name address : String) : VirtualMachine :=
  { hostedVm name .automatic none with
    spec :=
      { classRef := ⟨"small"⟩
        imageRef := ⟨"linux"⟩
        networkOverrides := [{ name := "eth0", static := { address, prefixLen := 24 } }] } }

/-- Nobody has created a machine yet. -/
def vacant : Cluster where
  now := ⟨30⟩
  vms := { vms := [], distinct := by decide }
  classes := [hostClass]
  images := [hostImage]
  providers := [twoHosts]

/-- The machine is created and its pass makes that many calls: with the eighth it
applies its infra machine, with the tenth it records what it holds. -/
def arrival (name address : String) (calls : Nat) : List (vmMachine plainContext).Event :=
  .disturb (.createVm (staticVm name address)) :: .launch ("prod", name) (0 : Nat) ::
    List.replicate calls (.serve ("prod", name) ({} : Cluster.Choice))

def carried (state : (vmMachine plainContext).State) : List (VmKey × List AddressClaim) :=
  (Cluster.infra state.service).map fun applied => (applied.key, applied.claims plainContext.text)

def onLan (address : String) : AddressClaim := ⟨"eth0", some "lan", address⟩

instance Cluster.Exclusive.decidable (text : AddressText) (cluster : Cluster) :
    Decidable (cluster.Exclusive text) :=
  inferInstanceAs (Decidable (∀ first ∈ cluster.infra, ∀ second ∈ cluster.infra, _))

/-- A machine created in the same second as another one, whose infra machine is applied
and not yet recorded, goes before it by name and is given the same address. -/
theorem address_carried_twice :
    ∃ last, Machine.Run (fun _ _ => True) (Machine.State.idle vacant)
        (arrival "web" "10.0.0.7" 8 ++ arrival "api" "10.0.0.7" 8) last ∧
      carried last = [(("prod", "web"), [onLan "10.0.0.7"]), (("prod", "api"), [onLan "10.0.0.7"])] ∧
      ¬ Cluster.Exclusive plainContext.text last.service := by
  have seen : ((Machine.State.idle vacant : (vmMachine plainContext).State).exec
      (arrival "web" "10.0.0.7" 8 ++ arrival "api" "10.0.0.7" 8)).map
      (fun last => (carried last,
        @decide _ (Cluster.Exclusive.decidable plainContext.text last.service))) =
      some ([(("prod", "web"), [onLan "10.0.0.7"]), (("prod", "api"), [onLan "10.0.0.7"])], false) := by
    decide +kernel
  simp only [Option.map_eq_some_iff, Prod.mk.injEq, decide_eq_false_iff_not] at seen
  obtain ⟨last, executed, both, shared⟩ := seen
  exact ⟨last, .of_exec executed, both, shared⟩

section Alone

instance AddressClaim.Same.decidable (claim other : AddressClaim) : Decidable (claim.Same other) :=
  inferInstanceAs (Decidable (_ ∧ _))

instance DistinctInterfaces.decidable (vmClass : VMClass) : Decidable (DistinctInterfaces vmClass) :=
  inferInstanceAs (Decidable (List.Nodup _))

instance Cluster.ShowsHeld.decidable (text : AddressText) (cluster : Cluster) (reader : VirtualMachine)
    (vms : List VirtualMachine) : Decidable (cluster.ShowsHeld text reader vms) :=
  inferInstanceAs (Decidable (∀ applied ∈ cluster.infra, _))

variable (names : List VmKey)

/-- Of the machines named, only this one has a pass under way when it applies. -/
def AloneCall (state : (vmMachine plainContext).State) (vm : VmKey) (choice : Cluster.Choice) :
    Call → Prop
  | .applyInfra _ _ => ∀ other ∈ names, other ≠ vm → (state.running other).isNone = true
  | call => CarefulCall plainContext state vm choice call

def Alone (state : (vmMachine plainContext).State) : (vmMachine plainContext).Event → Prop
  | .launch vm _ => names.contains vm = true
  | .serve vm choice => Program.AtCall (AloneCall names state vm choice) (state.running vm)
  | _ => True

instance AloneCall.decidable (state : (vmMachine plainContext).State) (vm : VmKey)
    (choice : Cluster.Choice) : DecidablePred (AloneCall names state vm choice)
  | .getClass _ => inferInstanceAs (Decidable (∀ vmClass ∈ Cluster.classNamed _ _, _))
  | .storeState _ => Cluster.ShowsHeld.decidable _ _ _ _
  | .applyInfra _ _ => inferInstanceAs (Decidable (∀ other ∈ names, _))
  | .now | .patchFinalizers _ _ | .getClassOpt _ | .listClasses | .getImage _ | .listProviders _
  | .listVms _ | .getInfra _ _ | .deleteInfra _ _ | .patchInfraPower _ _ _ | .applyStatus _ _
  | .getSecret _ _ | .getConfigMap _ _ => .isTrue trivial

instance (state : (vmMachine plainContext).State) : DecidablePred (Alone names state)
  | .launch vm _ => inferInstanceAs (Decidable (names.contains vm = true))
  | .serve vm choice =>
    @Program.AtCall.decidable _ _ _ _ (AloneCall.decidable names state vm choice) (state.running vm)
  | .crash _ | .disturb _ => .isTrue trivial

variable {names}

theorem named_inductive :
    Machine.Inductive (Alone names) (fun _ => True) (fun vm _ _ => names.contains vm = true) where
  launched _ allowed _ _ := allowed
  served holds _ running := ⟨trivial, holds.2 _ _ running⟩
  undisturbed holds _ _ _ active := holds.2 _ _ active
  disturbed holds _ _ := ⟨trivial, holds.2⟩

theorem careful_of_alone {state : (vmMachine plainContext).State} {event : (vmMachine plainContext).Event}
    (alone : Alone names state event)
    (named : Machine.Holds (fun _ => True) (fun vm _ _ => names.contains vm = true) state) :
    Careful plainContext state event := by
  cases event with
  | serve vm choice =>
    refine Program.AtCall.mono (fun call => ?_) alone
    cases call with
    | applyInfra machine networkClasses =>
      intro idle
      refine .inr fun other program fresh different active _ => ?_
      have absent := idle other (List.contains_iff_mem.mp (named.2 other program active)) different
      rw [active] at absent
      contradiction
    | now | patchFinalizers | getClass | getClassOpt | listClasses | getImage | listProviders
    | listVms | storeState | getInfra | deleteInfra | patchInfraPower | applyStatus | getSecret
    | getConfigMap => exact id
  | launch | crash | disturb => trivial

end Alone

/-- A machine that comes after the other one is recorded, with another address. -/
theorem addresses_exclusive_after_record :
    ∃ last, Machine.Run (Careful plainContext) (Machine.State.idle vacant)
        (arrival "web" "10.0.0.7" 10 ++ arrival "api" "10.0.0.8" 8) last ∧
      carried last = [(("prod", "web"), [onLan "10.0.0.7"]), (("prod", "api"), [onLan "10.0.0.8"])] ∧
      Cluster.Exclusive plainContext.text last.service := by
  have seen : ((Machine.State.idle vacant : (vmMachine plainContext).State).execIf
      (Alone [("prod", "web"), ("prod", "api")])
      (arrival "web" "10.0.0.7" 10 ++ arrival "api" "10.0.0.8" 8)).map carried =
      some [(("prod", "web"), [onLan "10.0.0.7"]), (("prod", "api"), [onLan "10.0.0.8"])] := by
    decide +kernel
  obtain ⟨last, executed, both⟩ := Option.map_eq_some_iff.mp seen
  have within := named_inductive.run_within (Machine.Run.of_execIf executed)
    (Machine.holds_idle trivial)
  have run := within.mono fun _ _ judged => careful_of_alone judged.1 judged.2
  exact ⟨last, run, both, addresses_exclusive_of_run plainContext vacant last _ (by decide) run⟩

end Banlieue.Vm
