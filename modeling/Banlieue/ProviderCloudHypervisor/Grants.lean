import Banlieue.ProviderCloudHypervisor.Uids

namespace Banlieue.ProviderCloudHypervisor

open Banlieue.Api Banlieue.Data Banlieue.Data.Program Banlieue.Infra Banlieue.Sdk

/-! # How passes come to uids

A pass is checked against what it knows at each of its calls; what it knows has to survive
whatever is done in the meantime on behalf of other machines.
-/

/-- What is done on behalf of others leaves of a machine's uid. -/
structure Leaves (config : HostConfig) (key : String) (before after : Fleet) : Prop where
  born : before.born ⊆ after.born
  grant : after.grant key = before.grant key
  own : ∀ {name machine}, after.current name = some machine → machine.uid = some key → isOurs machine config = true →
    ∃ earlier, before.current name = some earlier ∧ earlier.uid = some key ∧
      (machine.Held ↔ earlier.Held) ∧ machine.hostUid = earlier.hostUid
  older : ∀ {copy name}, copy.uid = some key →
    (∀ version ∈ (before.tracks name).versions, Older config (some copy) version) →
    ∀ version ∈ (after.tracks name).versions, Older config (some copy) version
  known : ∀ {name machine}, some machine ∈ (after.tracks name).versions → machine.uid = some key →
    ∃ earlier, some earlier ∈ (before.tracks name).versions ∧ earlier.uid = some key
  others : ∀ {machine other uid}, after.Has config machine → machine.Held → machine.uid = some other → other ≠ key →
    machine.hostUid = some uid → after.grant other = some uid ∨
      (∃ earlier, before.Has config earlier ∧ earlier.Held ∧ earlier.uid = some other ∧
        earlier.hostUid = some uid) ∧ (before.grant other = some uid → after.grant other = some uid)

variable {config : HostConfig} {fleet : Fleet} {machine : HostMachine} {name key : String}
  {version : Option HostMachine}

theorem Leaves.refl (config : HostConfig) (key : String) (fleet : Fleet) : Leaves config key fleet fleet where
  born _ := id
  grant := rfl
  own found same _ := ⟨_, found, same, Iff.rfl, rfl⟩
  older _ known := known
  known member same := ⟨_, member, same⟩
  others has held same _ recorded := .inr ⟨⟨_, has, held, same, recorded⟩, id⟩

/-- A version was written that is not the machine's own, or is as the one before. -/
theorem leaves_written
    (own : ∀ after, version = some after → after.uid = some key → ∃ machine, fleet.current name = some machine ∧
      Touches config machine after)
    (covered : ∀ {after other uid}, version = some after → isOurs after config = true → after.Held →
      after.uid = some other → after.hostUid = some uid → fleet.grant other = some uid ∨
        ∃ earlier, fleet.Has config earlier ∧ earlier.Held ∧ earlier.uid = some other ∧ earlier.hostUid = some uid) :
    Leaves config key fleet (fleet.write name version) where
  born _ := id
  grant := rfl
  own := by
    intro title written current uid ours
    by_cases here : title = name
    · subst here
      rw [Fleet.current_write_self] at current
      obtain ⟨machine, found, step⟩ := own written current uid
      have ours' : isOurs machine config = true := step.ours ▸ ours
      exact ⟨machine, found, step.uid ▸ uid, step.held ours', step.recorded ours'⟩
    · rw [Fleet.current_write_other here] at current
      exact ⟨written, current, uid, Iff.rfl, rfl⟩
  older := by
    intro copy title copyUid known later member before after beforeSome afterSome uid
    cases beforeSome
    subst afterSome
    rcases Fleet.mem_versions_write member with earlier | ⟨rfl, new⟩
    · exact known _ earlier copy after rfl rfl uid
    · obtain ⟨machine, found, step⟩ := own after new (uid ▸ copyUid)
      exact (known _ (Fleet.mem_versions_of_current found) copy machine rfl rfl (uid.trans step.uid)).advance
        step.advances
  known := by
    intro title written member uid
    rcases Fleet.mem_versions_write member with before | ⟨rfl, new⟩
    · exact ⟨written, before, uid⟩
    · obtain ⟨machine, found, step⟩ := own written new uid
      exact ⟨machine, Fleet.mem_versions_of_current found, step.uid ▸ uid⟩
  others := by
    intro written other uid has held uidSome _ recorded
    rcases Fleet.has_write has with ⟨-, before⟩ | ⟨-, new, ours⟩
    · exact .inr ⟨⟨written, before, held, uidSome, recorded⟩, id⟩
    · exact (covered new ours held uidSome recorded).imp_right fun earlier => ⟨earlier, id⟩

theorem touched (sound : Sound config fleet) (found : fleet.current name = some machine)
    (touches : ∀ after, version = some after → Touches config machine after) :
    Sound config (fleet.write name version) ∧ ∀ key, Leaves config key fleet (fleet.write name version) := by
  refine ⟨sound.write fun after new => ?_, fun key => leaves_written (fun after new _ => ?_) ?_⟩
  · have step := touches after new
    exact sound.follows_same found step.advances step.recorded fun ours _ => (step.held ours).mp
  · exact ⟨machine, found, touches after new⟩
  · intro after other uid new ours held uidSome recorded
    have step := touches after new
    have ours' : isOurs machine config = true := step.ours ▸ ours
    exact .inr ⟨machine, sound.has found ours', (step.held ours').mp held, step.uid ▸ uidSome,
      step.recorded ours' ▸ recorded⟩

theorem leaves_ledger {ledger : UidLedger} (same : ledger.given.lookup key = fleet.grant key)
    (kept : ∀ {machine other uid}, fleet.Has config machine → machine.Held → machine.uid = some other →
      machine.hostUid = some uid → fleet.grant other = some uid → ledger.given.lookup other = some uid) :
    Leaves config key fleet { fleet with ledger := ledger } where
  born _ := id
  grant := same
  own found uid _ := ⟨_, found, uid, Iff.rfl, rfl⟩
  older _ known := known
  known member same := ⟨_, member, same⟩
  others has held uid _ recorded := .inr ⟨⟨_, has, held, uid, recorded⟩, kept has held uid recorded⟩

theorem leaves_deliver {track : Track} (delivered : (fleet.tracks name).deliver = some track) :
    Leaves config key fleet (fleet.setTrack name track) where
  born _ := id
  grant := rfl
  own found uid _ := ⟨_, Fleet.current_deliver delivered _ ▸ found, uid, Iff.rfl, rfl⟩
  older _ known later member := known later ((Fleet.versions_deliver delivered _).subset member)
  known member same := ⟨_, (Fleet.versions_deliver delivered _).subset member, same⟩
  others has held uid _ recorded :=
    .inr ⟨⟨_, ⟨Fleet.current_deliver delivered _ ▸ has.1, has.2⟩, held, uid, recorded⟩, id⟩

theorem leaves_create (born : key ∈ fleet.born) (may : fleet.mayCreate config machine = true) :
    Leaves config key fleet { fleet.write machine.metadata.name (some machine) with
      names := machine.metadata.name :: fleet.names, born := machine.uid.getD "" :: fleet.born } := by
  simp only [Fleet.mayCreate, Bool.and_eq_true, Option.isNone_iff_eq_none, Option.any_eq_true] at may
  obtain ⟨⟨⟨⟨absent, bare⟩, -⟩, -⟩, fresh, uid, unborn⟩ := may
  have apart : machine.uid ≠ some key := by
    rw [uid]
    rintro ⟨⟩
    simp [born] at unborn
  have unrecorded : machine.hostUid = none := by rw [HostMachine.hostUid, bare]; rfl
  have leaves : Leaves config key fleet (fleet.write machine.metadata.name (some machine)) := by
    refine leaves_written (fun after new same => ?_) fun new _ _ _ recorded => ?_
    · cases new
      exact absurd same apart
    · cases new
      cases unrecorded.symm.trans recorded
  exact { leaves with born := fun _ => List.mem_cons_of_mem _ }

/-! ## What a pass knows -/

/-- The copy a pass works on is of a machine of this host, and all the cache has now is
at least as new. -/
structure Copy (config : HostConfig) (fleet : Fleet) (key : String) (copy : HostMachine) : Prop where
  uid : copy.uid = some key
  ours : isOurs copy config = true
  born : key ∈ fleet.born
  older : ∀ version ∈ (fleet.tracks copy.metadata.name).versions, Older config (some copy) version
  place : ∀ {name machine}, some machine ∈ (fleet.tracks name).versions → machine.uid = some key →
    name = copy.metadata.name

/-- The machine, if it is there, is held by the finalizer. -/
def Ensured (fleet : Fleet) (key name : String) : Prop :=
  ∀ machine, fleet.current name = some machine → machine.uid = some key → machine.Held

def Freed (fleet : Fleet) (key name : String) : Prop :=
  ∀ machine, fleet.current name = some machine → machine.uid = some key → ¬machine.Held

/-- Whatever the machine has recorded, it got from this process. -/
def Fresh (fleet : Fleet) (key name : String) : Prop :=
  ∀ machine uid, fleet.current name = some machine → machine.uid = some key → machine.hostUid = some uid →
    fleet.grant key = some uid

/-- Every other machine's uid is among the ones seen, or given by this process. -/
def Covered (config : HostConfig) (fleet : Fleet) (key : String) (used : List Nat) : Prop :=
  ∀ machine other uid, fleet.Has config machine → machine.Held → machine.uid = some other → other ≠ key →
    machine.hostUid = some uid → uid ∈ used ∨ fleet.grant other = some uid

inductive Stage where
  | ended
  | started (copy : HostMachine)
  | ensured (copy : HostMachine)
  | listed (copy : HostMachine) (used : List Nat)
  | granted (copy : HostMachine) (uid : Nat)
  | refused (copy : HostMachine)
  | finalizing (copy : HostMachine)
  | removed (copy : HostMachine)

def Means (config : HostConfig) (key : String) : Stage → Fleet → Prop
  | .ended, _ => True
  | .started copy, fleet =>
    Copy config fleet key copy ∧ (copy.hostUid = none → Fresh fleet key copy.metadata.name)
  | .ensured copy, fleet =>
    Copy config fleet key copy ∧ (copy.hostUid = none → Fresh fleet key copy.metadata.name) ∧
      Ensured fleet key copy.metadata.name
  | .listed copy used, fleet =>
    Copy config fleet key copy ∧ Fresh fleet key copy.metadata.name ∧
      Ensured fleet key copy.metadata.name ∧ Covered config fleet key used
  | .granted copy uid, fleet =>
    Copy config fleet key copy ∧ Ensured fleet key copy.metadata.name ∧ fleet.grant key = some uid
  | .refused copy, fleet =>
    Copy config fleet key copy ∧ Fresh fleet key copy.metadata.name ∧ fleet.grant key = none
  | .finalizing copy, fleet => Copy config fleet key copy ∧ copy.deleting = true
  | .removed copy, fleet =>
    Copy config fleet key copy ∧ copy.deleting = true ∧ Freed fleet key copy.metadata.name

section Stable

variable {before after : Fleet} {copy : HostMachine} (leaves : Leaves config key before after)

include leaves

variable (known : Copy config before key copy)

include known

theorem Copy.stable : Copy config after key copy where
  uid := known.uid
  ours := known.ours
  born := leaves.born known.born
  older := leaves.older known.uid known.older
  place member same := by
    obtain ⟨earlier, member', same'⟩ := leaves.known member same
    exact known.place member' same'

theorem Copy.earlier (found : after.current copy.metadata.name = some machine) (same : machine.uid = some key) :
    ∃ earlier, before.current copy.metadata.name = some earlier ∧ earlier.uid = some key ∧
      (machine.Held ↔ earlier.Held) ∧ machine.hostUid = earlier.hostUid := by
  have evolves := (known.stable leaves).older _ (Fleet.mem_versions_of_current found) copy machine rfl rfl
    (known.uid.trans same.symm)
  exact leaves.own found same (evolves.ours.trans known.ours)

theorem Ensured.stable (ensured : Ensured before key copy.metadata.name) : Ensured after key copy.metadata.name := by
  intro machine found same
  obtain ⟨earlier, found', same', held, -⟩ := known.earlier leaves found same
  exact held.mpr (ensured earlier found' same')

theorem Freed.stable (freed : Freed before key copy.metadata.name) : Freed after key copy.metadata.name := by
  intro machine found same
  obtain ⟨earlier, found', same', held, -⟩ := known.earlier leaves found same
  exact fun kept => freed earlier found' same' (held.mp kept)

theorem Fresh.stable (fresh : Fresh before key copy.metadata.name) : Fresh after key copy.metadata.name := by
  intro machine uid found same recorded
  obtain ⟨earlier, found', same', -, recorded'⟩ := known.earlier leaves found same
  rw [leaves.grant]
  exact fresh earlier uid found' same' (recorded' ▸ recorded)

omit known

theorem Covered.stable {used : List Nat} (covered : Covered config before key used) :
    Covered config after key used := by
  intro machine other uid has held same different recorded
  rcases leaves.others has held same different recorded with granted | ⟨⟨earlier, has', held', same', recorded'⟩, kept⟩
  · exact .inr granted
  · exact (covered earlier other uid has' held' same' different recorded').imp id kept

theorem Means.stable {stage : Stage} (meant : Means config key stage before) : Means config key stage after := by
  cases stage with
  | ended => trivial
  | started copy => exact ⟨meant.1.stable leaves, fun none => (meant.2 none).stable leaves meant.1⟩
  | ensured copy =>
    exact ⟨meant.1.stable leaves, fun none => (meant.2.1 none).stable leaves meant.1, meant.2.2.stable leaves meant.1⟩
  | listed copy used =>
    exact ⟨meant.1.stable leaves, meant.2.1.stable leaves meant.1, meant.2.2.1.stable leaves meant.1,
      meant.2.2.2.stable leaves⟩
  | granted copy uid =>
    exact ⟨meant.1.stable leaves, meant.2.1.stable leaves meant.1, leaves.grant.trans meant.2.2⟩
  | refused copy =>
    exact ⟨meant.1.stable leaves, meant.2.1.stable leaves meant.1, leaves.grant.trans meant.2.2⟩
  | finalizing copy => exact ⟨meant.1.stable leaves, meant.2⟩
  | removed copy => exact ⟨meant.1.stable leaves, meant.2.1, meant.2.2.stable leaves meant.1⟩

end Stable

/-! ## What a pass may ask for -/

def Permits (key : String) : Stage → ControlCall → Prop
  | _, .host _ => True
  | _, .patchProviderId _ _ => True
  | .started copy, .patchFinalizers name finalizers =>
    name = copy.metadata.name ∧ finalizerListWith copy.metadata.finalizers machineFinalizer = some finalizers
  | .finalizing copy, .patchFinalizers name finalizers =>
    name = copy.metadata.name ∧ finalizerListWithout copy.metadata.finalizers machineFinalizer = some finalizers
  | .ensured copy, .list => copy.hostUid = none
  | .listed _ used, .assign machine recorded => machine = key ∧ recorded = used
  | .ensured copy, .patchStatus name status =>
    name = copy.metadata.name ∧ copy.hostUid.isSome = true ∧ status.hostUid = copy.hostUid
  | .granted copy uid, .patchStatus name status => name = copy.metadata.name ∧ status.hostUid = some uid
  | .refused copy, .patchStatus name status => name = copy.metadata.name ∧ status.hostUid = none
  | .removed _, .release machine => machine = key
  | _, _ => False

def nextStage (config : HostConfig) (key : String) : Stage → (call : ControlCall) → ControlReply call → Stage
  | stage, .host _, _ => stage
  | stage, .patchProviderId _ _, _ => stage
  | stage, .patchStatus _ _, _ => stage
  | .started copy, .patchFinalizers _ _, reply => if reply = .ok () then .ensured copy else .ended
  | .finalizing copy, .patchFinalizers _ _, reply => if reply = .ok () then .removed copy else .ended
  | .ensured copy, .list, .ok machines => .listed copy (usedHostUids machines config key)
  | .listed copy _, .assign _ _, some uid => .granted copy uid
  | .listed copy _, .assign _ _, none => .refused copy
  | _, _, _ => .ended

@[simp]
abbrev recording (config : HostConfig) (key : String) : Rules Stage ControlCall ControlReply := fun call =>
  { pre stage := Permits key stage call
    post stage reply after := after = nextStage config key stage call reply }

end Banlieue.ProviderCloudHypervisor
