import Banlieue.ProviderCloudHypervisor.Fleet

namespace Banlieue.ProviderCloudHypervisor

open Banlieue.Api Banlieue.Data Banlieue.Data.Program Banlieue.Infra Banlieue.Sdk

/-! # Which guest uids the machines of a host have -/

/-- What later versions of a machine keep of an earlier one.  The provider gives up its
finalizer only once the machine is being deleted, and does not get it back then. -/
structure Evolves (config : HostConfig) (earlier later : HostMachine) : Prop where
  ours : isOurs later config = isOurs earlier config
  deleting : earlier.deleting = true → later.deleting = true
  recorded : isOurs earlier config = true → ∀ uid, earlier.hostUid = some uid → later.hostUid = some uid
  held : isOurs earlier config = true → earlier.deleting = false → earlier.Held → later.Held
  gone : isOurs earlier config = true → earlier.deleting = true → ¬earlier.Held → ¬later.Held

/-- A version of the same machine evolves into a later one. -/
def Older (config : HostConfig) (earlier later : Option HostMachine) : Prop :=
  ∀ before after, earlier = some before → later = some after → before.uid = after.uid →
    Evolves config before after

/-- A change after which the provider still has its finalizer. -/
structure Advances (config : HostConfig) (before after : HostMachine) : Prop where
  name : after.metadata.name = before.metadata.name
  uid : after.uid = before.uid
  ours : isOurs after config = isOurs before config
  deleting : before.deleting = true → after.deleting = true
  recorded : isOurs before config = true → ∀ uid, before.hostUid = some uid → after.hostUid = some uid
  held : isOurs before config = true → before.Held → after.Held
  gone : isOurs before config = true → before.deleting = true → ¬before.Held → ¬after.Held

/-- A change that leaves a machine of this host its finalizer and its uid. -/
structure Touches (config : HostConfig) (before after : HostMachine) : Prop where
  name : after.metadata.name = before.metadata.name
  uid : after.uid = before.uid
  ours : isOurs after config = isOurs before config
  deleting : before.deleting = true → after.deleting = true
  held : isOurs before config = true → (after.Held ↔ before.Held)
  recorded : isOurs before config = true → after.hostUid = before.hostUid

variable {config : HostConfig} {before after : HostMachine}

theorem Touches.advances (touches : Touches config before after) :
    Advances config before after where
  name := touches.name
  uid := touches.uid
  ours := touches.ours
  deleting := touches.deleting
  recorded ours _ known := (touches.recorded ours).trans known
  held ours := (touches.held ours).mpr
  gone ours _ free held := free ((touches.held ours).mp held)

theorem Evolves.advance {earlier : HostMachine}
    (evolves : Evolves config earlier before) (advances : Advances config before after) :
    Evolves config earlier after where
  ours := advances.ours.trans evolves.ours
  deleting old := advances.deleting (evolves.deleting old)
  recorded ours uid known := advances.recorded (evolves.ours.trans ours) uid (evolves.recorded ours uid known)
  held ours alive held := advances.held (evolves.ours.trans ours) (evolves.held ours alive held)
  gone ours old free := advances.gone (evolves.ours.trans ours) (evolves.deleting old) (evolves.gone ours old free)

theorem Evolves.refl (config : HostConfig) (machine : HostMachine) : Evolves config machine machine :=
  ⟨rfl, id, fun _ _ => id, fun _ _ => id, fun _ _ => id⟩

namespace Fleet

variable {fleet : Fleet} {name other : String} {version : Option HostMachine} {config : HostConfig}

/-- The uid the provider has given to a machine since it was started. -/
def grant (fleet : Fleet) (machine : String) : Option Nat := fleet.ledger.given.lookup machine

/-- A machine of this host that exists. -/
def Has (fleet : Fleet) (config : HostConfig) (machine : HostMachine) : Prop :=
  fleet.current machine.metadata.name = some machine ∧ isOurs machine config = true

variable {track : Track}

theorem tracks_setTrack_self : (fleet.setTrack name track).tracks name = track := if_pos rfl

theorem tracks_setTrack_other (different : other ≠ name) :
    (fleet.setTrack name track).tracks other = fleet.tracks other := if_neg different

theorem current_write_self : (fleet.write name version).current name = version := by
  rw [current, write, tracks_setTrack_self, Track.current_write]

theorem current_write_other (different : other ≠ name) :
    (fleet.write name version).current other = fleet.current other := by
  rw [current, write, tracks_setTrack_other different, current]

theorem versions_write_self :
    ((fleet.write name version).tracks name).versions = (fleet.tracks name).versions ++ [version] := by
  rw [write, tracks_setTrack_self, Track.versions_write]

theorem versions_write_other (different : other ≠ name) :
    ((fleet.write name version).tracks other).versions = (fleet.tracks other).versions := by
  rw [write, tracks_setTrack_other different]

variable {machine : HostMachine}

theorem mem_versions_write (member : some machine ∈ ((fleet.write name version).tracks other).versions) :
    some machine ∈ (fleet.tracks other).versions ∨ other = name ∧ version = some machine := by
  by_cases same : other = name
  · subst same
    rw [versions_write_self, List.mem_append, List.mem_singleton] at member
    exact member.imp id fun written => ⟨rfl, written.symm⟩
  · rw [versions_write_other same] at member
    exact .inl member

theorem mem_versions_of_current (found : fleet.current name = some machine) :
    some machine ∈ (fleet.tracks name).versions :=
  found ▸ Track.current_mem_versions _

theorem current_deliver (delivered : (fleet.tracks name).deliver = some track) (other : String) :
    (fleet.setTrack name track).current other = fleet.current other := by
  by_cases here : other = name
  · subst here
    rw [current, tracks_setTrack_self, (Track.deliver_eq_some delivered).1, current]
  · rw [current, tracks_setTrack_other here, current]

theorem versions_deliver (delivered : (fleet.tracks name).deliver = some track) (other : String) :
    ((fleet.setTrack name track).tracks other).versions.Sublist (fleet.tracks other).versions := by
  by_cases here : other = name
  · subst here
    obtain ⟨-, first, versions⟩ := Track.deliver_eq_some delivered
    rw [tracks_setTrack_self, versions]
    exact List.sublist_cons_self _ _
  · rw [tracks_setTrack_other here]

theorem has_write (has : (fleet.write name version).Has config machine) :
    machine.metadata.name ≠ name ∧ fleet.Has config machine ∨
      machine.metadata.name = name ∧ version = some machine ∧ isOurs machine config = true := by
  by_cases same : machine.metadata.name = name
  · refine .inr ⟨same, ?_, has.2⟩
    have found := has.1
    rwa [same, current_write_self] at found
  · refine .inl ⟨same, ?_, has.2⟩
    have found := has.1
    rwa [current_write_other same] at found

end Fleet

/-! ## What always holds -/

structure Sound (config : HostConfig) (fleet : Fleet) : Prop where
  named : ∀ {name machine}, some machine ∈ (fleet.tracks name).versions →
    machine.metadata.name = name ∧ ∃ uid ∈ fleet.born, machine.uid = some uid
  identity : ∀ {name other machine machine'}, some machine ∈ (fleet.tracks name).versions →
    some machine' ∈ (fleet.tracks other).versions → machine.uid = machine'.uid → name = other
  listed : ∀ {name machine}, fleet.current name = some machine → name ∈ fleet.names
  ordered : ∀ name, (fleet.tracks name).versions.Pairwise (Older config)
  recorded : ∀ {machine uid}, fleet.Has config machine → machine.hostUid = some uid →
    config.guests.contains uid = true ∧ (machine.Held ∨ machine.deleting = true)
  distinct : ∀ {machine machine' uid}, fleet.Has config machine → fleet.Has config machine' →
    machine.Held → machine'.Held → machine.hostUid = some uid → machine'.hostUid = some uid →
    machine.uid = machine'.uid
  inRange : ∀ {key uid}, fleet.grant key = some uid → config.guests.contains uid = true
  exclusive : ∀ {key key' uid}, fleet.grant key = some uid → fleet.grant key' = some uid → key = key'
  /-- What a machine has recorded is what it was given. -/
  own : ∀ {machine key uid uid'}, fleet.Has config machine → machine.uid = some key →
    machine.hostUid = some uid → fleet.grant key = some uid' → uid' = uid
  others : ∀ {machine key uid}, fleet.Has config machine → machine.Held → machine.hostUid = some uid →
    fleet.grant key = some uid → machine.uid = some key
  /-- A uid that a copy in the cache does not show yet is in the ledger. -/
  remembered : ∀ {machine copy key uid}, fleet.Has config machine →
    some copy ∈ (fleet.tracks machine.metadata.name).versions → copy.uid = some key → machine.uid = some key →
    copy.deleting = false → copy.hostUid = none → machine.hostUid = some uid → fleet.grant key = some uid

variable {config : HostConfig} {fleet : Fleet} {machine after : HostMachine} {name : String}

/-- What a new version of a machine may have recorded. -/
structure Records (config : HostConfig) (fleet : Fleet) (after : HostMachine) (uid : Nat) : Prop where
  inRange : config.guests.contains uid = true
  guarded : after.Held ∨ after.deleting = true
  alone : ∀ {other}, after.Held → fleet.Has config other → other.Held → other.hostUid = some uid →
    other.uid = after.uid
  own : ∀ {key uid'}, after.uid = some key → fleet.grant key = some uid' → uid' = uid
  others : ∀ {key}, after.Held → fleet.grant key = some uid → after.uid = some key
  remembered : ∀ {copy key}, some copy ∈ (fleet.tracks after.metadata.name).versions → copy.uid = some key →
    after.uid = some key → copy.deleting = false → copy.hostUid = none → fleet.grant key = some uid

/-- `after` may be written as the next version of that name. -/
structure Follows (config : HostConfig) (fleet : Fleet) (name : String) (after : HostMachine) : Prop where
  title : after.metadata.name = name
  born : ∃ uid ∈ fleet.born, after.uid = some uid
  listed : name ∈ fleet.names
  place : ∀ {other known}, some known ∈ (fleet.tracks other).versions → known.uid = after.uid → other = name
  evolves : ∀ {copy}, some copy ∈ (fleet.tracks name).versions → copy.uid = after.uid → Evolves config copy after
  records : ∀ {uid}, isOurs after config = true → after.hostUid = some uid → Records config fleet after uid

namespace Sound

variable (sound : Sound config fleet)

include sound

theorem name_of_current (found : fleet.current name = some machine) : machine.metadata.name = name :=
  (sound.named (Fleet.mem_versions_of_current found)).1

theorem has (found : fleet.current name = some machine) (ours : isOurs machine config = true) :
    fleet.Has config machine :=
  ⟨(sound.name_of_current found).symm ▸ found, ours⟩

theorem has_unique {machine' : HostMachine} (first : fleet.Has config machine) (second : fleet.Has config machine')
    (same : machine.uid = machine'.uid) : machine = machine' := by
  have names := sound.identity (Fleet.mem_versions_of_current first.1) (Fleet.mem_versions_of_current second.1) same
  have found := first.1
  rw [names, second.1] at found
  exact (Option.some.inj found).symm

theorem write {version : Option HostMachine}
    (follows : ∀ after, version = some after → Follows config fleet name after) :
    Sound config (fleet.write name version) := by
  constructor
  case named =>
    intro other written member
    rcases Fleet.mem_versions_write member with before | ⟨rfl, new⟩
    · exact sound.named before
    · exact ⟨(follows written new).title, (follows written new).born⟩
  case identity =>
    intro first second written written' member member' same
    rcases Fleet.mem_versions_write member with before | ⟨rfl, new⟩
    · rcases Fleet.mem_versions_write member' with before' | ⟨rfl, new'⟩
      · exact sound.identity before before' same
      · exact (follows written' new').place before same
    · rcases Fleet.mem_versions_write member' with before' | ⟨rfl, -⟩
      · exact ((follows written new).place before' same.symm).symm
      · rfl
  case listed =>
    intro other written current
    by_cases same : other = name
    · subst same
      rw [Fleet.current_write_self] at current
      exact (follows written current).listed
    · rw [Fleet.current_write_other same] at current
      exact sound.listed current
  case ordered =>
    intro other
    by_cases same : other = name
    · subst same
      rw [Fleet.versions_write_self, List.pairwise_append]
      refine ⟨sound.ordered _, List.pairwise_singleton _ _, ?_⟩
      intro earlier member later written before after earlierSome laterSome uid
      rw [List.mem_singleton] at written
      subst written earlierSome
      exact (follows after laterSome).evolves member uid
    · rw [Fleet.versions_write_other same]
      exact sound.ordered other
  case recorded =>
    intro written uid has recorded
    rcases Fleet.has_write has with ⟨-, before⟩ | ⟨-, rfl, ours⟩
    · exact sound.recorded before recorded
    · have records := (follows written rfl).records ours recorded
      exact ⟨records.inRange, records.guarded⟩
  case distinct =>
    intro first second uid has has' held held' recorded recorded'
    rcases Fleet.has_write has with ⟨-, before⟩ | ⟨-, rfl, ours⟩
    · rcases Fleet.has_write has' with ⟨-, before'⟩ | ⟨-, rfl, ours'⟩
      · exact sound.distinct before before' held held' recorded recorded'
      · exact ((follows second rfl).records ours' recorded').alone held' before held recorded
    · rcases Fleet.has_write has' with ⟨-, before'⟩ | ⟨-, same, ours'⟩
      · exact (((follows first rfl).records ours recorded).alone held before' held' recorded').symm
      · exact congrArg HostMachine.uid (Option.some.inj same)
  case inRange => exact sound.inRange
  case exclusive => exact sound.exclusive
  case own =>
    intro written key uid uid' has same recorded granted
    rcases Fleet.has_write has with ⟨-, before⟩ | ⟨-, rfl, ours⟩
    · exact sound.own before same recorded granted
    · exact ((follows written rfl).records ours recorded).own same granted
  case others =>
    intro written key uid has held recorded granted
    rcases Fleet.has_write has with ⟨-, before⟩ | ⟨-, rfl, ours⟩
    · exact sound.others before held recorded granted
    · exact ((follows written rfl).records ours recorded).others held granted
  case remembered =>
    intro written copy key uid has member copyUid same alive unseen recorded
    rcases Fleet.has_write has with ⟨apart, before⟩ | ⟨-, rfl, ours⟩
    · rw [Fleet.versions_write_other apart] at member
      exact sound.remembered before member copyUid same alive unseen recorded
    · rcases Fleet.mem_versions_write member with before | ⟨-, written⟩
      · exact ((follows written rfl).records ours recorded).remembered before copyUid same alive unseen
      · rw [Option.some.inj written, unseen] at recorded
        contradiction

variable (found : fleet.current name = some machine)

include found

theorem evolves_current {copy : HostMachine}
    (member : some copy ∈ (fleet.tracks name).versions) (same : copy.uid = machine.uid) :
    Evolves config copy machine := by
  have ordered := sound.ordered name
  rw [Track.versions_eq] at ordered member
  rcases List.mem_append.mp member with earlier | last
  · exact List.pairwise_append.mp ordered |>.2.2 _ earlier _ (List.mem_singleton_self _) copy machine rfl found same
  · rw [List.mem_singleton] at last
    rw [Option.some.inj (last.trans found)]
    exact .refl config machine

theorem follows_current (title : after.metadata.name = machine.metadata.name) (uid : after.uid = machine.uid)
    (evolves : ∀ {copy}, some copy ∈ (fleet.tracks name).versions → copy.uid = machine.uid →
      Evolves config copy machine → Evolves config copy after)
    (records : ∀ {uid}, isOurs after config = true → after.hostUid = some uid → Records config fleet after uid) :
    Follows config fleet name after where
  title := title.trans (sound.name_of_current found)
  born := uid ▸ (sound.named (Fleet.mem_versions_of_current found)).2
  listed := sound.listed found
  place member same := sound.identity member (Fleet.mem_versions_of_current found) (same.trans uid)
  evolves member same := evolves member (same.trans uid) (sound.evolves_current found member (same.trans uid))
  records := records

theorem follows (advances : Advances config machine after)
    (records : ∀ {uid}, isOurs after config = true → after.hostUid = some uid → Records config fleet after uid) :
    Follows config fleet name after :=
  sound.follows_current found advances.name advances.uid (fun _ _ into => into.advance advances) records

omit found

variable {uid : Nat} {key : String}

theorem records_same (has : fleet.Has config machine) (title : after.metadata.name = machine.metadata.name)
    (same : after.uid = machine.uid) (guarded : after.Held ∨ after.deleting = true)
    (recorded : machine.hostUid = some uid) (back : after.Held → machine.Held) : Records config fleet after uid where
  inRange := (sound.recorded has recorded).1
  guarded := guarded
  alone held other held' recorded' := (sound.distinct other has held' (back held) recorded' recorded).trans same.symm
  own uid granted := sound.own has (same ▸ uid) recorded granted
  others held granted := same ▸ sound.others has (back held) recorded granted
  remembered member copyUid uid alive unseen :=
    sound.remembered has (title ▸ member) copyUid (same ▸ uid) alive unseen recorded

theorem follows_same (found : fleet.current name = some machine) (advances : Advances config machine after)
    (same : isOurs machine config = true → after.hostUid = machine.hostUid)
    (back : isOurs machine config = true → machine.hostUid.isSome = true → after.Held → machine.Held) :
    Follows config fleet name after := by
  refine sound.follows found advances fun ours recorded => ?_
  rw [advances.ours] at ours
  rw [same ours] at recorded
  have has := sound.has found ours
  exact sound.records_same has advances.name advances.uid
    ((sound.recorded has recorded).2.imp (advances.held ours) advances.deleting) recorded
    (back ours (Option.isSome_of_eq_some recorded))

/-! ### The ledger -/

theorem give (none : fleet.grant key = none) (contained : config.guests.contains uid = true)
    (free : uid ∉ fleet.ledger.values)
    (fresh : ∀ {machine uid}, fleet.Has config machine → machine.uid = some key → machine.hostUid ≠ some uid)
    (alone : ∀ {machine}, fleet.Has config machine → machine.Held → machine.hostUid = some uid →
      machine.uid = some key) :
    Sound config { fleet with ledger := ⟨fleet.ledger.given.insert key uid⟩ } := by
  have unheld : ∀ other, fleet.grant other ≠ some uid := fun other granted => free (UidLedger.mem_values granted)
  -- what the ledger says now: the new entry, or what it said before
  have looked : ∀ {other uid'}, (⟨fleet.ledger.given.insert key uid⟩ : UidLedger).given.lookup other = some uid' →
      other = key ∧ uid' = uid ∨ other ≠ key ∧ fleet.grant other = some uid' := by
    intro other uid' found
    by_cases same : other = key
    · subst same
      rw [AList.lookup_insert] at found
      exact .inl ⟨rfl, (Option.some.inj found).symm⟩
    · rw [AList.lookup_insert_ne same] at found
      exact .inr ⟨same, found⟩
  refine { sound with inRange := ?_, exclusive := ?_, own := ?_, others := ?_, remembered := ?_ }
  · intro other uid' granted
    rcases looked granted with ⟨-, rfl⟩ | ⟨-, before⟩
    · exact contained
    · exact sound.inRange before
  · intro first second uid' granted granted'
    rcases looked granted with ⟨rfl, rfl⟩ | ⟨-, before⟩
    · rcases looked granted' with ⟨rfl, -⟩ | ⟨-, before'⟩
      · rfl
      · exact absurd before' (unheld second)
    · rcases looked granted' with ⟨-, rfl⟩ | ⟨-, before'⟩
      · exact absurd before (unheld first)
      · exact sound.exclusive before before'
  · intro machine other uid' uid'' has same recorded granted
    rcases looked granted with ⟨rfl, -⟩ | ⟨-, before⟩
    · exact absurd recorded (fresh has same)
    · exact sound.own has same recorded before
  · intro machine other uid' has held recorded granted
    rcases looked granted with ⟨rfl, rfl⟩ | ⟨-, before⟩
    · exact alone has held recorded
    · exact sound.others has held recorded before
  · intro machine copy other uid' has member copyUid same alive unseen recorded
    have before := sound.remembered has member copyUid same alive unseen recorded
    have different : other ≠ key := by
      rintro rfl
      rw [none] at before
      contradiction
    exact (AList.lookup_insert_ne different).trans before

omit sound in
theorem grant_release {other : String}
    (granted : (fleet.ledger.release key).given.lookup other = some uid) :
    other ≠ key ∧ fleet.grant other = some uid := by
  have different : other ≠ key := by
    rintro rfl
    rw [UidLedger.release, AList.lookup_erase] at granted
    contradiction
  rw [UidLedger.release, AList.lookup_erase_ne different] at granted
  exact ⟨different, granted⟩

theorem release
    (dying : ∀ {name copy}, some copy ∈ (fleet.tracks name).versions → copy.uid = some key → copy.deleting = true) :
    Sound config { fleet with ledger := fleet.ledger.release key } := by
  refine { sound with inRange := ?_, exclusive := ?_, own := ?_, others := ?_, remembered := ?_ }
  · intro other uid granted
    exact sound.inRange (grant_release granted).2
  · intro first second uid granted granted'
    exact sound.exclusive (grant_release granted).2 (grant_release granted').2
  · intro machine other uid uid' has same recorded granted
    exact sound.own has same recorded (grant_release granted).2
  · intro machine other uid has held recorded granted
    exact sound.others has held recorded (grant_release granted).2
  · intro machine copy other uid has member copyUid same alive unseen recorded
    have different : other ≠ key := by
      rintro rfl
      rw [dying member copyUid] at alive
      contradiction
    exact (AList.lookup_erase_ne different).trans (sound.remembered has member copyUid same alive unseen recorded)

/-! ### The cache -/

theorem deliver {track : Track} (delivered : (fleet.tracks name).deliver = some track) :
    Sound config (fleet.setTrack name track) := by
  have current := Fleet.current_deliver delivered
  have fewer := Fleet.versions_deliver delivered
  have has : ∀ {machine}, (fleet.setTrack name track).Has config machine → fleet.Has config machine :=
    fun has => ⟨current _ ▸ has.1, has.2⟩
  exact {
    named := fun member => sound.named ((fewer _).subset member)
    identity := fun member member' => sound.identity ((fewer _).subset member) ((fewer _).subset member')
    listed := fun found => sound.listed (current _ ▸ found)
    ordered := fun other => (sound.ordered other).sublist (fewer other)
    recorded := fun present => sound.recorded (has present)
    distinct := fun present has' => sound.distinct (has present) (has has')
    inRange := sound.inRange
    exclusive := sound.exclusive
    own := fun present => sound.own (has present)
    others := fun present => sound.others (has present)
    remembered := fun present member => sound.remembered (has present) ((fewer _).subset member) }

theorem restart : Sound config { fleet with
    tracks := fun name => (fleet.tracks name).relist, ledger := ⟨∅⟩, epoch := fleet.epoch + 1 } where
  named member := sound.named (Track.mem_versions_relist member)
  identity member member' := sound.identity (Track.mem_versions_relist member) (Track.mem_versions_relist member')
  listed := sound.listed
  ordered _ := List.pairwise_singleton _ _
  recorded := sound.recorded
  distinct := sound.distinct
  inRange := nofun
  exclusive := nofun
  own _ _ _ := nofun
  others _ _ _ := nofun
  remembered has member _ _ _ unseen recorded := by
    have same := (List.mem_singleton.mp member).trans has.1
    rw [Option.some.inj same, recorded] at unseen
    contradiction

/-! ### Machines come -/

theorem extend {names born : List String} (listed : fleet.names ⊆ names) (known : fleet.born ⊆ born) :
    Sound config { fleet with names := names, born := born } :=
  { sound with
    named := fun member => by
      obtain ⟨title, uid, before, found⟩ := sound.named member
      exact ⟨title, uid, known before, found⟩
    listed := fun found => listed (sound.listed found) }

theorem create (may : fleet.mayCreate config machine = true) :
    Sound config { fleet.write machine.metadata.name (some machine) with
      names := machine.metadata.name :: fleet.names, born := machine.uid.getD "" :: fleet.born } := by
  simp only [Fleet.mayCreate, Bool.and_eq_true, Option.isNone_iff_eq_none, Option.any_eq_true] at may
  obtain ⟨⟨⟨⟨absent, bare⟩, -⟩, -⟩, key, uid, unborn⟩ := may
  have unrecorded : machine.hostUid = none := by rw [HostMachine.hostUid, bare]; rfl
  have unknown : ∀ {name known}, some known ∈ (fleet.tracks name).versions → known.uid ≠ machine.uid := by
    intro name known member same
    obtain ⟨-, other, born, found⟩ := sound.named member
    rw [same, uid] at found
    cases found
    simp [born] at unborn
  refine (sound.extend (List.subset_cons_self machine.metadata.name _)
    (List.subset_cons_self (machine.uid.getD "") _)).write fun after new => ?_
  cases new
  exact {
    title := rfl
    born := ⟨key, by simp [uid], uid⟩
    listed := List.mem_cons_self
    place := fun member same => absurd same (unknown member)
    evolves := fun member same => absurd same (unknown member)
    records := fun _ recorded => nomatch unrecorded.symm.trans recorded }

end Sound

end Banlieue.ProviderCloudHypervisor
