import Banlieue.ProviderCloudHypervisor.Grants

namespace Banlieue.ProviderCloudHypervisor

open Banlieue.Api Banlieue.Data Banlieue.Data.Program Banlieue.Infra Banlieue.Sdk

/-! # What the calls of a pass do to the uids -/

variable {config : HostConfig} {fleet : Fleet} {machine : HostMachine} {name key : String}
  {version : Option HostMachine}

/-- The machine that a patch is about, which may be another one than the pass is for. -/
def patchedName : ControlCall → Option String
  | .patchFinalizers name _ | .patchStatus name _ => some name
  | _ => none

/-- A patch that arrives finds the machine it is for. -/
def Arrives (fleet : Fleet) (key : String) (choice : FleetChoice) (name : String) : Prop :=
  choice.delivery ≠ .dropped → ∀ machine, fleet.current name = some machine → machine.uid = some key

/-- What one call of a pass does to all, to the other passes and to the pass itself. -/
structure Effect (config : HostConfig) (key : String) (stage : Stage) (fleet : Fleet) (call : ControlCall)
    (answered : ControlReply call × Fleet) : Prop where
  sound : Sound config answered.2
  leaves : ∀ {other}, other ≠ key → Leaves config other fleet answered.2
  means : Means config key (nextStage config key stage call answered.1) answered.2

variable {choice : FleetChoice}

theorem outcome_patch {change : HostMachine → Option (Option HostMachine)} {failed : String}
    (answered : Except String Unit × Fleet)
    (answer : answered = choice.delivery.outcome fleet (.error failed) (fleet.patch name change)) :
    answered.2 = fleet ∧ answered.1 ≠ .ok () ∨
      ∃ machine version, choice.delivery ≠ .dropped ∧ fleet.current name = some machine ∧
        change machine = some version ∧ answered.2 = fleet.write name version := by
  subst answer
  cases found : fleet.current name with
  | none =>
    refine .inl ?_
    cases choice.delivery <;> simp [Delivery.outcome, Fleet.patch, found]
  | some machine =>
    cases changed : change machine with
    | none =>
      refine .inl ?_
      cases choice.delivery <;> simp [Delivery.outcome, Fleet.patch, found, changed]
    | some version =>
      cases delivery : choice.delivery with
      | dropped => exact .inl ⟨rfl, by simp [Delivery.outcome]⟩
      | answered | unanswered =>
        exact .inr ⟨machine, version, by simp, rfl, changed, by simp [Delivery.outcome, Fleet.patch, found, changed]⟩

section Effects

variable {stage : Stage} {call : ControlCall} {answered : ControlReply call × Fleet} {copy : HostMachine}

theorem effect_unchanged (sound : Sound config fleet) (same : answered.2 = fleet)
    (means : Means config key (nextStage config key stage call answered.1) fleet) :
    Effect config key stage fleet call answered where
  sound := same.symm ▸ sound
  leaves _ := same.symm ▸ Leaves.refl config _ fleet
  means := same.symm ▸ means

theorem effect_touched {after : HostMachine} (sound : Sound config fleet) (found : fleet.current name = some machine)
    (written : answered.2 = fleet.write name (some after)) (touches : Touches config machine after)
    (means : Means config key (nextStage config key stage call answered.1) fleet) :
    Effect config key stage fleet call answered := by
  obtain ⟨kept, leaves⟩ := touched sound found fun later new => Option.some.inj new ▸ touches
  rw [← written] at kept leaves
  exact ⟨kept, fun _ => leaves _, means.stable (leaves key)⟩

theorem effect_own (sound : Sound config fleet) (mine : machine.uid = some key)
    (written : answered.2 = fleet.write name version)
    (follows : ∀ after, version = some after → Follows config fleet name after ∧ after.uid = machine.uid)
    (covered : ∀ {after uid}, version = some after → isOurs after config = true → after.Held →
      after.hostUid = some uid → fleet.grant key = some uid ∨
        ∃ earlier, fleet.Has config earlier ∧ earlier.Held ∧ earlier.uid = some key ∧ earlier.hostUid = some uid)
    (means : Means config key (nextStage config key stage call answered.1) (fleet.write name version)) :
    Effect config key stage fleet call answered where
  sound := written ▸ sound.write fun after new => (follows after new).1
  leaves different := by
    have uid : ∀ after, version = some after → after.uid = some key := fun after new => (follows after new).2.trans mine
    rw [written]
    refine leaves_written (fun after new same => ?_) fun {after other _} new ours held same recorded => ?_
    · exact absurd (Option.some.inj (same.symm.trans (uid after new))) different
    · cases same.symm.trans (uid after new)
      exact covered new ours held recorded
  means := written.symm ▸ means

theorem Copy.evolves (known : Copy config fleet key copy) (found : fleet.current copy.metadata.name = some machine)
    (same : machine.uid = some key) : Evolves config copy machine :=
  known.older _ (Fleet.mem_versions_of_current found) copy machine rfl rfl (known.uid.trans same.symm)

theorem Copy.write (known : Copy config fleet key copy)
    (evolves : ∀ after, version = some after → Evolves config copy after) :
    Copy config (fleet.write copy.metadata.name version) key copy where
  uid := known.uid
  ours := known.ours
  born := known.born
  older := by
    intro later member before after beforeSome afterSome uid
    cases beforeSome
    subst afterSome
    rcases Fleet.mem_versions_write member with earlier | ⟨-, new⟩
    · exact known.older _ earlier copy after rfl rfl uid
    · exact evolves after new
  place := by
    intro title written member uid
    rcases Fleet.mem_versions_write member with earlier | ⟨rfl, -⟩
    · exact known.place earlier uid
    · rfl

theorem effect_patchProviderId {text : String} (sound : Sound config fleet) (meant : Means config key stage fleet) :
    Effect config key stage fleet (.patchProviderId name text)
      (fleet.answer config choice (.patchProviderId name text)) := by
  rcases outcome_patch (fleet.answer config choice (.patchProviderId name text)) rfl with
    ⟨same, -⟩ | ⟨machine, version, -, found, changed, written⟩
  · exact effect_unchanged sound same meant
  · cases changed
    exact effect_touched sound found written ⟨rfl, rfl, rfl, id, fun _ => Iff.rfl, fun _ => rfl⟩ meant

variable {status : CloudHypervisorMachineStatus}

theorem effect_patchStatus_same (sound : Sound config fleet) (meant : Means config key stage fleet)
    (same : choice.delivery ≠ .dropped → ∀ machine, fleet.current name = some machine →
      status.hostUid = machine.hostUid) : Effect config key stage fleet (.patchStatus name status)
      (fleet.answer config choice (.patchStatus name status)) := by
  rcases outcome_patch (fleet.answer config choice (.patchStatus name status)) rfl with
    ⟨unchanged, -⟩ | ⟨machine, version, sent, found, changed, written⟩
  · exact effect_unchanged sound unchanged meant
  · cases changed
    exact effect_touched sound found written
      ⟨rfl, rfl, rfl, id, fun _ => Iff.rfl, fun _ => same sent machine found⟩ meant

variable {uid : Nat} {used : List Nat}

theorem effect_patchStatus_granted (sound : Sound config fleet) (meant : Means config key (.granted copy uid) fleet)
    (recorded : status.hostUid = some uid) (faithful : Arrives fleet key choice copy.metadata.name) :
    Effect config key (.granted copy uid) fleet (.patchStatus copy.metadata.name status)
      (fleet.answer config choice (.patchStatus copy.metadata.name status)) := by
  obtain ⟨known, ensured, granted⟩ := meant
  rcases outcome_patch (fleet.answer config choice (.patchStatus copy.metadata.name status)) rfl with
    ⟨unchanged, -⟩ | ⟨machine, version, sent, found, changed, written⟩
  · exact effect_unchanged sound unchanged ⟨known, ensured, granted⟩
  cases changed
  have mine := faithful sent machine found
  have held := ensured machine found mine
  have ours : isOurs machine config = true := (known.evolves found mine).ours.trans known.ours
  have kept : ∀ uid', machine.hostUid = some uid' → status.hostUid = some uid' := fun uid' before =>
    recorded.trans (congrArg some (sound.own (sound.has found ours) mine before granted))
  have advances : Advances config machine (machine.withStatus status) :=
    ⟨rfl, rfl, rfl, id, fun _ => kept, fun _ => id, fun _ _ => id⟩
  refine effect_own sound mine written ?_ ?_ ?_
  · rintro after ⟨⟩
    refine ⟨sound.follows found advances fun _ now => ?_, rfl⟩
    cases recorded.symm.trans now
    refine ⟨sound.inRange granted, .inl held, ?_, ?_, ?_, ?_⟩
    · intro other _ has held' recorded'
      exact (sound.others has held' recorded' granted).trans mine.symm
    · intro other uid' same granted'
      cases mine.symm.trans same
      exact Option.some.inj (granted'.symm.trans granted)
    · intro other _ granted'
      exact sound.exclusive granted granted' ▸ mine
    · intro other key' _ _ same _ _
      cases mine.symm.trans same
      exact granted
  · rintro after uid' ⟨⟩ _ _ now
    cases recorded.symm.trans now
    exact .inl granted
  · refine ⟨known.write fun after new => ?_, fun after current _ => ?_, granted⟩
    · cases new
      exact (known.evolves found mine).advance advances
    · rw [Fleet.current_write_self] at current
      cases current
      exact held

/-! ### The finalizer -/

variable {finalizers : List String}

theorem settle_withFinalizers (held : machineFinalizer ∈ finalizers) :
    (machine.withFinalizers finalizers).settle = some (machine.withFinalizers finalizers) := by
  have nonempty : finalizers.isEmpty = false := by
    cases finalizers with
    | nil => contradiction
    | cons _ _ => rfl
  simp [HostMachine.settle, HostMachine.withFinalizers, nonempty]

theorem held_of_accepts (accepted : machine.accepts finalizers = true)
    (held : machineFinalizer ∈ finalizers) (deleting : machine.deleting = true) : machine.Held := by
  simp only [HostMachine.accepts, deleting, Bool.not_true, Bool.false_or, List.all_eq_true] at accepted
  exact List.contains_iff_mem.mp (accepted _ held)

theorem effect_ensureFinalizer (sound : Sound config fleet) (meant : Means config key (.started copy) fleet)
    (sent : finalizerListWith copy.metadata.finalizers machineFinalizer = some finalizers)
    (faithful : Arrives fleet key choice copy.metadata.name) :
    Effect config key (.started copy) fleet (.patchFinalizers copy.metadata.name finalizers)
      (fleet.answer config choice (.patchFinalizers copy.metadata.name finalizers)) := by
  obtain ⟨known, fresh⟩ := meant
  have listed : machineFinalizer ∈ finalizers := Operation.ensure_keeps sent
  rcases outcome_patch (fleet.answer config choice (.patchFinalizers copy.metadata.name finalizers)) rfl with
    ⟨unchanged, failed⟩ | ⟨machine, version, arrived, found, changed, written⟩
  · refine effect_unchanged sound unchanged ?_
    simp only [nextStage, failed, if_false]
    trivial
  obtain ⟨accepted, changed⟩ := Option.ite_none_right_eq_some.mp changed
  rw [settle_withFinalizers listed] at changed
  have mine := faithful arrived machine found
  have kept : machine.deleting = true → machine.Held := held_of_accepts accepted listed
  have advances : Advances config machine (machine.withFinalizers finalizers) :=
    ⟨rfl, rfl, rfl, id, fun _ _ => id, fun _ _ => listed, fun _ deleting free => absurd (kept deleting) free⟩
  have back : isOurs machine config = true → machine.hostUid.isSome = true → machine.Held := by
    intro ours recorded
    obtain ⟨uid, recorded⟩ := Option.isSome_iff_exists.mp recorded
    exact (sound.recorded (sound.has found ours) recorded).2.elim id kept
  cases changed
  have ensured : Means config key (.ensured copy) (fleet.write copy.metadata.name (some (machine.withFinalizers finalizers))) := by
    refine ⟨known.write fun after new => ?_, fun unseen after uid current _ recorded => ?_, fun after current _ => ?_⟩
    · cases new
      exact (known.evolves found mine).advance advances
    · rw [Fleet.current_write_self] at current
      cases current
      exact fresh unseen machine uid found mine recorded
    · rw [Fleet.current_write_self] at current
      cases current
      exact listed
  refine effect_own sound mine written ?_ ?_ ?_
  · rintro after ⟨⟩
    exact ⟨sound.follows_same found advances (fun _ => rfl) fun ours recorded _ => back ours recorded, rfl⟩
  · rintro after uid ⟨⟩ ours _ recorded
    exact .inr ⟨machine, sound.has found ours, back ours (Option.isSome_of_eq_some recorded), mine, recorded⟩
  · simp only [nextStage]
    split
    · exact ensured
    · trivial

theorem effect_removeFinalizer (sound : Sound config fleet) (meant : Means config key (.finalizing copy) fleet)
    (sent : finalizerListWithout copy.metadata.finalizers machineFinalizer = some finalizers)
    (faithful : Arrives fleet key choice copy.metadata.name) :
    Effect config key (.finalizing copy) fleet (.patchFinalizers copy.metadata.name finalizers)
      (fleet.answer config choice (.patchFinalizers copy.metadata.name finalizers)) := by
  obtain ⟨known, deleting⟩ := meant
  have dropped : machineFinalizer ∉ finalizers := Operation.remove_drops sent
  rcases outcome_patch (fleet.answer config choice (.patchFinalizers copy.metadata.name finalizers)) rfl with
    ⟨unchanged, failed⟩ | ⟨machine, version, arrived, found, changed, written⟩
  · refine effect_unchanged sound unchanged ?_
    simp only [nextStage, failed, if_false]
    trivial
  obtain ⟨-, changed⟩ := Option.ite_none_right_eq_some.mp changed
  have mine := faithful arrived machine found
  have evolves := known.evolves found mine
  have after_eq : ∀ after, version = some after → after = machine.withFinalizers finalizers :=
    fun after new => HostMachine.settle_eq_some ((Option.some.inj changed).trans new)
  have follows : ∀ {earlier : HostMachine}, earlier.deleting = true → Evolves config earlier machine →
      Evolves config earlier (machine.withFinalizers finalizers) := by
    intro earlier old into
    refine ⟨into.ours, into.deleting, into.recorded, fun _ alive => ?_, fun _ _ _ => dropped⟩
    rw [old] at alive
    contradiction
  have removed : Means config key (.removed copy) (fleet.write copy.metadata.name version) := by
    refine ⟨known.write fun after new => ?_, deleting, fun after current _ => ?_⟩
    · cases after_eq after new
      exact follows deleting evolves
    · rw [Fleet.current_write_self] at current
      cases after_eq after current
      exact dropped
  refine effect_own sound mine written ?_ ?_ ?_
  · intro after new
    cases after_eq after new
    refine ⟨sound.follows_current found rfl rfl (fun member same into => ?_) fun ours recorded => ?_, rfl⟩
    -- all the cache can show is newer than the copy, which was being deleted
    · have newer := known.older _ member copy _ rfl rfl (known.uid.trans (same.trans mine).symm)
      exact follows (newer.deleting deleting) into
    · exact sound.records_same (sound.has found ours) rfl rfl (.inr (evolves.deleting deleting)) recorded
        fun held => absurd held dropped
  · intro after uid new _ held
    cases after_eq after new
    exact absurd held dropped
  · simp only [nextStage]
    split
    · exact removed
    · trivial

/-! ### The ledger -/

theorem mem_usedHostUids {other : String} (sound : Sound config fleet) (has : fleet.Has config machine)
    (same : machine.uid = some other) (different : other ≠ key) (recorded : machine.hostUid = some uid) :
    uid ∈ usedHostUids fleet.machines config key := by
  refine List.mem_filterMap.mpr ⟨machine, ?_, recorded⟩
  have listed : machine ∈ fleet.machines := List.mem_filterMap.mpr ⟨_, sound.listed has.1, has.1⟩
  simp [listed, has.2, same, different]

theorem effect_list (sound : Sound config fleet) (meant : Means config key (.ensured copy) fleet)
    (unseen : copy.hostUid = none) :
    Effect config key (.ensured copy) fleet .list (fleet.answer config choice .list) := by
  obtain ⟨known, fresh, ensured⟩ := meant
  have seen : Means config key (.listed copy (usedHostUids fleet.machines config key)) fleet :=
    ⟨known, fresh unseen, ensured, fun machine other uid has _ same different recorded =>
      .inl (mem_usedHostUids sound has same different recorded)⟩
  cases delivery : choice.delivery with
  | answered =>
    have replied : fleet.answer config choice .list = (.ok fleet.machines, fleet) := by
      rw [Fleet.answer, delivery]
      rfl
    rw [replied]
    exact effect_unchanged sound rfl seen
  | dropped | unanswered =>
    have replied : fleet.answer config choice .list = (.error "no answer", fleet) := by
      rw [Fleet.answer, delivery]
      rfl
    rw [replied]
    exact effect_unchanged sound rfl trivial

theorem Covered.alone (sound : Sound config fleet)
    (covered : Covered config fleet key used) (unused : uid ∉ used) (free : uid ∉ fleet.ledger.values)
    (has : fleet.Has config machine) (held : machine.Held) (recorded : machine.hostUid = some uid) :
    machine.uid = some key := by
  obtain ⟨-, other, -, same⟩ := sound.named (Fleet.mem_versions_of_current has.1)
  rw [same]
  by_contra different
  rcases covered machine other uid has held same (fun equal => different (congrArg some equal)) recorded with
    seen | granted
  · exact unused seen
  · exact free (UidLedger.mem_values granted)

theorem Fresh.unrecorded (known : Copy config fleet key copy) (fresh : Fresh fleet key copy.metadata.name)
    (none : fleet.grant key = none) (has : fleet.Has config machine) (same : machine.uid = some key) :
    machine.hostUid ≠ some uid := by
  intro recorded
  have place := known.place (Fleet.mem_versions_of_current has.1) same
  have granted := fresh machine uid (place ▸ has.1) same recorded
  rw [none] at granted
  contradiction

theorem effect_assign (sound : Sound config fleet) (meant : Means config key (.listed copy used) fleet) :
    Effect config key (.listed copy used) fleet (.assign key used) (fleet.answer config choice (.assign key used)) := by
  obtain ⟨known, fresh, ensured, covered⟩ := meant
  rcases fleet.ledger.assign_cases key used config.guests with
    ⟨uid, given, assigned⟩ | ⟨uid, none, contained, unused, free, assigned⟩ | ⟨none, assigned⟩
  · refine effect_unchanged sound (by simp [Fleet.answer, assigned]) ?_
    simp only [Fleet.answer, assigned, nextStage]
    exact ⟨known, ensured, given⟩
  · have given := sound.give none contained free (fun has same => fresh.unrecorded known none has same)
      (fun has held recorded => covered.alone sound unused free has held recorded)
    have changed : fleet.answer config choice (.assign key used) =
        (some uid, { fleet with ledger := ⟨fleet.ledger.given.insert key uid⟩ }) := by
      simp [Fleet.answer, assigned]
    rw [changed]
    refine ⟨given, fun different => ?_, ⟨?_, ensured, AList.lookup_insert _⟩⟩
    · refine leaves_ledger (AList.lookup_insert_ne different) ?_
      intro machine other uid' has _ same recorded granted
      have apart : other ≠ key := by
        rintro rfl
        cases none.symm.trans granted
      exact (AList.lookup_insert_ne apart).trans granted
    · exact ⟨known.uid, known.ours, known.born, known.older, known.place⟩
  · refine effect_unchanged sound (by simp [Fleet.answer, assigned]) ?_
    simp only [Fleet.answer, assigned, nextStage]
    exact ⟨known, fresh, none⟩

theorem effect_release (sound : Sound config fleet) (meant : Means config key (.removed copy) fleet) :
    Effect config key (.removed copy) fleet (.release key) (fleet.answer config choice (.release key)) := by
  obtain ⟨known, deleting, freed⟩ := meant
  refine ⟨sound.release ?_, fun different => leaves_ledger (AList.lookup_erase_ne different) ?_, trivial⟩
  · intro name earlier member same
    have place := known.place member same
    exact (known.older _ (place ▸ member) copy earlier rfl rfl (known.uid.trans same.symm)).deleting deleting
  · intro machine other uid has held same _ granted
    have apart : other ≠ key := by
      rintro rfl
      have place := known.place (Fleet.mem_versions_of_current has.1) same
      exact freed machine (place ▸ has.1) same held
    exact (AList.lookup_erase_ne apart).trans granted

theorem effect (sound : Sound config fleet) (meant : Means config key stage fleet) (permitted : Permits key stage call)
    (faithful : choice.delivery ≠ .dropped → ∀ name ∈ patchedName call, ∀ machine,
      fleet.current name = some machine → machine.uid = some key) :
    Effect config key stage fleet call (fleet.answer config choice call) := by
  cases call with
  | host call => exact effect_unchanged sound rfl meant
  | patchProviderId name text => exact effect_patchProviderId sound meant
  | list =>
    cases stage with
    | ensured copy => exact effect_list sound meant permitted
    | _ => exact permitted.elim
  | patchFinalizers name finalizers =>
    have faithful := fun arrived => faithful arrived name rfl
    cases stage with
    | started copy =>
      obtain ⟨rfl, sent⟩ := permitted
      exact effect_ensureFinalizer sound meant sent faithful
    | finalizing copy =>
      obtain ⟨rfl, sent⟩ := permitted
      exact effect_removeFinalizer sound meant sent faithful
    | _ => exact permitted.elim
  | patchStatus name status =>
    have faithful := fun arrived => faithful arrived name rfl
    cases stage with
    | ensured copy =>
      obtain ⟨rfl, recorded, same⟩ := permitted
      obtain ⟨uid, recorded⟩ := Option.isSome_iff_exists.mp recorded
      refine effect_patchStatus_same sound meant fun arrived machine found => ?_
      rw [same, recorded]
      exact ((meant.1.evolves found (faithful arrived machine found)).recorded meant.1.ours uid recorded).symm
    | granted copy uid =>
      obtain ⟨rfl, recorded⟩ := permitted
      exact effect_patchStatus_granted sound meant recorded faithful
    | refused copy =>
      obtain ⟨rfl, bare⟩ := permitted
      refine effect_patchStatus_same sound meant fun arrived machine found => ?_
      have mine := faithful arrived machine found
      have has := sound.has found ((meant.1.evolves found mine).ours.trans meant.1.ours)
      rw [bare]
      exact (Option.eq_none_iff_forall_ne_some.mpr fun uid =>
        meant.2.1.unrecorded meant.1 meant.2.2 has mine).symm
    | _ => exact permitted.elim
  | assign machine recorded =>
    cases stage with
    | listed copy used =>
      obtain ⟨rfl, rfl⟩ := permitted
      exact effect_assign sound meant
    | _ => exact permitted.elim
  | release machine =>
    cases stage with
    | removed copy =>
      cases permitted
      exact effect_release sound meant
    | _ => exact permitted.elim

end Effects

end Banlieue.ProviderCloudHypervisor
