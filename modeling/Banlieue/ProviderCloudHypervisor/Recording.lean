import Banlieue.ProviderCloudHypervisor.Effects

namespace Banlieue.ProviderCloudHypervisor

open Banlieue.Api Banlieue.Data Banlieue.Data.Program Banlieue.Infra Banlieue.Sdk

/-! # The uids that passes record -/

/-! ## What a pass asks for -/

section Obedience

variable {α β : Type} {config : HostConfig} {key : String} {stage : Stage} {copy : HostMachine} {provider : Provider}

@[simp]
abbrev Obedient (config : HostConfig) (key : String) (stage : Stage) (pass : ControlPass α) : Prop :=
  wpe (recording config key) pass (fun _ _ => True) (fun _ _ => True) stage

theorem wp_onMachine (pass : Pass α) {post : Except Error α → Stage → Prop} (rest : ∀ result, post result stage) :
    (onMachine pass).run.wp (recording config key) post stage := by
  change (pass.run.embed _ _).wp _ _ _
  generalize pass.run = plain
  induction plain with
  | done value => exact rest value
  | await call next ih =>
    refine ⟨by cases stage <;> trivial, fun reply after moved => ?_⟩
    have same : after = stage := moved.trans (by cases stage <;> rfl)
    exact same ▸ ih reply

theorem obedient_onMachine_bind (pass : Pass α) {next : α → ControlPass β}
    (rest : ∀ value, Obedient config key stage (next value)) : Obedient config key stage (onMachine pass >>= next) := by
  rw [Obedient, wpe_bind]
  refine wp_onMachine pass fun result => ?_
  cases result with
  | ok value => exact rest value
  | error reason => trivial

attribute [local simp] Permits nextStage patchStatus listMachines patchProviderId

theorem obedient_reportFailure {error : Error} {value : α}
    (permitted : ∀ status, status.hostUid = copy.hostUid → Permits key stage (.patchStatus copy.metadata.name status)) :
    Obedient config key stage (do reportFailure copy error; pure value) := by
  simp only [reportFailure, bind_assoc]
  refine obedient_onMachine_bind _ fun now => ?_
  refine ⟨permitted _ ?_, fun reply after _ => ?_⟩
  · rw [HostMachine.hostUid]
    cases copy.status <;> rfl
  · cases reply <;> trivial

theorem obedient_recordUid (unseen : copy.hostUid = none) :
    Obedient config key (.ensured copy) (recordUid config copy key) := by
  have refused : Obedient config key (.refused copy) (do reportFailure copy .uidRangeFull; pure (Action.requeue 300)) :=
    obedient_reportFailure fun status same => ⟨rfl, same.trans unseen⟩
  simpa [recordUid, unseen, Option.forall] using refused

variable {plan : MachinePlan}

theorem hostUid_buildStatus {observed : Observed} {failureDomain : String} {generation : Int}
    {readyAt guestAt : Timestamp} :
    (buildStatus copy.status observed plan failureDomain generation readyAt guestAt).hostUid = some plan.hostUid := by
  simp only [buildStatus]
  split <;> rfl

theorem hostUid_effectivePlan {status : Option CloudHypervisorMachineStatus} :
    (effectivePlan plan status).hostUid = plan.hostUid := by
  unfold effectivePlan
  split <;> rfl

theorem permits_report (recorded : copy.hostUid.isSome = true) (status : CloudHypervisorMachineStatus)
    (same : status.hostUid = copy.hostUid) : Permits key (.ensured copy) (.patchStatus copy.metadata.name status) :=
  ⟨rfl, recorded, same⟩

theorem obedient_convergePlanned (recorded : copy.hostUid = some plan.hostUid) :
    Obedient config key (.ensured copy) (convergePlanned provider config copy plan) := by
  have published : wpe (recording config key) (publishProviderId copy plan) (fun _ after => after = .ensured copy)
      (fun _ _ => True) (.ensured copy) := by
    simp [publishProviderId]
  refine wpe_andThen published ?_
  rintro _ _ rfl
  rw [wpe_bind, wpe_lift]
  refine wp_onMachine _ fun result => ?_
  cases result with
  | ok observed =>
    refine obedient_onMachine_bind _ fun readyAt => obedient_onMachine_bind _ fun guestAt => ?_
    simp [recorded, hostUid_buildStatus]
  | error error => exact obedient_reportFailure (permits_report (Option.isSome_of_eq_some recorded))

theorem obedient_convergeMachine {hostUid : Nat} (recorded : copy.hostUid = some hostUid) :
    Obedient config key (.ensured copy) (convergeMachine provider config copy key hostUid) := by
  unfold convergeMachine
  split
  · exact obedient_reportFailure (permits_report (Option.isSome_of_eq_some recorded))
  · rename_i plan planned
    obtain ⟨storage, nics, planned⟩ := planned_of_planMachine planned
    refine obedient_convergePlanned ?_
    rw [recorded, hostUid_effectivePlan, planned.plan]
    rfl

/-- The stage of a pass that starts with a copy. -/
def firstStage (config : HostConfig) (copy : HostMachine) : Stage :=
  if isOurs copy config = false then .ended
  else if copy.deleting then if copy.Held then .finalizing copy else .removed copy
  else if copy.Held then .ensured copy else .started copy

theorem obedient_reconcileLive (alive : copy.deleting = false) (ours : isOurs copy config = true) :
    Obedient config key (firstStage config copy) (reconcileLive provider config copy key) := by
  have finalizer : wpe (recording config key) (ensureFinalizer copy) (fun _ after => after = .ensured copy) (fun _ _ => True)
      (firstStage config copy) := by
    simp only [firstStage, ours, alive, ensureFinalizer, patchFinalizers]
    by_cases held : machineFinalizer ∈ copy.metadata.finalizers <;> simp [held, HostMachine.Held, finalizerListWith]
  refine wpe_andThen finalizer ?_
  rintro _ _ rfl
  cases recorded : copy.hostUid with
  | none => exact obedient_recordUid recorded
  | some hostUid => exact obedient_convergeMachine recorded

theorem obedient_finalize (dying : copy.deleting = true) (ours : isOurs copy config = true) :
    Obedient config key (firstStage config copy) (finalize config copy key) := by
  have finalizer : wpe (recording config key) (removeFinalizer copy) (fun _ after => after = .removed copy) (fun _ _ => True)
      (firstStage config copy) := by
    simp only [firstStage, ours, dying, removeFinalizer, patchFinalizers]
    by_cases held : machineFinalizer ∈ copy.metadata.finalizers <;> simp [held, HostMachine.Held, finalizerListWithout_eq]
  have rest : Obedient config key (firstStage config copy)
      (do removeFinalizer copy; consult (.release key) .ok; return Action.awaitChange) := by
    refine wpe_andThen finalizer ?_
    rintro _ _ rfl
    simp
  unfold finalize tearDown
  cases copy.hostUid with
  | none => exact rest
  | some hostUid =>
    simp only [Option.elim]
    split <;> exact obedient_onMachine_bind _ fun _ => rest

theorem obedient_reconcile (identified : copy.uid = some key) :
    Obedient config key (firstStage config copy) (reconcile provider config copy) := by
  unfold reconcile
  cases ours : isOurs copy config with
  | false => trivial
  | true =>
    simp only [Bool.not_true, Bool.false_eq_true, if_false, identified]
    split
    · exact obedient_finalize ‹_› ours
    · exact obedient_reconcileLive (Bool.eq_false_iff.mpr ‹_›) ours

end Obedience

/-! ## Any number of passes -/

section Runs

variable {provider : Provider} {config : HostConfig} {fleet after : Fleet} {key name : String} {copy : HostMachine}

theorem means_firstStage (sound : Sound config fleet) (cached : (fleet.tracks name).cached = some copy)
    (identified : copy.uid = some key) : Means config key (firstStage config copy) fleet := by
  have member : some copy ∈ (fleet.tracks name).versions := cached ▸ List.mem_cons_self
  obtain ⟨rfl, uid, born, same⟩ := sound.named member
  cases identified.symm.trans same
  cases ours : isOurs copy config with
  | false =>
    simp only [firstStage, ours, if_true]
    trivial
  | true =>
    have known : Copy config fleet key copy := by
      refine ⟨identified, ours, born, fun version later => ?_, fun later same => ?_⟩
      · have ordered := sound.ordered copy.metadata.name
        rcases List.mem_cons.mp later with rfl | unseen
        · rintro before after beforeSome afterSome -
          cases beforeSome
          cases cached.symm.trans afterSome
          exact .refl config copy
        · exact cached ▸ (List.pairwise_cons.mp ordered).1 version unseen
      · exact sound.identity later member (same.trans identified.symm)
    have fresh : copy.deleting = false → copy.hostUid = none → Fresh fleet key copy.metadata.name := by
      intro alive unseen machine uid found same recorded
      have has := sound.has found ((known.evolves found same).ours.trans ours)
      have title := sound.name_of_current found
      exact sound.remembered has (title.symm ▸ member) identified same alive unseen recorded
    cases dying : copy.deleting with
    | true =>
      by_cases held : copy.Held
      · simp only [firstStage, ours, dying, held]
        exact ⟨known, dying⟩
      · simp only [firstStage, ours, dying, held]
        exact ⟨known, dying, fun machine found same => (known.evolves found same).gone ours dying held⟩
    | false =>
      by_cases held : copy.Held
      · simp only [firstStage, ours, dying, held]
        exact ⟨known, fresh dying, fun machine found same => (known.evolves found same).held ours dying held⟩
      · simp only [firstStage, ours, dying, held]
        exact ⟨known, fresh dying⟩

variable (provider config) in
/-- A pass of the provider that runs now is at a stage whose meaning holds; one of an
earlier provider reaches nobody. -/
def Knows (task : PassTask) (program : Program ControlCall ControlReply (Except Error Action)) (fleet : Fleet) : Prop :=
  task.epoch ≤ fleet.epoch ∧ (task.epoch = fleet.epoch →
    @Machine.Abides _ _ (fleetMachine provider config) _ (recording config task.uid) (Means config task.uid) task program fleet)

variable (provider config) in
/-- What is patched by name is, when the patch arrives, the machine that the pass is for. -/
def Faithful (state : (fleetMachine provider config).State) : (fleetMachine provider config).Event → Prop
  | .serve task choice =>
    AtCall (fun call => PassTask.epoch task = Fleet.epoch state.service →
      FleetChoice.delivery choice ≠ .dropped → ∀ name ∈ patchedName call,
        ∀ machine ∈ Fleet.current state.service name, machine.uid = some (PassTask.uid task)) (state.running task)
  | _ => True

instance (state : (fleetMachine provider config).State) (event : (fleetMachine provider config).Event) :
    Decidable (Faithful provider config state event) :=
  match event with
  | .serve _ _ => inferInstanceAs (Decidable (AtCall _ _))
  | .launch _ _ | .crash _ | .disturb _ => .isTrue trivial

/-- The ledger was changed, or a machine that was there. -/
def Fleet.Answered (fleet after : Fleet) : Prop :=
  (∃ ledger, after = { fleet with ledger := ledger }) ∨
    ∃ name machine version, fleet.current name = some machine ∧
      (∀ later, version = some later → later.uid = machine.uid) ∧ after = fleet.write name version

theorem answered_answer (fleet : Fleet) (choice : FleetChoice) (call : ControlCall) :
    fleet.Answered (fleet.answer config choice call).2 := by
  have patched : ∀ {answered : Except String Unit × Fleet} {name change},
      answered = choice.delivery.outcome fleet (.error "no answer") (fleet.patch name change) →
      (∀ machine later, change machine = some (some later) → later.uid = machine.uid) → fleet.Answered answered.2 := by
    intro answered name change answer same
    rcases outcome_patch answered answer with ⟨unchanged, -⟩ | ⟨machine, version, -, found, changed, written⟩
    · exact .inl ⟨_, unchanged⟩
    · exact .inr ⟨name, machine, version, found, fun later new => same machine later (new ▸ changed), written⟩
  cases call with
  | host call => exact .inl ⟨_, rfl⟩
  | list =>
    refine .inl ⟨fleet.ledger, ?_⟩
    change (choice.delivery.outcome fleet _ _).2 = fleet
    cases choice.delivery <;> rfl
  | patchFinalizers name finalizers =>
    refine patched rfl fun machine later changed => ?_
    obtain ⟨-, changed⟩ := Option.ite_none_right_eq_some.mp changed
    rw [HostMachine.settle_eq_some (Option.some.inj changed)]
    rfl
  | patchStatus name status =>
    refine patched rfl fun machine later changed => ?_
    cases changed
    rfl
  | patchProviderId name text =>
    refine patched rfl fun machine later changed => ?_
    cases changed
    rfl
  | assign machine recorded => exact .inl ⟨_, rfl⟩
  | release machine => exact .inl ⟨_, rfl⟩

theorem epoch_answer (fleet : Fleet) (choice : FleetChoice) (call : ControlCall) :
    (fleet.answer config choice call).2.epoch = fleet.epoch := by
  rcases answered_answer fleet choice call with ⟨ledger, changed⟩ | ⟨name, machine, version, -, -, changed⟩
  · rw [changed]
  · rw [changed]
    rfl

theorem Means.unborn {stage : Stage} (meant : Means config key stage fleet) (unborn : key ∉ fleet.born) :
    stage = .ended := by
  cases stage with
  | ended => rfl
  | _ => exact absurd meant.1.born unborn

theorem Means.survive {stage : Stage} (meant : Means config key stage fleet)
    (leaves : key ∈ fleet.born → Leaves config key fleet after) : Means config key stage after := by
  by_cases born : key ∈ fleet.born
  · exact meant.stable (leaves born)
  · rw [meant.unborn born]
    trivial

variable {disturbance : FleetDisturbance}

theorem disturb_keeps (sound : Sound config fleet) (disturbed : fleet.disturb config disturbance = some after) :
    Sound config after ∧ (fleet.epoch < after.epoch ∨
      fleet.epoch = after.epoch ∧ ∀ key ∈ fleet.born, Leaves config key fleet after) := by
  have settled : ∀ {name machine changed}, fleet.current name = some machine → Touches config machine changed →
      Sound config (fleet.write name changed.settle) ∧ (fleet.epoch < fleet.epoch ∨
        fleet.epoch = fleet.epoch ∧ ∀ key ∈ fleet.born, Leaves config key fleet (fleet.write name changed.settle)) := by
    intro name machine changed found touches
    obtain ⟨kept, leaves⟩ := touched sound found fun later new => HostMachine.settle_eq_some new ▸ touches
    exact ⟨kept, .inr ⟨rfl, fun key _ => leaves key⟩⟩
  cases disturbance with
  | create machine =>
    obtain ⟨may, changed⟩ := Option.ite_none_right_eq_some.mp disturbed
    cases changed
    exact ⟨sound.create may, .inr ⟨rfl, fun key born => leaves_create born may⟩⟩
  | delete name now =>
    obtain ⟨machine, found, changed⟩ := Option.map_eq_some_iff.mp disturbed
    subst changed
    refine settled found ⟨rfl, rfl, rfl, fun dying => ?_, fun _ => Iff.rfl, fun _ => rfl⟩
    simp_all [HostMachine.deleting, HostMachine.withDeletion, ObjectMeta.markDeleted]
  | edit machine =>
    obtain ⟨before, found, changed⟩ := Option.bind_eq_some_iff.mp disturbed
    obtain ⟨may, changed⟩ := Option.ite_none_right_eq_some.mp changed
    simp only [Fleet.mayEdit, Bool.and_eq_true, beq_iff_eq, Bool.or_eq_true, Bool.not_eq_true',
      decide_eq_true_eq] at may
    obtain ⟨⟨⟨⟨-, uid⟩, deletion⟩, ours⟩, own⟩ := may
    have own : isOurs before config = true → machine.status = before.status ∧ (machine.Held ↔ before.Held) :=
      fun mine => own.resolve_left (by simp [mine])
    cases changed
    refine settled found ⟨(sound.name_of_current found).symm, uid, ours, by simp [HostMachine.deleting, deletion],
      fun mine => (own mine).2, fun mine => ?_⟩
    rw [HostMachine.hostUid, (own mine).1, HostMachine.hostUid]
  | deliver name =>
    obtain ⟨track, delivered, changed⟩ := Option.map_eq_some_iff.mp disturbed
    subst changed
    exact ⟨sound.deliver delivered, .inr ⟨rfl, fun key _ => leaves_deliver delivered⟩⟩
  | restart =>
    cases disturbed
    exact ⟨sound.restart, .inl (Nat.lt_succ_self _)⟩

section Served

variable {task other : PassTask} {choice : FleetChoice} {call : ControlCall}
  {next : ControlReply call → Program ControlCall ControlReply (Except Error Action)}
  {program : Program ControlCall ControlReply (Except Error Action)} (sound : Sound config fleet)

include sound

theorem Knows.disturbed (disturbed : fleet.disturb config disturbance = some after)
    (knows : Knows provider config task program fleet) : Knows provider config task program after := by
  obtain ⟨past, knows⟩ := knows
  rcases (disturb_keeps sound disturbed).2 with started | ⟨same, leaves⟩
  · exact ⟨(past.trans_lt started).le, fun current => absurd current (past.trans_lt started).ne⟩
  · refine ⟨same ▸ past, fun current => ?_⟩
    exact (knows (current.trans same.symm)).stable fun _ known => known.survive (leaves _)

variable (knows : Knows provider config task (.await call next) fleet)
  (faithful : task.epoch = fleet.epoch → choice.delivery ≠ .dropped → ∀ name ∈ patchedName call,
    ∀ machine ∈ fleet.current name, machine.uid = some task.uid)

include knows faithful

theorem Knows.served : Sound config (fleet.serve config task choice call).2 ∧
      Knows provider config task (next (fleet.serve config task choice call).1)
        (fleet.serve config task choice call).2 := by
  obtain ⟨past, knows⟩ := knows
  by_cases now : task.epoch = fleet.epoch
  · simp only [Fleet.serve, now, if_true]
    obtain ⟨sound, rest⟩ := (knows now).served fun stage meant permitted =>
      have answered := effect sound meant permitted (faithful now)
      ⟨answered.sound, _, rfl, answered.means⟩
    exact ⟨sound, past.trans (epoch_answer fleet choice call).ge, fun _ => rest⟩
  · simp only [Fleet.serve, now, if_false]
    exact ⟨sound, past, fun current => absurd current now⟩

theorem Knows.undisturbed (different : other ≠ task) (others : Knows provider config other program fleet) :
    Knows provider config other program (fleet.serve config task choice call).2 := by
  by_cases now : task.epoch = fleet.epoch
  · simp only [Fleet.serve, now, if_true]
    obtain ⟨stage, meant, permitted, -⟩ := knows.2 now
    have answered := effect sound meant permitted (faithful now)
    refine ⟨others.1.trans (epoch_answer fleet choice call).ge, fun current => ?_⟩
    have live : other.epoch = fleet.epoch := current.trans (epoch_answer fleet choice call)
    -- two passes of one provider are over different machines
    have apart : other.uid ≠ task.uid := fun same => different (by
      cases other
      cases task
      cases same
      cases live.trans now.symm
      rfl)
    exact (others.2 live).stable fun _ known => known.stable (answered.leaves apart)
  · simp only [Fleet.serve, now, if_false]
    exact others

end Served

theorem uids_inductive (provider : Provider) (config : HostConfig) :
    Machine.Inductive (Faithful provider config) (Sound config) (Knows provider config) where
  launched := by
    intro state task name program holds _ _ launched
    obtain ⟨copy, cached, started⟩ := Option.bind_eq_some_iff.mp launched
    obtain ⟨⟨now, identified⟩, program_eq⟩ := Option.ite_none_right_eq_some.mp started
    cases program_eq
    refine ⟨now.le, fun _ => ⟨firstStage config copy, means_firstStage holds.1 cached identified, ?_⟩⟩
    exact wp_mono (obedient_reconcile identified) fun _ _ _ => trivial
  served := by
    intro state task choice call next holds faithful running
    simp only [Faithful, running, AtCall] at faithful
    exact (holds.2 task _ running).served holds.1 faithful
  undisturbed := by
    intro state task choice call next other program holds faithful running different active
    simp only [Faithful, running, AtCall] at faithful
    exact (holds.2 task _ running).undisturbed holds.1 faithful different (holds.2 other program active)
  disturbed := by
    intro state disturbance service holds _ disturbed
    exact ⟨(disturb_keeps holds.1 disturbed).1, fun task program active =>
      (holds.2 task program active).disturbed holds.1 disturbed⟩

theorem sound_empty (config : HostConfig) : Sound config {} := by
  have nothing : ∀ {name : String} {machine : HostMachine}, some machine ∈ ((({} : Fleet).tracks name)).versions → False := by
    intro name machine member
    cases List.mem_singleton.mp member
  have nobody : ∀ {machine : HostMachine}, ({} : Fleet).Has config machine → False := nofun
  constructor
  case named => exact fun member => (nothing member).elim
  case identity => exact fun member => (nothing member).elim
  case listed => exact nofun
  case ordered => exact fun _ => List.pairwise_singleton _ _
  case recorded => exact fun has => (nobody has).elim
  case distinct => exact fun has => (nobody has).elim
  case inRange => exact nofun
  case exclusive => exact nofun
  case own => exact fun has => (nobody has).elim
  case others => exact fun has => (nobody has).elim
  case remembered => exact fun has => (nobody has).elim

/-! ## What is recorded stays -/

/-- Later there is no machine of an earlier one's uid that has another name or has
forgotten what was recorded. -/
structure Persists (config : HostConfig) (before after : Fleet) : Prop where
  born : before.born ⊆ after.born
  kept : ∀ {name machine key}, after.current name = some machine → machine.uid = some key → key ∈ before.born →
    ∃ earlier, before.current name = some earlier ∧ earlier.uid = some key ∧ isOurs machine config = isOurs earlier config ∧
      (isOurs earlier config = true → ∀ uid, earlier.hostUid = some uid → machine.hostUid = some uid)

theorem Persists.refl (config : HostConfig) (fleet : Fleet) : Persists config fleet fleet :=
  ⟨fun _ => id, fun found same _ => ⟨_, found, same, rfl, fun _ _ => id⟩⟩

theorem Persists.trans {last : Fleet} (first : Persists config fleet after) (second : Persists config after last) :
    Persists config fleet last := by
  refine ⟨fun _ born => second.born (first.born born), fun found same born => ?_⟩
  obtain ⟨middle, found', same', ours', kept'⟩ := second.kept found same (first.born born)
  obtain ⟨earlier, found'', same'', ours'', kept''⟩ := first.kept found' same' born
  exact ⟨earlier, found'', same'', ours'.trans ours'', fun ours uid recorded =>
    kept' (ours''.trans ours) uid (kept'' ours uid recorded)⟩

theorem persists_write {version : Option HostMachine} {machine : HostMachine} (found : fleet.current name = some machine)
    (same : ∀ later, version = some later → later.uid = machine.uid) (sound : Sound config (fleet.write name version)) :
    Persists config fleet (fleet.write name version) := by
  refine ⟨fun _ => id, ?_⟩
  intro title written key current uid _
  by_cases here : title = name
  · subst here
    have ordered := sound.ordered title
    rw [Fleet.versions_write_self, List.pairwise_append] at ordered
    rw [Fleet.current_write_self] at current
    have evolves := ordered.2.2 _ (Fleet.mem_versions_of_current found) _ (List.mem_singleton_self _)
      machine written rfl current (same written current).symm
    exact ⟨machine, found, (same written current).symm.trans uid, evolves.ours, evolves.recorded⟩
  · rw [Fleet.current_write_other here] at current
    exact ⟨written, current, uid, rfl, fun _ _ => id⟩

theorem persists_serve {task : PassTask} {choice : FleetChoice} {call : ControlCall}
    (sound : Sound config (fleet.serve config task choice call).2) :
    Persists config fleet (fleet.serve config task choice call).2 := by
  unfold Fleet.serve at sound ⊢
  split
  · rename_i now
    rw [if_pos now] at sound
    rcases answered_answer fleet choice call with ⟨ledger, changed⟩ | ⟨name, machine, version, found, same, changed⟩
    · rw [changed]
      exact ⟨fun _ => id, fun found same _ => ⟨_, found, same, rfl, fun _ _ => id⟩⟩
    · rw [changed] at sound ⊢
      exact persists_write found same sound
  · exact .refl config fleet

theorem persists_disturb (sound : Sound config after)
    (disturbed : fleet.disturb config disturbance = some after) : Persists config fleet after := by
  cases disturbance with
  | create machine =>
    obtain ⟨may, changed⟩ := Option.ite_none_right_eq_some.mp disturbed
    cases changed
    simp only [Fleet.mayCreate, Bool.and_eq_true, Option.any_eq_true] at may
    obtain ⟨-, fresh, uid, unborn⟩ := may
    refine ⟨fun _ => List.mem_cons_of_mem _, ?_⟩
    intro title written key current same born
    by_cases here : title = machine.metadata.name
    · subst here
      have new : some machine = some written := Fleet.current_write_self.symm.trans current
      rw [← Option.some.inj new, uid] at same
      cases same
      simp [born] at unborn
    · exact ⟨written, (Fleet.current_write_other here).symm.trans current, same, rfl, fun _ _ => id⟩
  | delete name now =>
    obtain ⟨machine, found, rfl⟩ := Option.map_eq_some_iff.mp disturbed
    refine persists_write found (fun later new => ?_) sound
    rw [HostMachine.settle_eq_some new]
    rfl
  | edit machine =>
    obtain ⟨before, found, changed⟩ := Option.bind_eq_some_iff.mp disturbed
    obtain ⟨may, changed⟩ := Option.ite_none_right_eq_some.mp changed
    cases changed
    refine persists_write found (fun later new => ?_) sound
    simp only [Fleet.mayEdit, Bool.and_eq_true, beq_iff_eq] at may
    rw [HostMachine.settle_eq_some new, may.1.1.1.2]
  | deliver name =>
    obtain ⟨track, delivered, rfl⟩ := Option.map_eq_some_iff.mp disturbed
    exact ⟨fun _ => id, fun found same _ =>
      ⟨_, Fleet.current_deliver delivered _ ▸ found, same, rfl, fun _ _ => id⟩⟩
  | restart =>
    cases disturbed
    exact ⟨fun _ => id, fun found same _ => ⟨_, found, same, rfl, fun _ _ => id⟩⟩

theorem persists_of_run {state last : (fleetMachine provider config).State}
    {events : List (fleetMachine provider config).Event} (run : Machine.Run (Faithful provider config) state events last)
    (holds : Machine.Holds (Sound config) (Knows provider config) state) :
    Persists config state.service last.service := by
  induction run with
  | nil => exact .refl config _
  | @cons state event next _ _ permitted stepped _ ih =>
    have after := (uids_inductive provider config).step holds permitted stepped
    refine Persists.trans ?_ (ih after)
    rcases Machine.State.step_service stepped with same | ⟨task, choice, call, served⟩ | ⟨disturbance, disturbed⟩
    · exact same ▸ .refl config _
    · rw [served]
      exact persists_serve (served ▸ after.1)
    · exact persists_disturb after.1 disturbed

/-- In a run whose patches all reach the machine that was meant, two machines that the
provider holds never have the same uid recorded, every recorded uid is in the range, and
what is recorded stays. -/
theorem recorded_uids_lasting (provider : Provider) (config : HostConfig)
    (earlier later : List (fleetMachine provider config).Event) (middle last : (fleetMachine provider config).State)
    (first : Machine.Run (Faithful provider config) (Machine.State.idle ({} : Fleet)) earlier middle)
    (rest : Machine.Run (Faithful provider config) middle later last) :
    (∀ machine other uid, Fleet.Has last.service config machine → Fleet.Has last.service config other →
      machine.Held → other.Held → machine.hostUid = some uid → other.hostUid = some uid → machine = other) ∧
    (∀ machine uid, Fleet.Has last.service config machine → machine.hostUid = some uid →
      config.guests.contains uid = true) ∧
    (∀ machine changed uid, Fleet.Has middle.service config machine → Fleet.Has last.service config changed →
      changed.uid = machine.uid → machine.hostUid = some uid → changed.hostUid = some uid) := by
  have holds := (uids_inductive provider config).run first (Machine.holds_idle (sound_empty config))
  have sound := ((uids_inductive provider config).run rest holds).1
  refine ⟨?_, ?_, ?_⟩
  · intro machine other uid has has' held held' recorded recorded'
    exact sound.has_unique has has' (sound.distinct has has' held held' recorded recorded')
  · intro machine uid has recorded
    exact (sound.recorded has recorded).1
  · intro machine changed uid has has' same recorded
    obtain ⟨-, key, born, identified⟩ := holds.1.named (Fleet.mem_versions_of_current has.1)
    obtain ⟨before, found, same', ours, kept⟩ :=
      (persists_of_run rest holds).kept has'.1 (same.trans identified) born
    have has'' := holds.1.has found (ours.symm.trans has'.2)
    have equal := holds.1.has_unique has has'' (identified.trans same'.symm)
    exact kept has''.2 uid (equal ▸ recorded)

end Runs

/-! ## A machine made again under the name of one that is gone -/

def namedMachine (name uid : String) : HostMachine where
  metadata := { name, namespaceName := some "default", uid := some uid }
  spec := sampleSpec
  status := none

abbrev sampleFleet : Machine ControlCall ControlReply := fleetMachine sampleProvider sampleConfig

def served (uid : String) (calls : Nat) : List sampleFleet.Event :=
  List.replicate calls (.serve ⟨uid, 0⟩ ({} : FleetChoice))

/-- A whole pass that records a uid, over the copy that is in the cache. -/
def recordingPass (name uid : String) : List sampleFleet.Event := .launch ⟨uid, 0⟩ name :: served uid 4

/-- The first machine is gone and the second one there, when the first one's copy is
worked on. -/
def replacedEarlier : List sampleFleet.Event :=
  [.disturb (.create (namedMachine "web" "u1")), .disturb (.deliver "web"), .disturb (.delete "web" default),
    .disturb (.create (namedMachine "web" "u2"))] ++ recordingPass "web" "u1"

def replacedLater : List sampleFleet.Event :=
  [.disturb (.deliver "web"), .disturb (.deliver "web")] ++ recordingPass "web" "u2"

def webHas (machine : String) (uid : Nat) (state : sampleFleet.State) : Bool :=
  (Fleet.current state.service "web").any fun web =>
    decide (web.metadata.name = "web" ∧ isOurs web sampleConfig = true ∧ web.uid = some machine ∧
      web.hostUid = some uid)

theorem has_of_webHas {machine : String} {uid : Nat} {state : sampleFleet.State} (seen : webHas machine uid state = true) :
    ∃ web, Fleet.Has state.service sampleConfig web ∧ web.uid = some machine ∧ web.hostUid = some uid := by
  obtain ⟨web, found, known⟩ := (Option.any_eq_true _ _).mp seen
  obtain ⟨title, ours, same, recorded⟩ := of_decide_eq_true known
  exact ⟨web, ⟨title ▸ found, ours⟩, same, recorded⟩

theorem recorded_uid_replaced :
    ∃ middle last : sampleFleet.State,
      Machine.Run (fun _ _ => True) (Machine.State.idle ({} : Fleet)) replacedEarlier middle ∧
      Machine.Run (fun _ _ => True) middle replacedLater last ∧
      ∃ machine changed, Fleet.Has middle.service sampleConfig machine ∧ Fleet.Has last.service sampleConfig changed ∧
        changed.uid = machine.uid ∧ machine.hostUid = some 1000 ∧ changed.hostUid = some 1001 := by
  have seen : ((Machine.State.idle ({} : Fleet) : sampleFleet.State).exec replacedEarlier).any (fun middle =>
      webHas "u2" 1000 middle && (middle.exec replacedLater).any (webHas "u2" 1001)) = true := by
    decide +kernel
  obtain ⟨middle, first, seen⟩ := (Option.any_eq_true _ _).mp seen
  obtain ⟨before, seen⟩ := Bool.and_eq_true_iff.mp seen
  obtain ⟨last, second, after⟩ := (Option.any_eq_true _ _).mp seen
  obtain ⟨machine, has, same, recorded⟩ := has_of_webHas before
  obtain ⟨changed, has', same', recorded'⟩ := has_of_webHas after
  exact ⟨middle, last, .of_exec first, .of_exec second, machine, changed, has, has', same'.trans same.symm,
    recorded, recorded'⟩

def plainEarlier : List sampleFleet.Event :=
  [.disturb (.create (namedMachine "web" "u1")), .disturb (.deliver "web")] ++ recordingPass "web" "u1"

def plainLater : List sampleFleet.Event :=
  [.disturb (.create (namedMachine "db" "u2")), .disturb (.deliver "db")] ++ recordingPass "db" "u2"

theorem recorded_uids_lasting_web :
    ∃ middle last : sampleFleet.State,
      Machine.Run (Faithful sampleProvider sampleConfig) (Machine.State.idle ({} : Fleet)) plainEarlier middle ∧
      Machine.Run (Faithful sampleProvider sampleConfig) middle plainLater last ∧
      (∃ machine, Fleet.Has middle.service sampleConfig machine ∧ machine.hostUid = some 1000) ∧
      ∀ machine changed uid, Fleet.Has middle.service sampleConfig machine →
        Fleet.Has last.service sampleConfig changed → changed.uid = machine.uid → machine.hostUid = some uid →
        changed.hostUid = some uid := by
  have seen : ((Machine.State.idle ({} : Fleet) : sampleFleet.State).execIf
      (Faithful sampleProvider sampleConfig) plainEarlier).any (fun middle =>
        webHas "u1" 1000 middle && (middle.execIf (Faithful sampleProvider sampleConfig) plainLater).isSome) = true := by
    decide +kernel
  obtain ⟨middle, first, seen⟩ := (Option.any_eq_true _ _).mp seen
  obtain ⟨before, seen⟩ := Bool.and_eq_true_iff.mp seen
  obtain ⟨last, second⟩ := Option.isSome_iff_exists.mp seen
  obtain ⟨machine, has, -, recorded⟩ := has_of_webHas before
  have early := Machine.Run.of_execIf first
  have late := Machine.Run.of_execIf second
  exact ⟨middle, last, early, late, ⟨machine, has, recorded⟩,
    (recorded_uids_lasting sampleProvider sampleConfig plainEarlier plainLater middle last early late).2.2⟩

end Banlieue.ProviderCloudHypervisor
