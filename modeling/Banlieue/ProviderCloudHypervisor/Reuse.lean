import Banlieue.Data.Numerals
import Banlieue.ProviderCloudHypervisor.Footprint
import Banlieue.ProviderCloudHypervisor.Recording

namespace Banlieue.ProviderCloudHypervisor

open Banlieue.Api Banlieue.Data Banlieue.Data.Program Banlieue.Infra Banlieue.Sdk

/-! # Names that are used again

Units, run and TPM directories and environment files are named by a guest's uid on the
host, which is given to another machine once it is free.
-/

/-! ## Numbers in names -/

/-- The digits after the at sign. -/
def instanceNumber (unit : String) : List Char :=
  ((unit.toList.dropWhile (· != '@')).drop 1).takeWhile Char.isDigit

theorem instanceNumber_instanceUnit {template : String} {uid : Nat} (plain : ∀ char ∈ template.toList, char != '@') :
    instanceNumber (instanceUnit template (toString uid)) = (toString uid).toList := by
  have digits : ∀ char ∈ Nat.toDigits 10 uid, char.isDigit = true :=
    toList_toString uid ▸ fun _ => isDigit_of_mem_toString
  simp only [instanceNumber, instanceUnit, String.toList_append, List.append_assoc]
  rw [List.dropWhile_append_of_pos plain]
  simp [List.takeWhile_append_of_pos digits]

theorem utf8ByteSize_ofList_le (text : List Char) : (String.ofList text).utf8ByteSize ≤ 4 * text.length := by
  induction text with
  | nil => simp
  | cons char rest ih =>
    have size := Char.utf8Size_le_four char
    have split : String.ofList (char :: rest) = String.singleton char ++ String.ofList rest := by simp
    rw [split, String.utf8ByteSize_append, List.length_cons, String.utf8ByteSize_singleton]
    omega

theorem requireUuid_ne_number {uid : String} (checked : requireUuid uid = .ok ()) (number : Nat) :
    uid ≠ toString number := by
  rintro rfl
  simp only [requireUuid] at checked
  split at checked
  · rename_i wellFormed
    obtain ⟨size, chars⟩ := Bool.and_eq_true_iff.mp wellFormed
    have long : 8 < (toString number).toList.length := by
      have bounded := utf8ByteSize_ofList_le (toString number).toList
      rw [String.ofList_toList, beq_iff_eq.mp size, uuidLen] at bounded
      omega
    -- the ninth character would have to be a dash
    have ninth := List.all_eq_true.mp chars ((toString number).toList[8], 8)
      (by rw [List.mk_mem_zipIdx_iff_getElem?]; exact List.getElem?_eq_getElem long)
    have digit := isDigit_of_mem_toString (List.getElem_mem long)
    simp only [uuidDashes, List.contains_eq_mem, List.mem_cons, true_or, decide_true, if_true, beq_iff_eq] at ninth
    rw [ninth] at digit
    contradiction
  · contradiction

/-! ## What belongs to a guest -/

def unitsOf (uid : Nat) : List String :=
  [vmmTemplate, swtpmTemplate, swtpmSetupTemplate].map (instanceUnit · (toString uid))

def directoriesOf (config : HostConfig) (uid : Nat) : List Path :=
  [config.paths.runRoot.join (toString uid), (config.paths.stateRoot.join tpmStateRoot).join (toString uid)]

def environmentOf (config : HostConfig) (uid : Nat) : Path :=
  (config.paths.stateRoot.join unitsEnvDir).join (swtpmSetupEnvFile (toString uid))

/-- The call stops a unit of the guest or removes one of its directories or its file. -/
def Destroys (config : HostConfig) (uid : Nat) : Call → Prop
  | .unit (.stop name) => name ∈ unitsOf uid
  | .file (.removeDirAll path) => path ∈ directoriesOf config uid
  | .file (.removeFile path) => path = environmentOf config uid
  | _ => False

theorem uid_of_unitsOf {uid other : Nat} {name : String} (first : name ∈ unitsOf uid) (second : name ∈ unitsOf other) :
    uid = other := by
  have number : ∀ {owner : Nat}, name ∈ unitsOf owner → instanceNumber name = (toString owner).toList := by
    intro owner member
    obtain ⟨template, known, rfl⟩ := List.mem_map.mp member
    refine instanceNumber_instanceUnit ?_
    simp only [List.mem_cons, List.not_mem_nil, or_false] at known
    rcases known with rfl | rfl | rfl <;> exact List.all_eq_true.mp (by decide)
  exact toString_inj.mp (String.toList_inj.mp ((number first).symm.trans (number second)))

section Plans

variable {uid machineName providerName : String} {spec : CloudHypervisorMachineSpec} {config : HostConfig}
  {hostUid other : Nat} {plan : MachinePlan} {storage : Path} {nics : List NicPlan} {acts : Acts} {call : Call}

theorem units_planOf :
    (planOf uid machineName providerName spec config hostUid storage nics).units ⊆ unitsOf hostUid := by
  cases enabled : spec.tpmEnabled <;> simp [MachinePlan.units, planOf, enabled, unitsOf, planTpm]

theorem tmpPath_join {directory : Path} {name : String} : tmpPath (directory.join name) = directory.join (name ++ ".tmp") := by
  simp [tmpPath, Path.withSuffix, Path.parent, Path.join]

theorem swtpmSetupEnvFile_inj {first second : Nat}
    (same : swtpmSetupEnvFile (toString first) = swtpmSetupEnvFile (toString second)) : first = second := by
  have chars := congrArg String.toList same
  simp only [swtpmSetupEnvFile, String.toList_append] at chars
  exact toString_inj.mp (String.toList_inj.mp (List.append_cancel_left (List.append_cancel_right chars)))

theorem uid_of_machineTrees (planned : Planned uid machineName providerName spec config hostUid plan storage nics)
    {path : Path} (tree : path ∈ machineTrees plan) (directory : path ∈ directoriesOf config other) :
    other = hostUid := by
  have numbered : ∃ parent : Path, path = parent.join (toString other) := by
    simp only [directoriesOf, List.mem_cons, List.not_mem_nil, or_false] at directory
    rcases directory with rfl | rfl
    · exact ⟨_, rfl⟩
    · exact ⟨_, rfl⟩
  obtain ⟨parent, rfl⟩ := numbered
  have unnamed := requireUuid_ne_number planned.uuid other
  rw [planned.plan] at tree
  cases enabled : spec.tpmEnabled <;>
    simp only [machineTrees, planOf, planTpm, enabled, if_true, if_false, Bool.false_eq_true, Option.elim,
      List.append_nil, List.cons_append, List.nil_append, List.mem_cons, List.not_mem_nil, or_false, Path.join_inj,
      toString_inj] at tree
  · rcases tree with ⟨-, same⟩ | ⟨-, same⟩
    · exact same
    · exact absurd same.symm unnamed
  · rcases tree with ⟨-, same⟩ | ⟨-, same⟩ | ⟨-, same⟩ | ⟨-, same⟩
    · exact same
    · exact absurd same.symm unnamed
    · exact same
    · exact absurd same.symm unnamed

theorem uid_of_removedFiles (planned : Planned uid machineName providerName spec config hostUid plan storage nics)
    (removed : environmentOf config other ∈ plan.removedFiles) : other = hostUid := by
  have unfinished : swtpmSetupEnvFile (toString other) ≠ swtpmSetupEnvFile (toString hostUid) ++ ".tmp" := by
    intro same
    have last := congrArg (fun text : String => text.toList.getLast?) same
    simp only [swtpmSetupEnvFile, String.toList_append, List.getLast?_append] at last
    exact absurd (Option.some.inj last) (by decide)
  have unmachined : unitsEnvDir ≠ uid := by
    rintro rfl
    exact absurd planned.uuid (by decide +kernel)
  have unnumbered : unitsEnvDir ≠ toString hostUid := by
    intro same
    have first : 'u' ∈ (toString hostUid).toList := by
      rw [← same]
      decide
    exact absurd (isDigit_of_mem_toString first) (by decide)
  rw [planned.plan] at removed
  cases enabled : spec.tpmEnabled <;>
    simp only [MachinePlan.removedFiles, MachinePlan.written, planOf, planTpm, environmentOf, enabled, if_true,
      if_false, Bool.false_eq_true, Option.elim, List.append_nil, List.cons_append, List.nil_append, List.map_cons,
      List.map_nil, List.mem_cons, List.not_mem_nil, or_false, tmpPath_join, Path.join_inj, unmachined, unnumbered,
      unfinished, and_false, false_and, false_or, true_and] at removed
  exact swtpmSetupEnvFile_inj removed

theorem uid_of_destroys (planned : Planned uid machineName providerName spec config hostUid plan storage nics)
    (may : May plan acts call) (destroys : Destroys config other call) : other = hostUid := by
  cases call with
  | unit call =>
    cases call with
    | stop name =>
      have named : name ∈ plan.units := may
      rw [planned.plan] at named
      exact uid_of_unitsOf destroys (units_planOf named)
    | _ => exact destroys.elim
  | file call =>
    cases call with
    | removeDirAll path => exact uid_of_machineTrees planned may destroys
    | removeFile path =>
      have same : path = environmentOf config other := destroys
      exact uid_of_removedFiles planned (same ▸ may)
    | _ => exact destroys.elim
  | _ => exact destroys.elim

end Plans

/-! ## What a pass destroys -/

/-- A pass destroys only what belongs to the guest that its copy records. -/
def Gentle (config : HostConfig) (copy : HostMachine) : ControlCall → Prop
  | .host call => ∀ uid, Destroys config uid call → isOurs copy config = true ∧ copy.hostUid = some uid
  | _ => True

theorem Asks.gentle {config : HostConfig} {copy : HostMachine} {call : ControlCall} (asks : Asks config copy call) :
    Gentle config copy call := by
  cases call with
  | host call =>
    intro uid destroys
    rcases asks with rfl | ⟨ours, key, hostUid, -, recorded, ⟨plan, acts, found, may⟩ | rfl⟩
    · exact destroys.elim
    · obtain ⟨storage, nics, planned⟩ := planned_of_planMachine found
      exact ⟨ours, recorded.trans (congrArg some (uid_of_destroys planned may destroys).symm)⟩
    · have own : instanceUnit vmmTemplate (toString hostUid) ∈ unitsOf hostUid := List.mem_cons_self
      exact ⟨ours, recorded.trans (congrArg some (uid_of_unitsOf destroys own).symm)⟩
  | _ => trivial

/-! ## Any number of passes -/

section Runs

variable {provider : Provider} {config : HostConfig} {fleet after : Fleet} {task : PassTask}
  {program : Program ControlCall ControlReply (Except Error Action)}

/-- A pass goes by a copy whose uid its machine, if it is there, still has recorded. -/
def Recalls (config : HostConfig) (task : PassTask) (program : Program ControlCall ControlReply (Except Error Action))
    (fleet : Fleet) : Prop :=
  ∃ copy, task.uid ∈ fleet.born ∧ Makes (Gentle config copy) program ∧
    ∀ {name machine}, fleet.current name = some machine → machine.uid = some task.uid →
      isOurs machine config = isOurs copy config ∧
        (isOurs copy config = true → ∀ uid, copy.hostUid = some uid → machine.hostUid = some uid)

theorem Recalls.persists (recalls : Recalls config task program fleet) (persists : Persists config fleet after) :
    Recalls config task program after := by
  obtain ⟨copy, born, gentle, known⟩ := recalls
  refine ⟨copy, persists.born born, gentle, fun found same => ?_⟩
  obtain ⟨earlier, found', same', ours, kept⟩ := persists.kept found same born
  obtain ⟨ours', kept'⟩ := known found' same'
  exact ⟨ours.trans ours', fun mine uid recorded => kept (ours'.trans mine) uid (kept' mine uid recorded)⟩

theorem recalls_inductive (provider : Provider) (config : HostConfig) :
    Machine.Inductive (fun state event => Faithful provider config state event ∧
        Machine.Holds (Sound config) (Knows provider config) state)
      (fun _ => True) (Recalls config) where
  launched := by
    intro state task name program _ allowed _ launched
    have sound : Sound config state.service := allowed.2.1
    obtain ⟨copy, cached, started⟩ := Option.bind_eq_some_iff.mp launched
    obtain ⟨⟨-, identified⟩, program_eq⟩ := Option.ite_none_right_eq_some.mp started
    cases program_eq
    have member : some copy ∈ (Fleet.tracks state.service name).versions := cached ▸ List.mem_cons_self
    obtain ⟨-, uid, born, same⟩ := sound.named member
    cases identified.symm.trans same
    refine ⟨copy, born, (asks_reconcile provider config copy).mono fun _ => Asks.gentle, fun found same' => ?_⟩
    cases sound.identity (Fleet.mem_versions_of_current found) member (same'.trans same.symm)
    have evolves := sound.evolves_current found member (same.trans same'.symm)
    exact ⟨evolves.ours, evolves.recorded⟩
  served := by
    intro state task choice call next holds allowed running
    obtain ⟨copy, born, gentle, known⟩ := holds.2 task _ running
    have sound := ((uids_inductive provider config).served allowed.2 allowed.1 running).1
    obtain ⟨_, _, rest⟩ := gentle.2 _ trivial
    exact ⟨trivial, Recalls.persists ⟨copy, born, rest, known⟩ (persists_serve sound)⟩
  undisturbed := by
    intro state task choice call next other program holds allowed running _ active
    have sound := ((uids_inductive provider config).served allowed.2 allowed.1 running).1
    exact (holds.2 other program active).persists (persists_serve sound)
  disturbed := by
    intro state disturbance service holds allowed disturbed
    have sound := (disturb_keeps allowed.2.1 disturbed).1
    exact ⟨trivial, fun task program active => (holds.2 task program active).persists (persists_disturb sound disturbed)⟩

def destructive : ControlCall → Bool
  | .host (.unit (.stop _)) | .host (.file (.removeDirAll _)) | .host (.file (.removeFile _)) => true
  | _ => false

theorem Destroys.destructive {uid : Nat} {call : Call} (destroys : Destroys config uid call) :
    destructive (.host call) = true := by
  cases call with
  | unit call =>
    cases call with
    | stop name => rfl
    | _ => exact destroys.elim
  | file call =>
    cases call with
    | removeDirAll path => rfl
    | removeFile path => rfl
    | _ => exact destroys.elim
  | _ => exact destroys.elim

variable (provider config) in
/-- Patches reach the machine that was meant, and what stops or removes something is done
while the pass's machine is there and held. -/
def Attentive (state : (fleetMachine provider config).State) (event : (fleetMachine provider config).Event) : Prop :=
  Faithful provider config state event ∧
    match event with
    | .serve task _ =>
      AtCall (fun call => PassTask.epoch task = Fleet.epoch state.service → destructive call = true →
        ∃ machine ∈ Fleet.machines state.service, machine.uid = some (PassTask.uid task) ∧ machine.Held)
        (state.running task)
    | _ => True

instance (state : (fleetMachine provider config).State) (event : (fleetMachine provider config).Event) :
    Decidable (Attentive provider config state event) :=
  match event with
  | .serve task choice =>
    inferInstanceAs (Decidable (Faithful provider config state (.serve task choice) ∧ AtCall _ _))
  | .launch task input => inferInstanceAs (Decidable (Faithful provider config state (.launch task input) ∧ True))
  | .crash task => inferInstanceAs (Decidable (Faithful provider config state (.crash task) ∧ True))
  | .disturb disturbance => inferInstanceAs (Decidable (Faithful provider config state (.disturb disturbance) ∧ True))

end Runs

/-- In a run whose steps are attentive, a pass stops and removes only what no other machine
that is held has at that moment. -/
theorem destroyed_is_own (provider : Provider) (config : HostConfig)
    (events : List (fleetMachine provider config).Event) (state : (fleetMachine provider config).State)
    (task : PassTask) (choice : FleetChoice) (call : Call)
    (next : Reply call → Program ControlCall ControlReply (Except Error Action)) (uid : Nat) (other : HostMachine)
    (run : Machine.Run (Attentive provider config) (Machine.State.idle ({} : Fleet)) events state)
    (attentive : Attentive provider config state (.serve task choice))
    (live : task.epoch = Fleet.epoch state.service)
    (waiting : state.running task = some (.await (.host call) next))
    (destroys : Destroys config uid call)
    (has : Fleet.Has state.service config other) (held : other.Held) (recorded : other.hostUid = some uid) :
    other.uid = some task.uid := by
  have faithful := run.mono fun _ _ => And.left
  have started : Machine.Holds (Sound config) (Knows provider config)
      (Machine.State.idle ({} : Fleet) : (fleetMachine provider config).State) :=
    Machine.holds_idle (sound_empty config)
  have holds := (uids_inductive provider config).run faithful started
  have within := (uids_inductive provider config).run_within faithful started
  obtain ⟨copy, -, gentle, known⟩ := ((recalls_inductive provider config).run within
    (Machine.holds_idle trivial)).2 task _ waiting
  obtain ⟨ours, copied⟩ := gentle.1 uid destroys
  have present := attentive.2
  simp only [waiting, AtCall] at present
  obtain ⟨machine, listed, same, held'⟩ := present live destroys.destructive
  obtain ⟨name, -, found⟩ := List.mem_filterMap.mp listed
  obtain ⟨ours', kept⟩ := known found same
  have has' := holds.1.has found (ours'.trans ours)
  exact (holds.1.distinct has has' held held' recorded (kept ours uid copied)).trans same

/-! ## A pass over a machine that is gone -/

/-- The host once all of a machine has been removed. -/
def goneReply : (call : Call) → Reply call
  | .unit (.state _) => .ok none
  | .file (.metadata _) => .error ⟨.notFound, "not found"⟩
  | .tap (.interfaceExists _) => false
  | call => smoothReply call

def otherUid : String := "fedcba98-7654-3210-fedc-ba9876543210"

/-- The machine has its uid recorded, is being deleted, and a pass over it has started. -/
def finalizing : List sampleFleet.Event :=
  [.disturb (.create (namedMachine "web" sampleUid)), .disturb (.deliver "web")] ++ recordingPass "web" sampleUid ++
    [.disturb (.delete "web" default), .disturb (.deliver "web"), .disturb (.deliver "web"), .disturb (.deliver "web"),
      .launch ⟨sampleUid, 0⟩ "web"]

/-- That pass is done, another one has started on the copy in the cache, and in the
meantime a second machine has got the uid. -/
def reusing : List sampleFleet.Event :=
  finalizing ++ List.replicate 24 (.serve ⟨sampleUid, 0⟩ ({ host := goneReply } : FleetChoice)) ++
    [.launch ⟨sampleUid, 0⟩ "web", .disturb (.deliver "web"), .disturb (.create (namedMachine "db" otherUid)),
      .disturb (.deliver "db")] ++ recordingPass "db" otherUid

/-- The pass over the first machine is about to stop the unit of the guest that `name` has. -/
def stopsUnitOf (name key : String) (uid : Nat) (state : sampleFleet.State) : Bool :=
  match state.running ⟨sampleUid, 0⟩ with
  | some (.await (.host (.unit (.stop unit))) _) =>
    decide (0 = Fleet.epoch state.service) && decide (unit ∈ unitsOf uid) &&
      (Fleet.current state.service name).any fun machine =>
        decide (machine.metadata.name = name ∧ isOurs machine sampleConfig = true ∧ machine.uid = some key ∧
          machine.Held ∧ machine.hostUid = some uid)
  | _ => false

theorem waiting_of_stopsUnitOf {name key : String} {uid : Nat} {state : sampleFleet.State}
    (stops : stopsUnitOf name key uid state = true) : 0 = Fleet.epoch state.service ∧
      (∃ call next, state.running ⟨sampleUid, 0⟩ = some (.await (.host call) next) ∧ Destroys sampleConfig uid call) ∧
      ∃ machine, Fleet.Has state.service sampleConfig machine ∧ machine.uid = some key ∧ machine.Held ∧
        machine.hostUid = some uid := by
  unfold stopsUnitOf at stops
  split at stops
  · rename_i unit next running
    simp only [Bool.and_eq_true, decide_eq_true_eq, Option.any_eq_true] at stops
    obtain ⟨⟨now, stopped⟩, machine, found, title, ours, same, held, recorded⟩ := stops
    exact ⟨now, ⟨_, next, running, stopped⟩, machine, ⟨title ▸ found, ours⟩, same, held, recorded⟩
  · contradiction

theorem unit_of_another_stopped :
    ∃ (state : sampleFleet.State) (task : PassTask) (call : Call)
        (next : Reply call → Program ControlCall ControlReply (Except Error Action)) (other : HostMachine) (uid : Nat),
      Machine.Run (fun _ _ => True) (Machine.State.idle ({} : Fleet)) reusing state ∧
      task.epoch = Fleet.epoch state.service ∧ state.running task = some (.await (.host call) next) ∧
      Destroys sampleConfig uid call ∧ Fleet.Has state.service sampleConfig other ∧ other.Held ∧
      other.hostUid = some uid ∧ other.uid ≠ some task.uid := by
  have seen : ((Machine.State.idle ({} : Fleet) : sampleFleet.State).exec reusing).any
      (stopsUnitOf "db" otherUid 1000) = true := by
    decide +kernel
  obtain ⟨state, executed, stops⟩ := (Option.any_eq_true _ _).mp seen
  obtain ⟨now, ⟨call, next, running, destroys⟩, other, has, same, held, recorded⟩ := waiting_of_stopsUnitOf stops
  refine ⟨state, ⟨sampleUid, 0⟩, call, next, other, 1000, .of_exec executed, now, running, destroys, has, held,
    recorded, ?_⟩
  rw [same]
  decide

theorem own_unit_stopped :
    ∃ (state : sampleFleet.State) (other : HostMachine),
      Machine.Run (Attentive sampleProvider sampleConfig) (Machine.State.idle ({} : Fleet)) finalizing state ∧
      Fleet.Has state.service sampleConfig other ∧ other.Held ∧ other.hostUid = some 1000 ∧
      other.uid = some sampleUid := by
  have seen : ((Machine.State.idle ({} : Fleet) : sampleFleet.State).execIf
      (Attentive sampleProvider sampleConfig) finalizing).any (fun state =>
        stopsUnitOf "web" sampleUid 1000 state &&
          decide (Attentive sampleProvider sampleConfig state (.serve ⟨sampleUid, 0⟩ ({} : FleetChoice)))) = true := by
    decide +kernel
  obtain ⟨state, executed, seen⟩ := (Option.any_eq_true _ _).mp seen
  obtain ⟨stops, attentive⟩ := Bool.and_eq_true_iff.mp seen
  obtain ⟨now, ⟨call, next, running, destroys⟩, other, has, -, held, recorded⟩ := waiting_of_stopsUnitOf stops
  have run := Machine.Run.of_execIf executed
  exact ⟨state, other, run, has, held, recorded,
    destroyed_is_own sampleProvider sampleConfig finalizing state ⟨sampleUid, 0⟩ {} call next 1000 other run
      (of_decide_eq_true attentive) now running destroys has held recorded⟩

end Banlieue.ProviderCloudHypervisor
