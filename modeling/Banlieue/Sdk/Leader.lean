import Mathlib.Logic.Function.Basic
import Banlieue.Api.Common
import Banlieue.Data.Machine

namespace Banlieue.Sdk

open Banlieue.Api
open Banlieue.Data

/-! # Leader election on a Lease

The candidates of one controller share one Lease: they read it, decide what to
do about it, and write it with a create or a forced server-side apply.
-/

structure Duration where
  nanoseconds : Nat
deriving DecidableEq, Inhabited

namespace Duration

def fromSecs (seconds : Nat) : Duration := ⟨seconds * 1000000000⟩

def asSecs (duration : Duration) : Nat := duration.nanoseconds / 1000000000

def isZero (duration : Duration) : Bool := duration.nanoseconds == 0

end Duration

inductive LeaderError where
  | missing (label : String)
  | kube (reason : KubeError)
  /-- Not an error of the source: its loops have no bound, and a run of the model
  that has used up its own is cut off here. -/
  | cutOff
deriving DecidableEq

structure LeaderConfig where
  identity : String
  leaseDuration : Duration
  renewPeriod : Duration
  retryPeriod : Duration
deriving DecidableEq

def LeaderConfig.validate (cfg : LeaderConfig) : Except LeaderError Unit :=
  if cfg.identity.isEmpty then .error (.missing "LeaderConfig.identity")
  else if cfg.leaseDuration.isZero then .error (.missing "LeaderConfig.lease_duration")
  else if cfg.renewPeriod.isZero then .error (.missing "LeaderConfig.renew_period")
  else if cfg.retryPeriod.isZero then .error (.missing "LeaderConfig.retry_period")
  else if cfg.leaseDuration.nanoseconds ≤ cfg.renewPeriod.nanoseconds then
    .error (.missing "LeaderConfig.renew_period must be < lease_duration")
  else .ok ()

def defaultLeaseDurationSecs : Nat := 15

def leaseSpecDurationFieldSecs : Int := defaultLeaseDurationSecs

structure LeaseSpec where
  acquireTime : Option Timestamp := none
  renewTime : Option Timestamp := none
  holderIdentity : Option String := none
  leaseDurationSeconds : Option Int := none
  leaseTransitions : Option Int := none
deriving DecidableEq

structure Lease where
  spec : Option LeaseSpec
deriving DecidableEq

inductive LeaseAction where
  | acquireNew
  | renew
  | wait
  | takeOver
deriving DecidableEq

/-- The last second of a lease renewed at `renewTime`, in 64-bit arithmetic. -/
def expirySecs (renewTime : Timestamp) (cfg : LeaderConfig) : Int :=
  (renewTime.asSecond + (cfg.leaseDuration.asSecs : Int).bmod (2 ^ 64)).bmod (2 ^ 64)

def decideAction (now : Timestamp) (lease : Option Lease) (cfg : LeaderConfig) : LeaseAction :=
  match lease.bind Lease.spec with
  | none => .acquireNew
  | some spec =>
    let holder := spec.holderIdentity.getD ""
    if holder.isEmpty then .acquireNew
    else if holder = cfg.identity then .renew
    else
      match spec.renewTime with
      | none => .takeOver
      | some renewTime => if now.asSecond ≤ expirySecs renewTime cfg then .wait else .takeOver

/-! ## The Lease on the API server -/

/-- A field of the Lease and who has a claim on it: the manager that created the
object, and the manager all candidates apply under. -/
structure Managed (α : Type) where
  value : Option α := none
  creator : Bool := false
  applier : Bool := false
deriving DecidableEq

namespace Managed

def created {α : Type} (value : Option α) : Managed α := ⟨value, value.isSome, false⟩

/-- Forced apply: a supplied value is taken over from whoever set another one; a
field that is no longer supplied goes away with its last manager. -/
def apply {α : Type} [DecidableEq α] (field : Managed α) : Option α → Managed α
  | some value => ⟨some value, field.creator && field.value == some value, true⟩
  | none => if field.applier && !field.creator then {} else { field with applier := false }

@[simp] theorem apply_some_value {α : Type} [DecidableEq α] (field : Managed α) (value : α) :
    (field.apply (some value)).value = some value := rfl

end Managed

structure StoredLease where
  acquireTime : Managed Timestamp := {}
  renewTime : Managed Timestamp := {}
  holderIdentity : Managed String := {}
  leaseDurationSeconds : Managed Int := {}
  leaseTransitions : Managed Int := {}
deriving DecidableEq

namespace StoredLease

def created (spec : LeaseSpec) : StoredLease where
  acquireTime := .created spec.acquireTime
  renewTime := .created spec.renewTime
  holderIdentity := .created spec.holderIdentity
  leaseDurationSeconds := .created spec.leaseDurationSeconds
  leaseTransitions := .created spec.leaseTransitions

def apply (lease : StoredLease) (spec : LeaseSpec) : StoredLease where
  acquireTime := lease.acquireTime.apply spec.acquireTime
  renewTime := lease.renewTime.apply spec.renewTime
  holderIdentity := lease.holderIdentity.apply spec.holderIdentity
  leaseDurationSeconds := lease.leaseDurationSeconds.apply spec.leaseDurationSeconds
  leaseTransitions := lease.leaseTransitions.apply spec.leaseTransitions

/-- What a reader of the Lease gets. -/
def view (lease : StoredLease) : Lease where
  spec := some {
    acquireTime := lease.acquireTime.value
    renewTime := lease.renewTime.value
    holderIdentity := lease.holderIdentity.value
    leaseDurationSeconds := lease.leaseDurationSeconds.value
    leaseTransitions := lease.leaseTransitions.value }

end StoredLease

/-! ## The candidate -/

namespace Leader

inductive Call where
  | now
  | sleep (period : Duration)
  | getLease
  | createLease (spec : LeaseSpec)
  | applyLease (spec : LeaseSpec)
  /-- A process that has just started is a standby. -/
  | candidateStarted
  | becameLeader
  | lostLeadership

abbrev Reply : Call → Type
  | .now => Timestamp
  | .getLease => Except KubeError (Option Lease)
  | .createLease _ | .applyLease _ => Except KubeError Unit
  | .sleep _ | .candidateStarted | .becameLeader | .lostLeadership => Unit

abbrev Task := ExceptT LeaderError (Program Call Reply)

def tell (call : Call) : Task (Reply call) :=
  ExceptT.lift (.request call)

def askKube {α : Type} (call : Call) (reply : Reply call → Except KubeError α) : Task α :=
  ExceptT.mk do
    let answer ← Program.request call
    return (reply answer).mapError .kube

def timestampNow : Task Timestamp := tell .now

def fetchLease : Task (Option Lease) := askKube .getLease id

def createOwnedLease (cfg : LeaderConfig) : Task Unit := do
  let now ← timestampNow
  let lease : LeaseSpec := {
    acquireTime := some now
    renewTime := some now
    holderIdentity := some cfg.identity
    leaseDurationSeconds := some leaseSpecDurationFieldSecs
    leaseTransitions := some 1 }
  askKube (.createLease lease) id

def patchTakeOver (cfg : LeaderConfig) (current : Option Lease) : Task Unit := do
  let now ← timestampNow
  let prevTransitions := ((current.bind Lease.spec).bind LeaseSpec.leaseTransitions).getD 0
  let patch : LeaseSpec := {
    acquireTime := some now
    renewTime := some now
    holderIdentity := some cfg.identity
    leaseDurationSeconds := some leaseSpecDurationFieldSecs
    leaseTransitions := some (prevTransitions + 1) }
  askKube (.applyLease patch) id

def renewOnce (cfg : LeaderConfig) : Task Unit := do
  let now ← timestampNow
  let patch : LeaseSpec := {
    renewTime := some now
    holderIdentity := some cfg.identity
    leaseDurationSeconds := some leaseSpecDurationFieldSecs }
  askKube (.applyLease patch) id

/-- What `acquire_or_wait` does about one decision; `true` when the lease is held. -/
def act (cfg : LeaderConfig) (current : Option Lease) : LeaseAction → Task Bool
  | .acquireNew => do
    if current.isNone then createOwnedLease cfg else patchTakeOver cfg current
    let _ ← tell .becameLeader
    return true
  | .renew => do
    renewOnce cfg
    let _ ← tell .becameLeader
    return true
  | .takeOver => do
    patchTakeOver cfg current
    let _ ← tell .becameLeader
    return true
  | .wait => do
    let _ ← tell (.sleep cfg.retryPeriod)
    return false

/-- The loop of `acquire_or_wait`, for at most `rounds` reads of the Lease. -/
def acquireRounds (cfg : LeaderConfig) : (rounds : Nat) → Task Unit
  | 0 => throw .cutOff
  | rounds + 1 => do
    match ← ExceptT.lift fetchLease.run with
    | .error _ =>
      let _ ← tell (.sleep cfg.retryPeriod)
      acquireRounds cfg rounds
    | .ok current =>
      let now ← timestampNow
      if ← act cfg current (decideAction now current cfg) then return ()
      else acquireRounds cfg rounds

def acquireOrWait (cfg : LeaderConfig) (rounds : Nat) : Task Unit := do
  ExceptT.mk (pure cfg.validate)
  let _ ← tell .candidateStarted
  acquireRounds cfg rounds

/-- `renew_forever`, for at most `rounds` renewals. -/
def renewForever (cfg : LeaderConfig) : (rounds : Nat) → Task Unit
  | 0 => throw .cutOff
  | rounds + 1 => do
    let _ ← tell (.sleep cfg.renewPeriod)
    match ← ExceptT.lift (renewOnce cfg).run with
    | .ok () => renewForever cfg rounds
    | .error (.kube _) =>
      let current ← fetchLease
      let now ← timestampNow
      if decideAction now current cfg ≠ .renew then
        let _ ← tell .lostLeadership
        throw (.missing "leader lease lost")
      else renewForever cfg rounds
    | .error other => throw other

/-- A process: it waits for the lease and then renews it; an error ends it. -/
def candidate (cfg : LeaderConfig) (rounds : Nat) : Task Unit := do
  acquireOrWait cfg rounds
  renewForever cfg rounds

/-! ## Candidates around one Lease -/

/-- The API server's Lease and clock; `isLeader` is every process's own opinion,
and `written` the renewal time in the Lease each candidate last wrote. -/
structure Cluster where
  now : Timestamp
  lease : Option StoredLease
  isLeader : Nat → Bool
  written : Nat → Option Timestamp

namespace Cluster

def leaseView (cluster : Cluster) : Option Lease :=
  cluster.lease.map StoredLease.view

def store (cluster : Cluster) (writer : Nat) (lease : StoredLease) : Cluster :=
  { cluster with
    lease := some lease
    written := Function.update cluster.written writer lease.renewTime.value }

def setLeader (cluster : Cluster) (process : Nat) (leads : Bool) : Cluster :=
  { cluster with isLeader := Function.update cluster.isLeader process leads }

def create (cluster : Cluster) (process : Nat) (spec : LeaseSpec) :
    Except KubeError Unit × Cluster :=
  match cluster.lease with
  | some _ => (.error .conflict, cluster)
  | none => (.ok (), cluster.store process (.created spec))

def apply (cluster : Cluster) (process : Nat) (spec : LeaseSpec) :
    Except KubeError Unit × Cluster :=
  (.ok (), cluster.store process ((cluster.lease.getD {}).apply spec))

def serve (cluster : Cluster) (process : Nat) (delivery : Delivery) :
    (call : Call) → Reply call × Cluster
  | .now => (cluster.now, cluster)
  | .sleep _ => ((), cluster)
  | .getLease => delivery.outcome cluster (.error .transport) (.ok cluster.leaseView, cluster)
  | .createLease spec => delivery.outcome cluster (.error .transport) (cluster.create process spec)
  | .applyLease spec => delivery.outcome cluster (.error .transport) (cluster.apply process spec)
  | .candidateStarted => ((), cluster.setLeader process false)
  | .becameLeader => ((), cluster.setLeader process true)
  | .lostLeadership => ((), cluster.setLeader process false)

/-- The one clock of all candidates only moves forward. -/
def tick (cluster : Cluster) (time : Timestamp) : Option Cluster :=
  if cluster.now ≤ time then some { cluster with now := time } else none

end Cluster

/-- Processes are numbered; `cfg` gives each its configuration.  The input of a
launch bounds the rounds of its loops. -/
def election (cfg : Nat → LeaderConfig) : Machine Call Reply where
  Service := Cluster
  Task := Nat
  taskEq := inferInstance
  Input := Nat
  Choice := Delivery
  Disturbance := Timestamp
  Result := Except LeaderError Unit
  launch _ process rounds := some (candidate (cfg process) rounds)
  serve := Cluster.serve
  disturb := Cluster.tick

/-! ## What a candidate writes -/

/-- A spec that makes the candidate the holder. -/
@[mk_iff signed_iff]
structure Signed (cfg : LeaderConfig) (spec : LeaseSpec) : Prop where
  named : cfg.identity ≠ ""
  holder : spec.holderIdentity = some cfg.identity

def Call.SignedBy (cfg : LeaderConfig) : Call → Prop
  | .createLease spec | .applyLease spec => Signed cfg spec
  | _ => True

section Writes

open Program (Heeds permitting)

variable {cfg : LeaderConfig}

@[simp]
abbrev signing (cfg : LeaderConfig) : Rules Unit Call Reply := permitting (Call.SignedBy cfg)

attribute [local simp] tell askKube timestampNow fetchLease Call.SignedBy

variable (named : cfg.identity ≠ "")

include named

theorem heeds_patchTakeOver (current : Option Lease) : Heeds (signing cfg) (patchTakeOver cfg current) := by
  simp [patchTakeOver, signed_iff, named]

theorem heeds_renewOnce : Heeds (signing cfg) (renewOnce cfg) := by
  simp [renewOnce, signed_iff, named]

theorem heeds_act (current : Option Lease) (action : LeaseAction) : Heeds (signing cfg) (act cfg current action) := by
  have taken := heeds_patchTakeOver named current
  have renewed := heeds_renewOnce named
  cases action with
  | acquireNew => simp_all [act, createOwnedLease, signed_iff]
  | renew | takeOver | wait => simp_all [act]

theorem heeds_acquireRounds (rounds : Nat) : Heeds (signing cfg) (acquireRounds cfg rounds) := by
  induction rounds with
  | zero => rfl
  | succ rounds ih => simp_all [acquireRounds, Except.mapError, heeds_act named]

theorem heeds_renewForever (rounds : Nat) : Heeds (signing cfg) (renewForever cfg rounds) := by
  induction rounds with
  | zero => rfl
  | succ rounds ih =>
    simp_all [renewForever, renewOnce, signed_iff, Except.mapError]

omit named

theorem validate_named (valid : cfg.validate = .ok ()) : cfg.identity ≠ "" := by
  intro empty
  simp [LeaderConfig.validate, empty] at valid

theorem candidate_signed (cfg : LeaderConfig) (rounds : Nat) :
    (candidate cfg rounds).run.Makes (Call.SignedBy cfg) := by
  refine Heeds.makes ?_
  cases valid : cfg.validate with
  | error reason => simp [candidate, acquireOrWait, valid]
  | ok _ =>
    have acquires := heeds_acquireRounds (validate_named valid) rounds
    have renews := heeds_renewForever (validate_named valid) rounds
    simp_all [candidate, acquireOrWait]

end Writes

/-! ## At most one leader with an unexpired Lease -/

namespace Cluster

/-- The Lease the candidate last wrote has not expired. -/
def Unexpired (cfg : Nat → LeaderConfig) (cluster : Cluster) (process : Nat) : Prop :=
  ∃ time, cluster.written process = some time ∧
    cluster.now.asSecond ≤ expirySecs time (cfg process)

/-- The Lease is as the candidate last wrote it. -/
def Held (cfg : Nat → LeaderConfig) (cluster : Cluster) (process : Nat) : Prop :=
  (cfg process).identity ≠ "" ∧
    ∃ lease, cluster.lease = some lease ∧
      lease.holderIdentity.value = some (cfg process).identity ∧
      lease.renewTime.value = cluster.written process

/-- Only what stands in the Lease can be unexpired. -/
def Exclusive (cfg : Nat → LeaderConfig) (cluster : Cluster) : Prop :=
  ∀ process, cluster.Unexpired cfg process → cluster.Held cfg process

end Cluster

/-- The process runs, took the lease and has not given it up. -/
def Leads {cfg : Nat → LeaderConfig} (state : (election cfg).State) (process : Nat) : Prop :=
  (state.running process).isSome ∧ Cluster.isLeader state.service process = true

/-- A forced apply arrives only while the candidate would not have to wait for
the Lease as it then is. -/
def Cluster.Undisputed (cfg : Nat → LeaderConfig) (cluster : Cluster) (process : Nat)
    (delivery : Delivery) : Call → Prop
  | .applyLease _ =>
    delivery ≠ .dropped → decideAction cluster.now cluster.leaseView (cfg process) ≠ .wait
  | _ => True

def Undisputed (cfg : Nat → LeaderConfig) (state : (election cfg).State) :
    (election cfg).Event → Prop
  | .serve process delivery =>
    Program.AtCall (Cluster.Undisputed cfg state.service process delivery)
      (state.running process)
  | _ => True

section Exclusion

variable {cfg : Nat → LeaderConfig} {cluster : Cluster} {process other : Nat}

theorem decideAction_eq_wait (apart : (cfg other).identity ≠ (cfg process).identity)
    (sameDuration : (cfg other).leaseDuration = (cfg process).leaseDuration)
    (held : cluster.Held cfg other) (unexpired : cluster.Unexpired cfg other) :
    decideAction cluster.now cluster.leaseView (cfg process) = .wait := by
  obtain ⟨named, lease, stored, holder, renewed⟩ := held
  obtain ⟨time, written, alive⟩ := unexpired
  have expiry : expirySecs time (cfg process) = expirySecs time (cfg other) := by
    simp only [expirySecs, sameDuration]
  simp [decideAction, Cluster.leaseView, StoredLease.view, stored, holder, renewed, written,
    named, apart, expiry, alive]

theorem Cluster.Exclusive.store {lease : StoredLease} (named : (cfg process).identity ≠ "")
    (holder : lease.holderIdentity.value = some (cfg process).identity)
    (free : ∀ other, other ≠ process → ¬ (cluster.Held cfg other ∧ cluster.Unexpired cfg other))
    (exclusive : cluster.Exclusive cfg) : (cluster.store process lease).Exclusive cfg := by
  intro writer unexpired
  by_cases own : writer = process
  · subst own
    exact ⟨named, lease, rfl, holder, by simp [Cluster.store]⟩
  · have before : cluster.Unexpired cfg writer := by
      simpa [Cluster.Unexpired, Cluster.store, Function.update_of_ne own] using unexpired
    exact absurd ⟨exclusive writer before, before⟩ (free writer own)

theorem Cluster.Exclusive.create {spec : LeaseSpec} (signed : Signed (cfg process) spec)
    (exclusive : cluster.Exclusive cfg) : (cluster.create process spec).2.Exclusive cfg := by
  cases present : cluster.lease with
  | some lease => simpa only [Cluster.create, present] using exclusive
  | none =>
    simp only [Cluster.create, present]
    refine exclusive.store signed.named signed.holder ?_
    rintro other - ⟨⟨-, lease, stored, -⟩, -⟩
    simp [present] at stored

theorem Cluster.Exclusive.apply {spec : LeaseSpec} (signed : Signed (cfg process) spec)
    (distinct : ∀ other, other ≠ process → (cfg other).identity ≠ (cfg process).identity)
    (sameDuration : ∀ other, (cfg other).leaseDuration = (cfg process).leaseDuration)
    (undisputed : decideAction cluster.now cluster.leaseView (cfg process) ≠ .wait)
    (exclusive : cluster.Exclusive cfg) : (cluster.apply process spec).2.Exclusive cfg := by
  refine exclusive.store signed.named ?_ ?_
  · simp [StoredLease.apply, signed.holder]
  · rintro other different ⟨held, unexpired⟩
    exact undisputed (decideAction_eq_wait (distinct other different) (sameDuration other) held unexpired)

theorem Cluster.Exclusive.tick {after : Cluster} {time : Timestamp}
    (ticked : cluster.tick time = some after) (exclusive : cluster.Exclusive cfg) : after.Exclusive cfg := by
  simp only [Cluster.tick, Option.ite_none_right_eq_some, Option.some.injEq] at ticked
  obtain ⟨forward, rfl⟩ := ticked
  rintro writer ⟨written, found, alive⟩
  have earlier : cluster.now.asSecond ≤ time.asSecond := Int.tdiv_le_tdiv (by decide) forward
  exact exclusive writer ⟨written, found, earlier.trans alive⟩

theorem Cluster.Exclusive.unique
    (distinct : ∀ first second, first ≠ second → (cfg first).identity ≠ (cfg second).identity)
    (exclusive : cluster.Exclusive cfg) (first : cluster.Unexpired cfg process)
    (second : cluster.Unexpired cfg other) : process = other := by
  obtain ⟨-, lease, stored, holder, -⟩ := exclusive process first
  obtain ⟨-, lease', stored', holder', -⟩ := exclusive other second
  by_contra different
  apply distinct process other different
  simp_all

/-- A running process still has only signed writes to make. -/
def KeepsSigning (process : (election cfg).Task)
    (program : Program Call Reply (election cfg).Result) (_ : (election cfg).Service) : Prop :=
  program.Makes (Call.SignedBy (cfg process))

theorem election_inductive
    (distinct : ∀ first second, first ≠ second → (cfg first).identity ≠ (cfg second).identity)
    (sameDuration : ∀ first second, (cfg first).leaseDuration = (cfg second).leaseDuration) :
    Machine.Inductive (Undisputed cfg) (Cluster.Exclusive cfg) KeepsSigning where
  launched := by
    intro state process rounds program _ _ _ launched
    cases launched
    exact candidate_signed (cfg process) rounds
  served := by
    intro state process delivery call next ⟨exclusive, signing⟩ permitted active
    obtain ⟨signed, rest⟩ := signing process _ active
    refine ⟨?_, (rest _ trivial).choose_spec.2⟩
    simp only [Undisputed, active, Program.AtCall] at permitted
    cases call with
    | now | sleep | candidateStarted | becameLeader | lostLeadership => exact exclusive
    | getLease => exact Delivery.outcome_state exclusive fun _ => exclusive
    | createLease spec => exact Delivery.outcome_state exclusive fun _ => exclusive.create signed
    | applyLease spec =>
      refine Delivery.outcome_state exclusive fun arrived => exclusive.apply signed ?_ ?_ ?_
      · exact fun other different => distinct other process different
      · exact fun other => sameDuration other process
      · exact permitted arrived
  undisturbed := by
    intro state process delivery call next other program holds _ _ _ active
    exact holds.2 other program active
  disturbed := by
    intro state time service holds _ ticked
    exact ⟨Cluster.Exclusive.tick ticked holds.1, holds.2⟩

/-- The Lease and the clock as the candidates find them: nobody leads, and none
of them has written the Lease. -/
def Cluster.initial (now : Timestamp) (lease : Option StoredLease) : Cluster :=
  ⟨now, lease, fun _ => false, fun _ => none⟩

/-- Whatever the candidates' interleaving, two of them never lead at once under
Leases that are unexpired, as long as no forced apply arrives over a Lease its
sender would have to wait for. -/
theorem leaders_exclusive (cfg : Nat → LeaderConfig)
    (distinct : ∀ first second, first ≠ second → (cfg first).identity ≠ (cfg second).identity)
    (sameDuration : ∀ first second, (cfg first).leaseDuration = (cfg second).leaseDuration)
    (now : Timestamp) (lease : Option StoredLease) (events : List (election cfg).Event)
    (last : (election cfg).State)
    (run : Machine.Run (Undisputed cfg) (Machine.State.idle (Cluster.initial now lease)) events last)
    (first second : Nat) (different : first ≠ second) :
    ¬ ((Leads last first ∧ Cluster.Unexpired cfg last.service first) ∧
      (Leads last second ∧ Cluster.Unexpired cfg last.service second)) := by
  rintro ⟨⟨-, firstAlive⟩, -, secondAlive⟩
  have start : Cluster.Exclusive cfg (Cluster.initial now lease) := by
    rintro process ⟨time, written, -⟩
    simp [Cluster.initial] at written
  have exclusive := ((election_inductive distinct sameDuration).run run
    (Machine.holds_idle start)).1
  exact different (exclusive.unique distinct firstAlive secondAlive)

end Exclusion

instance Cluster.Undisputed.decidable (cfg : Nat → LeaderConfig) (cluster : Cluster)
    (process : Nat) (delivery : Delivery) :
    DecidablePred (cluster.Undisputed cfg process delivery)
  | .applyLease _ => inferInstanceAs (Decidable (_ → _))
  | .now | .sleep _ | .getLease | .createLease _ | .candidateStarted | .becameLeader
  | .lostLeadership => .isTrue trivial

instance Undisputed.decidable (cfg : Nat → LeaderConfig) (state : (election cfg).State) :
    (event : (election cfg).Event) → Decidable (Undisputed cfg state event)
  | .serve process delivery =>
    @Program.AtCall.decidable _ _ _ _
      (Cluster.Undisputed.decidable cfg state.service process delivery) (state.running process)
  | .launch _ _ | .crash _ | .disturb _ => .isTrue trivial

/-- Replicas of one deployment, each under a name of its own. -/
def replicas (process : Nat) : LeaderConfig where
  identity := String.ofList (List.replicate (process + 1) 'r')
  leaseDuration := .fromSecs 15
  renewPeriod := .fromSecs 5
  retryPeriod := .fromSecs 2

/-- A Lease whose holder stopped renewing it a hundred seconds ago. -/
def abandoned : Cluster :=
  .initial ⟨100000000000⟩ (some (.created
    { renewTime := some ⟨0⟩, holderIdentity := some "gone", leaseTransitions := some 1 }))

def answered (process : Nat) (calls : Nat) : List (election replicas).Event :=
  List.replicate calls (.serve process Delivery.answered)

/-- Both replicas read the abandoned Lease before either has taken it over. -/
def readTogether : List (election replicas).Event :=
  [.launch (0 : Nat) (1 : Nat)] ++ answered 0 3 ++ [.launch (1 : Nat) (1 : Nat)] ++ answered 1 3 ++
    answered 0 3 ++ answered 1 3

/-- The second replica reads the Lease after the first has taken it over. -/
def readInTurn : List (election replicas).Event :=
  [.launch (0 : Nat) (1 : Nat)] ++ answered 0 6 ++ [.launch (1 : Nat) (2 : Nat)] ++ answered 1 4

theorem both_replicas_lead :
    ∃ last, Machine.Run (fun _ _ => True) (Machine.State.idle abandoned) readTogether last ∧
      (Leads last 0 ∧ Cluster.Unexpired replicas last.service 0) ∧
      (Leads last 1 ∧ Cluster.Unexpired replicas last.service 1) := by
  refine ⟨_, Machine.Run.of_exec rfl, ⟨⟨rfl, rfl⟩, ?_⟩, ⟨rfl, rfl⟩, ?_⟩
  · exact ⟨_, rfl, by decide⟩
  · exact ⟨_, rfl, by decide⟩

theorem replicas_distinct (first second : Nat) (different : first ≠ second) :
    (replicas first).identity ≠ (replicas second).identity := by
  intro same
  have sameList := String.ofList_injective same
  have sameLength := congrArg List.length sameList
  simp only [List.length_replicate] at sameLength
  omega

theorem leaders_exclusive_in_turn :
    ∃ last, Machine.Run (Undisputed replicas) (Machine.State.idle abandoned) readInTurn last ∧
      (Leads last 0 ∧ Cluster.Unexpired replicas last.service 0) ∧
      ¬ ((Leads last 0 ∧ Cluster.Unexpired replicas last.service 0) ∧
        (Leads last 1 ∧ Cluster.Unexpired replicas last.service 1)) := by
  obtain ⟨last, executed, leads⟩ :
      ∃ last, Machine.State.execIf (Undisputed replicas) (Machine.State.idle abandoned)
          readInTurn = some last ∧
        Leads last 0 ∧ Cluster.Unexpired replicas last.service 0 :=
    ⟨_, rfl, ⟨rfl, rfl⟩, _, rfl, by decide⟩
  have run := Machine.Run.of_execIf executed
  exact ⟨last, run, leads,
    leaders_exclusive replicas replicas_distinct (fun _ _ => rfl) _ _ _ last run 0 1 (by decide)⟩

end Leader

end Banlieue.Sdk
