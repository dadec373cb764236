import Mathlib.Data.List.Sort
import Mathlib.Algebra.Group.Nat.Defs

namespace Banlieue.Pool

/-! # The pool planner -/

inductive MemberPhase where
  | provisioning | ready | claimed | deleting
deriving DecidableEq

structure Ipv4Addr where
  bits : UInt32
deriving DecidableEq

structure MemberView where
  name : String
  phase : MemberPhase
  ageSecs : Nat
  readyForSecs : Nat
  imageRevision : String
  address : Option Ipv4Addr
deriving DecidableEq

/-- Both ends belong to the range. -/
structure AddressRange where
  start : Ipv4Addr
  finish : Ipv4Addr
deriving DecidableEq

structure PoolInputs where
  warmReplicas : Nat
  maxReplicas : Nat
  maxSurge : Nat
  provisioningTimeoutSecs : Nat
  maxIdleSecs : Option Nat
  recycleOnImageChange : Bool
  currentImageRevision : String
  addressRanges : List AddressRange
deriving DecidableEq

inductive DeleteReason where
  | provisioningTimeout | staleImage | idleExpired | scaleDown
deriving DecidableEq

structure NewMember where
  address : Option Ipv4Addr
deriving DecidableEq

structure PoolPlan where
  create : List NewMember := []
  delete : List (String × DeleteReason) := []
  blockedOnAddresses : Nat := 0
  blockedOnCapacity : Nat := 0
deriving DecidableEq

def count (members : List MemberView) (phase : MemberPhase) : Nat :=
  (members.filter (·.phase == phase)).length

/-! ## Passes 1 and 2: provisioners, and fresh and stale members -/

def timedOut (inputs : PoolInputs) (member : MemberView) : Bool :=
  inputs.provisioningTimeoutSecs < member.ageSecs

def provisioners (members : List MemberView) : List MemberView :=
  members.filter (·.phase == .provisioning)

/-- Why a Ready member is to be replaced, if it is. -/
def staleReason (inputs : PoolInputs) (member : MemberView) : Option DeleteReason :=
  if inputs.recycleOnImageChange && member.imageRevision != inputs.currentImageRevision then
    some .staleImage
  else if inputs.maxIdleSecs.any (· < member.readyForSecs) then some .idleExpired
  else none

/-- Oldest first, then by name. -/
def Older (first second : MemberView) : Prop :=
  second.ageSecs < first.ageSecs ∨ first.ageSecs = second.ageSecs ∧ first.name ≤ second.name

instance : DecidableRel Older :=
  fun first second => inferInstanceAs (Decidable (_ ∨ _ ∧ first.name ≤ second.name))

def freshReady (inputs : PoolInputs) (members : List MemberView) : List MemberView :=
  (members.filter fun member =>
    member.phase == .ready && (staleReason inputs member).isNone).insertionSort Older

def staleReady (inputs : PoolInputs) (members : List MemberView) :
    List (MemberView × DeleteReason) :=
  ((members.filter (·.phase == .ready)).filterMap fun member =>
    (staleReason inputs member).map (member, ·)).insertionSort fun first second =>
      Older first.1 second.1

/-! ## Pass 7: addresses -/

/-- The free addresses among the `remaining` ones from `next` on, at most `room`. -/
def drawRange (used : List UInt32) : (remaining room : Nat) → (next : UInt32) → List UInt32
  | 0, _, _ => []
  | _ + 1, 0, _ => []
  | remaining + 1, room + 1, next =>
    if used.contains next then drawRange used remaining (room + 1) (next + 1)
    else next :: drawRange used remaining room (next + 1)

def AddressRange.size (range : AddressRange) : Nat :=
  range.finish.bits.toNat + 1 - range.start.bits.toNat

/-- Draw from the ranges in turn; only the existing members' addresses are used. -/
def drawAddresses (used : List UInt32) : (room : Nat) → List AddressRange → List UInt32
  | _, [] => []
  | room, range :: ranges =>
    let drawn := drawRange used range.size room range.start.bits
    drawn ++ drawAddresses used (room - drawn.length) ranges

def usedAddresses (members : List MemberView) : List UInt32 :=
  members.filterMap fun member => member.address.map Ipv4Addr.bits

def AddressRange.addresses (range : AddressRange) : List UInt32 :=
  (List.range range.size).map fun offset => range.start.bits + .ofNat offset

theorem drawRange_eq (used : List UInt32) (remaining room : Nat) (next : UInt32) : drawRange used remaining room next =
      (((List.range remaining).map fun offset => next + .ofNat offset).filter (!used.contains ·)).take room := by
  induction remaining generalizing room next with
  | zero => simp [drawRange]
  | succ remaining ih =>
    cases room with
    | zero => simp [drawRange]
    | succ room =>
      have shifted : ∀ offset : Nat, next + UInt32.ofNat (offset + 1) = next + 1 + UInt32.ofNat offset := by
        intro offset
        rw [UInt32.ofNat_add, UInt32.add_comm (.ofNat offset), ← UInt32.add_assoc]
        rfl
      have first : next + UInt32.ofNat 0 = next := UInt32.add_zero next
      simp only [drawRange, ih, List.range_succ_eq_map, List.map_cons, List.map_map, Function.comp_def, shifted,
        List.filter_cons, first]
      cases used.contains next <;> rfl

theorem drawAddresses_eq (used : List UInt32) (room : Nat) (ranges : List AddressRange) :
    drawAddresses used room ranges = ((ranges.flatMap AddressRange.addresses).filter (!used.contains ·)).take room := by
  induction ranges generalizing room with
  | nil => simp [drawAddresses]
  | cons range ranges ih =>
    rw [drawAddresses, ih, drawRange_eq, List.flatMap_cons, List.filter_append, List.take_append, List.length_take,
      AddressRange.addresses]
    congr 2
    omega

/-! ## The plan -/

/-- How many members of each kind a plan deletes and creates. -/
structure Sizing where
  scaleDown : Nat
  replace : Nat
  trade : Nat
  create : Nat
  blockedOnCapacity : Nat
deriving DecidableEq

/-- Passes 3 to 6, from the numbers of claimed, provisioning, fresh and stale members. -/
def sizing (inputs : PoolInputs) (claimed provisioning fresh stale : Nat) : Sizing :=
  let freshKept := min fresh inputs.warmReplicas
  -- Pass 4: as many stale members are kept as the warm target still needs.
  let staleKept := min stale (inputs.warmReplicas - freshKept)
  -- Pass 5: stale members do not count towards the target.
  let wanted := inputs.warmReplicas - freshKept - provisioning
  let toCreate := min wanted (inputs.maxSurge - provisioning)
  let alive (staleKept : Nat) := claimed + provisioning + freshKept + staleKept
  -- Pass 6: without room to surge, kept stale members are traded for replacements.
  let lacking := toCreate - (inputs.maxReplicas - alive staleKept)
  let trade := min lacking staleKept
  let room := inputs.maxReplicas - alive (staleKept - trade)
  { scaleDown := fresh - inputs.warmReplicas
    replace := stale - staleKept
    trade := trade
    create := min toCreate room
    blockedOnCapacity := toCreate - room }

def deletion (entry : MemberView × DeleteReason) : String × DeleteReason :=
  (entry.1.name, entry.2)

def plan (inputs : PoolInputs) (members : List MemberView) : PoolPlan :=
  let poisoned := (provisioners members).filter (timedOut inputs)
  let provisioning := (provisioners members).filter (!timedOut inputs ·)
  let fresh := freshReady inputs members
  let stale := staleReady inputs members
  let size := sizing inputs (count members .claimed) provisioning.length fresh.length stale.length
  let drawn := drawAddresses (usedAddresses members) size.create inputs.addressRanges
  let stamped := !inputs.addressRanges.isEmpty
  { create :=
      if stamped then drawn.map fun bits => ⟨some ⟨bits⟩⟩ else List.replicate size.create ⟨none⟩
    delete :=
      poisoned.map (·.name, .provisioningTimeout) ++
        (fresh.take size.scaleDown).map (·.name, .scaleDown) ++
        (stale.take size.replace).map deletion ++
        ((stale.drop size.replace).take size.trade).map deletion
    blockedOnAddresses := if stamped then size.create - drawn.length else 0
    blockedOnCapacity := size.blockedOnCapacity }

/-! ## Whom a plan deletes -/

variable {inputs : PoolInputs} {members : List MemberView}
  {member : MemberView} {reason : DeleteReason} {claimed provisioning fresh stale : Nat}
  {warmReplicas : UInt32}

theorem mem_freshReady (fresh : member ∈ freshReady inputs members) : member ∈ members ∧ member.phase = .ready := by
  simp only [freshReady, List.mem_insertionSort, List.mem_filter, Bool.and_eq_true, beq_iff_eq] at fresh
  exact ⟨fresh.1, fresh.2.1⟩

theorem mem_staleReady (stale : (member, reason) ∈ staleReady inputs members) :
    member ∈ members ∧ member.phase = .ready := by
  simp only [staleReady, List.mem_insertionSort, List.mem_filterMap, List.mem_filter, beq_iff_eq,
    Option.map_eq_some_iff, Prod.mk.injEq] at stale
  obtain ⟨listed, ⟨member, ready⟩, _, _, rfl, rfl⟩ := stale
  exact ⟨member, ready⟩

theorem mem_plan_delete {name : String} (planned : (name, reason) ∈ (plan inputs members).delete) :
    ∃ member ∈ members, member.name = name ∧ (member.phase = .ready ∨ member.phase = .provisioning) := by
  simp only [plan, List.mem_append, List.mem_map, deletion, Prod.mk.injEq] at planned
  rcases planned with ((⟨member, poisoned, named, -⟩ | ⟨member, fresh, named, -⟩) |
    ⟨⟨member, _⟩, stale, named, -⟩) | ⟨⟨member, _⟩, stale, named, -⟩
  · simp only [provisioners, List.mem_filter, beq_iff_eq] at poisoned
    exact ⟨member, poisoned.1.1, named, .inr poisoned.1.2⟩
  · obtain ⟨listed, ready⟩ := mem_freshReady (List.mem_of_mem_take fresh)
    exact ⟨member, listed, named, .inl ready⟩
  · obtain ⟨listed, ready⟩ := mem_staleReady (List.mem_of_mem_take stale)
    exact ⟨member, listed, named, .inl ready⟩
  · obtain ⟨listed, ready⟩ := mem_staleReady (List.mem_of_mem_drop (List.mem_of_mem_take stale))
    exact ⟨member, listed, named, .inl ready⟩

/-! ## Machine counters

The planner counts in `u32`: lengths saturate, and the sum of what stays alive is
not checked for overflow.  With fewer than `2 ^ 32` members this makes no
difference.
-/

def lenU32 (length : Nat) : UInt32 := .ofNat (min length (2 ^ 32 - 1))

def saturatingSub (first second : UInt32) : UInt32 :=
  if first ≤ second then 0 else first - second

def minU32 (first second : UInt32) : UInt32 := if first ≤ second then first else second

def aliveU32 (claimed provisioning fresh stale : Nat) (warmReplicas : UInt32) : UInt32 :=
  lenU32 claimed + UInt32.ofNat provisioning + minU32 (lenU32 fresh) warmReplicas + lenU32 stale

/-- Pass 6, from the number of members to create and of stale members kept so far. -/
def tradeU32 (toCreate room : UInt32) (staleKept : Nat) : Nat :=
  if room < toCreate ∧ 0 < staleKept then min (toCreate - room).toNat staleKept else 0

def sizingU32 (warmReplicas maxReplicas maxSurge : UInt32)
    (claimed provisioning fresh stale : Nat) : Sizing :=
  let freshKept := minU32 (lenU32 fresh) warmReplicas
  let staleNeeded := saturatingSub warmReplicas freshKept
  let staleKept := min stale staleNeeded.toNat
  let wanted := saturatingSub staleNeeded (UInt32.ofNat provisioning)
  let toCreate := minU32 wanted (saturatingSub maxSurge (UInt32.ofNat provisioning))
  let room (staleKept : Nat) :=
    saturatingSub maxReplicas (aliveU32 claimed provisioning fresh staleKept warmReplicas)
  let trade := tradeU32 toCreate (room staleKept) staleKept
  { scaleDown := (saturatingSub (lenU32 fresh) warmReplicas).toNat
    replace := stale - staleKept
    trade := trade
    create := (minU32 toCreate (room (staleKept - trade))).toNat
    blockedOnCapacity := (saturatingSub toCreate (room (staleKept - trade))).toNat }

theorem toNat_lenU32 {length : Nat} (small : length < 2 ^ 32) : (lenU32 length).toNat = length := by
  simp only [lenU32, UInt32.toNat_ofNat']
  omega

theorem toNat_saturatingSub (first second : UInt32) :
    (saturatingSub first second).toNat = first.toNat - second.toNat := by
  unfold saturatingSub
  split
  · rename_i le
    have := UInt32.le_iff_toNat_le.mp le
    rw [UInt32.toNat_zero]
    omega
  · rename_i notLe
    exact UInt32.toNat_sub_of_le _ _ (UInt32.le_of_lt (UInt32.not_le.mp notLe))

theorem toNat_minU32 (first second : UInt32) : (minU32 first second).toNat = min first.toNat second.toNat := by
  unfold minU32
  split
  · rename_i le
    rw [Nat.min_eq_left (UInt32.le_iff_toNat_le.mp le)]
  · rename_i notLe
    rw [Nat.min_eq_right (UInt32.lt_iff_toNat_lt.mp (UInt32.not_le.mp notLe)).le]

theorem toNat_aliveU32 (few : claimed + provisioning + fresh + stale < 2 ^ 32) :
    (aliveU32 claimed provisioning fresh stale warmReplicas).toNat =
      claimed + provisioning + min fresh warmReplicas.toNat + stale := by
  simp only [aliveU32, UInt32.toNat_add, toNat_minU32, UInt32.toNat_ofNat',
    toNat_lenU32 (show claimed < 2 ^ 32 by omega), toNat_lenU32 (show fresh < 2 ^ 32 by omega),
    toNat_lenU32 (show stale < 2 ^ 32 by omega)]
  omega

theorem tradeU32_eq (toCreate room : UInt32) (staleKept : Nat) :
    tradeU32 toCreate room staleKept = min (toCreate.toNat - room.toNat) staleKept := by
  unfold tradeU32
  split
  · rename_i lacking
    rw [UInt32.toNat_sub_of_le _ _ (UInt32.le_of_lt lacking.1)]
  · rename_i enough
    rw [UInt32.lt_iff_toNat_lt] at enough
    omega

theorem sizingU32_eq {maxReplicas maxSurge : UInt32} (warm : inputs.warmReplicas = warmReplicas.toNat)
    (replicas : inputs.maxReplicas = maxReplicas.toNat) (surge : inputs.maxSurge = maxSurge.toNat)
    (few : claimed + provisioning + fresh + stale < 2 ^ 32) :
    sizingU32 warmReplicas maxReplicas maxSurge claimed provisioning fresh stale =
      sizing inputs claimed provisioning fresh stale := by
  have counted : (UInt32.ofNat provisioning).toNat = provisioning := by
    rw [UInt32.toNat_ofNat']
    exact Nat.mod_eq_of_lt (by omega)
  have freshLength := toNat_lenU32 (show fresh < 2 ^ 32 by omega)
  have alive : ∀ kept ≤ stale, (aliveU32 claimed provisioning fresh kept warmReplicas).toNat =
        claimed + provisioning + min fresh warmReplicas.toNat + kept := fun kept fits =>
    toNat_aliveU32 (by omega)
  simp only [sizingU32, sizing, warm, replicas, surge, tradeU32_eq, toNat_minU32,
    toNat_saturatingSub, counted, freshLength]
  rw [alive _ (Nat.min_le_left _ _), alive _ ((Nat.sub_le _ _).trans (Nat.min_le_left _ _))]

theorem sizingU32_eq_small :
    sizingU32 3 5 2 1 1 4 2 = sizing ⟨3, 5, 2, 600, none, true, "r", []⟩ 1 1 4 2 :=
  sizingU32_eq rfl rfl rfl (by decide)

end Banlieue.Pool
