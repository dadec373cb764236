import Mathlib.Data.Finset.Max
import Banlieue.Vm.AddressConflict

namespace Banlieue.Vm

open Banlieue.Api Banlieue.Data

/-! # One snapshot, one verdict

Each machine settles the reservations from its own copy and from the machines it
shares an address with.  On one snapshot all of them reach the verdicts of one
common ledger.
-/

/-- What a store shows at one moment: at most one machine for each key. -/
structure Snapshot where
  vms : List VirtualMachine
  distinct : (vms.map key).Nodup
deriving DecidableEq

/-! ## The order -/

theorem key_eq_of_rank_eq {first second : VirtualMachine} (same : rank first = rank second) :
    key first = key second := by
  have pair := Prod.mk.inj (toLex.injective same)
  exact toLex.injective pair.2

variable (vm : VirtualMachine) (contenders : List VirtualMachine)

theorem everyone_sorted : (everyone vm contenders).Pairwise fun first second => rank first ≤ rank second := by
  have : Std.Total fun first second : VirtualMachine => rank first ≤ rank second :=
    ⟨fun first second => le_total (rank first) (rank second)⟩
  have : IsTrans VirtualMachine fun first second => rank first ≤ rank second :=
    ⟨fun _ _ _ earlier later => earlier.trans later⟩
  exact List.pairwise_insertionSort _ _

theorem everyone_perm : (everyone vm contenders).Perm ((contenders.filter fun other => key other != key vm) ++ [vm]) :=
  List.perm_insertionSort _ _

theorem eq_of_sorted {first second : List VirtualMachine} (perm : first.Perm second) (distinct : (first.map key).Nodup)
    (sorted : first.Pairwise fun left right => rank left ≤ rank right)
    (sorted' : second.Pairwise fun left right => rank left ≤ rank right) : first = second := by
  refine List.Perm.eq_of_pairwise ?_ sorted sorted' perm
  intro left right member member' below above
  have same := key_eq_of_rank_eq (le_antisymm below above)
  exact List.inj_on_of_nodup_map distinct member (perm.symm.subset member') same

theorem nodup_map_filter_append {vms : List VirtualMachine} (distinct : (vms.map key).Nodup) (vm : VirtualMachine) :
    (((vms.filter fun other => key other != key vm) ++ [vm]).map key).Nodup := by
  rw [List.map_append, List.nodup_append]
  refine ⟨(List.filter_sublist.map key).nodup distinct, List.nodup_singleton _, ?_⟩
  intro first listed second own
  obtain ⟨other, member, rfl⟩ := List.mem_map.mp listed
  have different : key other ≠ key vm := by simpa using (List.mem_filter.mp member).2
  simp only [List.map_cons, List.map_nil, List.mem_singleton] at own
  rwa [own]

theorem everyone_distinct {vms : List VirtualMachine} (distinct : (vms.map key).Nodup)
    (vm : VirtualMachine) : ((everyone vm vms).map key).Nodup :=
  ((everyone_perm vm vms).map key).nodup_iff.mpr (nodup_map_filter_append distinct vm)

/-! ## The closure of contention -/

section Closure

variable (text : AddressText)

/-- The machines taken in have only addresses that were reached, the machines left
out have none of them. -/
structure Separates (pending : List VirtualMachine) (addresses : List String)
    (taken left : List VirtualMachine) (reached : List String) : Prop where
  whole : (taken ++ left).Perm pending
  starts : ∀ address ∈ addresses, address ∈ reached
  within : ∀ vm ∈ taken, ∀ address ∈ addressesOf text vm, address ∈ reached
  apart : ∀ vm ∈ left, ∀ address ∈ addressesOf text vm, address ∉ reached

variable {text} {vm : VirtualMachine}

theorem contendingRounds_separates (rounds : Nat) (pending found : List VirtualMachine)
    (addresses : List String) (enough : pending.length ≤ rounds) : ∃ taken left reached,
      contendingRounds text rounds pending addresses found = found ++ taken ∧
        Separates text pending addresses taken left reached := by
  induction rounds generalizing pending addresses found with
  | zero =>
    have empty : pending = [] := List.length_eq_zero_iff.mp (by omega)
    subst empty
    exact ⟨[], [], addresses, by simp [contendingRounds], .refl _, by simp, by simp, by simp⟩
  | succ rounds ih =>
    simp only [contendingRounds]
    split
    · rename_i none
      refine ⟨[], pending, addresses, by simp, .refl _, by simp, by simp, ?_⟩
      intro vm member
      have unshared := List.filter_eq_nil_iff.mp (List.isEmpty_iff.mp none) vm member
      simpa [sharesAddress] using unshared
    · rename_i some
      -- A round that takes something in leaves fewer machines pending.
      have fewer : (pending.filter fun vm => !sharesAddress text addresses vm).length ≤ rounds := by
        have total := List.length_eq_length_filter_add (l := pending) (sharesAddress text addresses)
        have taken : 0 < (pending.filter (sharesAddress text addresses)).length := by
          rw [List.length_pos_iff]
          simpa using some
        omega
      obtain ⟨taken, left, reached, result, separates⟩ := ih _ (found ++ pending.filter (sharesAddress text addresses))
        (addresses ++ (pending.filter (sharesAddress text addresses)).flatMap (addressesOf text))
        fewer
      refine ⟨pending.filter (sharesAddress text addresses) ++ taken, left, reached, ?_, ?_⟩
      · rw [result, List.append_assoc]
      · refine ⟨?_, ?_, ?_, separates.apart⟩
        · rw [List.append_assoc]
          refine (separates.whole.append_left _).trans ?_
          exact List.filter_append_perm _ _
        · intro address member
          exact separates.starts address (List.mem_append_left _ member)
        · intro vm member address own
          rcases List.mem_append.mp member with now | later
          · refine separates.starts address (List.mem_append_right _ ?_)
            exact List.mem_flatMap.mpr ⟨vm, now, own⟩
          · exact separates.within vm later address own

variable (text) in
theorem contendingVms_separates (vm : VirtualMachine) (all : List VirtualMachine) :
    ∃ left reached,
      Separates text (all.filter fun other => key other != key vm) (addressesOf text vm)
        (contendingVms text vm all) left reached := by
  obtain ⟨taken, left, reached, result, separates⟩ :=
    contendingRounds_separates _ (all.filter fun other => key other != key vm) []
      (addressesOf text vm) (Nat.le_refl _)
  have same : contendingVms text vm all = taken := result
  exact ⟨left, reached, same ▸ separates⟩

/-! ## Only contenders matter -/

variable {claim : AddressClaim}

theorem declaredClaims_address {vmClass : Option VMClass} (declared : claim ∈ declaredClaims text vm vmClass) :
    claim.address ∈ addressesOf text vm := by
  obtain ⟨override, listed, named⟩ := List.mem_filterMap.mp declared
  apply List.mem_append_left
  cases vmClass with
  | none =>
    cases named
    exact List.mem_map.mpr ⟨override, listed, rfl⟩
  | some found =>
    obtain ⟨nic, -, rfl⟩ := Option.map_eq_some_iff.mp named
    exact List.mem_map.mpr ⟨override, listed, rfl⟩

theorem claimant_address {classes : List VMClass}
    (listed : claim ∈ (claimant text classes vm).held ++ (claimant text classes vm).declared) :
    claim.address ∈ addressesOf text vm := by
  rcases List.mem_append.mp listed with held | declared
  · exact List.mem_append_right _ (List.mem_map_of_mem held)
  · exact declaredClaims_address declared

theorem AddressClaim.matches_address {other : AddressClaim}
    (matching : claim.matches other = true) : claim.address = other.address := by
  simp only [AddressClaim.matches, Bool.and_eq_true, beq_iff_eq] at matching
  exact matching.1

variable {classes : List VMClass} {vm : VirtualMachine} {all : List VirtualMachine}

theorem everyone_contending (distinct : (all.map key).Nodup) {left : List VirtualMachine} {reached : List String}
    (separates : Separates text (all.filter fun other => key other != key vm)
      (addressesOf text vm) (contendingVms text vm all) left reached) {inside : VmKey → Bool}
    (ours : ∀ other ∈ contendingVms text vm all ++ [vm], inside (key other) = true)
    (theirs : ∀ other ∈ left, inside (key other) = false) : everyone vm (contendingVms text vm all) =
      (everyone vm all).filter fun other => inside (key other) := by
  have others : (contendingVms text vm all).filter (fun other => key other != key vm) = contendingVms text vm all := by
    rw [List.filter_eq_self]
    intro other member
    have pending := separates.whole.subset (List.mem_append_left left member)
    exact (List.mem_filter.mp pending).2
  have small := everyone_perm vm (contendingVms text vm all)
  rw [others] at small
  have large : ((everyone vm all).filter fun other => inside (key other)).Perm (contendingVms text vm all ++ [vm]) := by
    refine ((everyone_perm vm all).filter _).trans ?_
    refine ((separates.whole.symm.append_right [vm]).filter _).trans ?_
    have dropped : left.filter (fun other => inside (key other)) = [] := by
      rw [List.filter_eq_nil_iff]
      intro other member
      simp [theirs other member]
    have kept := List.filter_eq_self.mpr ours
    rw [List.filter_append] at kept
    rw [List.filter_append, List.filter_append, dropped, List.append_nil, kept]
  refine (eq_of_sorted (large.trans small.symm) ?_ ?_ (everyone_sorted _ _)).symm
  · exact (List.filter_sublist.map key).nodup (everyone_distinct distinct vm)
  · exact (everyone_sorted vm all).filter _

theorem reservations_contending (distinct : (all.map key).Nodup) :
    (reservations text vm (contendingVms text vm all) classes).blocked (key vm) =
      (reservations text vm all classes).blocked (key vm) := by
  obtain ⟨left, reached, separates⟩ := contendingVms_separates text vm all
  let inside : VmKey → Bool := fun name =>
    ((contendingVms text vm all ++ [vm]).map key).contains name
  have ours : ∀ other ∈ contendingVms text vm all ++ [vm], inside (key other) = true := by
    intro other member
    simpa only [inside, List.contains_iff_mem] using List.mem_map_of_mem member
  have theirs : ∀ other ∈ left, inside (key other) = false := by
    intro other member
    have whole : (((contendingVms text vm all ++ left) ++ [vm]).map key).Nodup :=
      (((separates.whole.append_right [vm]).map key).nodup_iff).mpr (nodup_map_filter_append distinct vm)
    have reordered : ((left ++ (contendingVms text vm all ++ [vm])).map key).Nodup := by
      refine ((List.Perm.map key ?_).nodup_iff).mp whole
      rw [← List.append_assoc]
      exact List.perm_append_comm.append_right [vm]
    rw [List.map_append] at reordered
    have disjoint := (List.nodup_append.mp reordered).2.2 (key other) (List.mem_map_of_mem member)
    simp only [inside, ← Bool.not_eq_true, List.contains_iff_mem]
    exact fun listed => disjoint (key other) listed rfl
  -- Every machine considered is inside, with addresses that were reached, or left out.
  have cases : ∀ other ∈ everyone vm all,
      (inside (key other) = true → ∀ address ∈ addressesOf text other, address ∈ reached) ∧
      (inside (key other) = false → ∀ address ∈ addressesOf text other, address ∉ reached) := by
    intro other member
    rcases List.mem_append.mp ((everyone_perm vm all).subset member) with pending | own
    · rcases List.mem_append.mp (separates.whole.symm.subset pending) with taken | out
      · have within := ours other (List.mem_append_left _ taken)
        exact ⟨fun _ => separates.within other taken, fun without => by simp [within] at without⟩
      · have without := theirs other out
        exact ⟨fun within => by simp [without] at within, fun _ => separates.apart other out⟩
    · obtain rfl := List.mem_singleton.mp own
      have within := ours other (List.mem_append_right _ own)
      exact ⟨fun _ => separates.starts, fun without => by simp [within] at without⟩
  have restricts : Restricts AddressClaim.matches inside (fun claim => claim.address ∈ reached)
      (reservations text vm all classes)
      (settle AddressClaim.matches (((everyone vm all).map (claimant text classes)).filter
        fun claimant => inside claimant.key)) := by
    refine settle_filter ?_ ?_
    · intro member listed within claim own
      obtain ⟨other, considered, rfl⟩ := List.mem_map.mp listed
      exact (cases other considered).1 within claim.address (claimant_address own)
    · intro member listed without claim own native reachable
      obtain ⟨other, considered, rfl⟩ := List.mem_map.mp listed
      have unreached := (cases other considered).2 without claim.address (claimant_address own)
      rw [← Bool.not_eq_true]
      intro matching
      exact unreached (AddressClaim.matches_address matching ▸ reachable)
  rw [List.filter_map] at restricts
  have same := everyone_contending distinct separates ours theirs
  have agreed := restricts.blocked (key vm) (ours vm (List.mem_append_right _ (List.mem_singleton_self vm)))
  rw [reservations, same]
  exact agreed

end Closure

/-- Evaluated among its contenders only, a machine gets the verdict, and the named
holder, that it gets among all machines of the snapshot. -/
theorem findDuplicateAddress_contendingVms (text : AddressText) (snapshot : Snapshot)
    (classes : List VMClass) (vm : VirtualMachine) :
    findDuplicateAddress text vm (contendingVms text vm snapshot.vms) classes =
      findDuplicateAddress text vm snapshot.vms classes := by
  rw [findDuplicateAddress, findDuplicateAddress, reservations_contending snapshot.distinct]

theorem findDuplicateAddress_nil (text : AddressText) (vm : VirtualMachine) (classes : List VMClass) :
    findDuplicateAddress text vm [] classes = none := by
  have order : [claimant text classes vm] = [] ++ claimant text classes vm :: [] := rfl
  have free : (settle AddressClaim.matches [claimant text classes vm]).blocked (key vm) = none :=
    settle_free order (by simp) (by simp) (by simp) (by simp)
  simpa [findDuplicateAddress, reservations, everyone] using free

/-! ## The admitted set -/

section Admitted

variable (text : AddressText) (snapshot : Snapshot) (classes : List VMClass)

/-- The machine's own evaluation lets it pass. -/
def Admitted (vm : VirtualMachine) : Prop :=
  vm ∈ snapshot.vms ∧ findDuplicateAddress text vm snapshot.vms classes = none

/-- The machine holds the claim, and no older one holds a matching claim. -/
structure HoldsFirst (holder : VirtualMachine) (claim : AddressClaim) : Prop where
  listed : holder ∈ snapshot.vms
  holds : claim ∈ heldClaims text holder
  first : ∀ older ∈ snapshot.vms, rank older < rank holder →
    ∀ held ∈ heldClaims text older, held.matches claim = false

/-- The machines of the group all declare one claim that nobody holds, nobody else
declares it, and nothing they hold is held by others. -/
structure Contest (group : VirtualMachine → Prop) : Prop where
  listed : ∀ vm, group vm → vm ∈ snapshot.vms
  declares : ∀ vm, group vm → declaredClaims text vm (classOf classes vm) ≠ []
  oneClaim : ∀ vm other, group vm → group other →
    ∀ claim ∈ declaredClaims text vm (classOf classes vm),
    ∀ declared ∈ declaredClaims text other (classOf classes other), claim.matches declared = true
  unheld : ∀ vm, group vm → ∀ holder ∈ snapshot.vms, ∀ held ∈ heldClaims text holder,
    ∀ claim ∈ declaredClaims text vm (classOf classes vm), held.matches claim = false
  alone : ∀ vm, group vm → ∀ other ∈ snapshot.vms, ¬ group other →
    ∀ declared ∈ declaredClaims text other (classOf classes other),
    ∀ claim ∈ declaredClaims text vm (classOf classes vm), declared.matches claim = false
  nothingElse : ∀ vm, group vm → ∀ other ∈ snapshot.vms, other ≠ vm →
    ∀ held ∈ heldClaims text other, ∀ own ∈ heldClaims text vm, held.matches own = false

variable {text snapshot classes} {vm other : VirtualMachine}

namespace Snapshot

theorem eq_of_key (first : vm ∈ snapshot.vms) (second : other ∈ snapshot.vms)
    (same : key vm = key other) : vm = other :=
  List.inj_on_of_nodup_map snapshot.distinct first second same

theorem perm_with (member : vm ∈ snapshot.vms) :
    ((snapshot.vms.filter fun other => key other != key vm) ++ [vm]).Perm snapshot.vms := by
  have nodup := nodup_map_filter_append snapshot.distinct vm
  rw [List.perm_ext_iff_of_nodup (List.Nodup.of_map key nodup) (List.Nodup.of_map key snapshot.distinct)]
  intro other
  simp only [List.mem_append, List.mem_filter, bne_iff_ne, List.mem_singleton]
  constructor
  · rintro (⟨listed, _⟩ | rfl)
    · exact listed
    · exact member
  · intro listed
    by_cases same : key other = key vm
    · exact .inr (snapshot.eq_of_key listed member same)
    · exact .inl ⟨listed, same⟩

theorem everyone_eq (first : vm ∈ snapshot.vms) (second : other ∈ snapshot.vms) :
    everyone vm snapshot.vms = everyone other snapshot.vms := by
  refine eq_of_sorted ?_ (everyone_distinct snapshot.distinct vm) (everyone_sorted _ _) (everyone_sorted _ _)
  exact ((everyone_perm vm _).trans (snapshot.perm_with first)).trans
    ((everyone_perm other _).trans (snapshot.perm_with second)).symm

/-- A machine's place in the order: the older ones before it, the younger after. -/
structure Position (snapshot : Snapshot) (vm : VirtualMachine)
    (earlier later : List VirtualMachine) : Prop where
  order : everyone vm snapshot.vms = earlier ++ vm :: later
  older : ∀ other ∈ earlier, other ∈ snapshot.vms ∧ rank other < rank vm
  younger : ∀ other ∈ later, other ∈ snapshot.vms ∧ rank vm < rank other

theorem position (member : vm ∈ snapshot.vms) : ∃ earlier later, Position snapshot vm earlier later := by
  have whole := (everyone_perm vm _).trans (snapshot.perm_with member)
  obtain ⟨earlier, later, order⟩ := List.append_of_mem (whole.symm.subset member)
  have sorted := everyone_sorted vm snapshot.vms
  have distinct := everyone_distinct snapshot.distinct vm
  rw [order] at sorted distinct whole
  rw [List.map_append, List.map_cons, List.nodup_middle, List.nodup_cons, List.mem_append, not_or] at distinct
  rw [List.pairwise_append] at sorted
  refine ⟨earlier, later, order, ?_, ?_⟩
  · intro other listed
    refine ⟨whole.subset (List.mem_append_left _ listed), lt_of_le_of_ne ?_ ?_⟩
    · exact sorted.2.2 other listed vm List.mem_cons_self
    · intro same
      exact distinct.1.1 (key_eq_of_rank_eq same ▸ List.mem_map_of_mem listed)
  · intro other listed
    refine ⟨whole.subset (List.mem_append_right _ (List.mem_cons_of_mem _ listed)), lt_of_le_of_ne ?_ ?_⟩
    · exact (List.pairwise_cons.mp sorted.2.1).1 other listed
    · intro same
      exact distinct.1.2 (key_eq_of_rank_eq same ▸ List.mem_map_of_mem listed)

variable {earlier later : List VirtualMachine}

theorem Position.claimants (place : Position snapshot vm earlier later) (classes : List VMClass) :
    (everyone vm snapshot.vms).map (claimant text classes) = earlier.map (claimant text classes) ++
        claimant text classes vm :: later.map (claimant text classes) := by
  rw [place.order, List.map_append, List.map_cons]

theorem Position.mem (place : Position snapshot vm earlier later) (member : vm ∈ snapshot.vms)
    (listed : other ∈ snapshot.vms) : other ∈ earlier ∨ other = vm ∨ other ∈ later := by
  have whole := (everyone_perm vm _).trans (snapshot.perm_with member)
  rw [place.order] at whole
  simpa using whole.symm.subset listed

end Snapshot

theorem reservations_blocked_iff (first : vm ∈ snapshot.vms) (second : other ∈ snapshot.vms) :
    (reservations text vm snapshot.vms classes).blocked (key other) = none ↔ Admitted text snapshot classes other := by
  rw [reservations, snapshot.everyone_eq first second]
  simp only [Admitted, second, true_and, findDuplicateAddress, Option.map_eq_none_iff]
  rfl

theorem AddressClaim.matches_comm (claim other : AddressClaim) : claim.matches other = other.matches claim := by
  obtain ⟨_, first, _⟩ := claim
  obtain ⟨_, second, _⟩ := other
  cases first <;> cases second <;> simp [AddressClaim.matches, BEq.comm]

theorem admitted_older_apart (admitted : Admitted text snapshot classes vm)
    (younger : Admitted text snapshot classes other) (order : rank vm < rank other) :
    ∀ claim ∈ declaredClaims text vm (classOf classes vm),
    ∀ declared ∈ declaredClaims text other (classOf classes other), claim.matches declared = false := by
  obtain ⟨earlier, later, place⟩ := snapshot.position admitted.1
  have after : other ∈ later := by
    rcases place.mem admitted.1 younger.1 with before | rfl | after
    · exact absurd (place.older other before).2 order.not_gt
    · exact absurd order (lt_irrefl _)
    · exact after
  have different : key vm ≠ key other := by
    intro same
    rw [snapshot.eq_of_key admitted.1 younger.1 same] at order
    exact absurd order (lt_irrefl _)
  intro claim declared
  exact settle_apart_declared (place.claimants classes) (List.mem_map_of_mem after) different
    ((reservations_blocked_iff admitted.1 admitted.1).mpr admitted)
    ((reservations_blocked_iff admitted.1 younger.1).mpr younger) declared

theorem admitted_apart (first : Admitted text snapshot classes vm)
    (second : Admitted text snapshot classes other) (different : vm ≠ other) :
    ∀ claim ∈ declaredClaims text vm (classOf classes vm),
    ∀ declared ∈ declaredClaims text other (classOf classes other), claim.matches declared = false := by
  intro claim named declared listed
  rcases lt_trichotomy (rank vm) (rank other) with older | same | younger
  · exact admitted_older_apart first second older claim named declared listed
  · exact absurd (snapshot.eq_of_key first.1 second.1 (key_eq_of_rank_eq same)) different
  · rw [AddressClaim.matches_comm]
    exact admitted_older_apart second first younger declared listed claim named

theorem admitted_respects_holder {holder : VirtualMachine} {claim : AddressClaim}
    (admitted : Admitted text snapshot classes vm) (holds : HoldsFirst text snapshot holder claim)
    (different : holder ≠ vm) :
    ∀ declared ∈ declaredClaims text vm (classOf classes vm), claim.matches declared = false := by
  obtain ⟨earlier, later, place⟩ := snapshot.position holds.listed
  have reserved : (claim, (claimant text classes holder).key) ∈
      (settleHeld AddressClaim.matches ((everyone holder snapshot.vms).map (claimant text classes))).reserved := by
    refine settleHeld_reserves (place.claimants classes) holds.holds ?_
    intro older member _ held kept
    obtain ⟨machine, before, rfl⟩ := List.mem_map.mp member
    exact holds.first machine (place.older machine before).1 (place.older machine before).2 held kept
  have considered : claimant text classes vm ∈ (everyone holder snapshot.vms).map (claimant text classes) := by
    refine List.mem_map_of_mem ?_
    rw [place.order]
    simpa using place.mem holds.listed admitted.1
  refine settle_apart_held considered ?_ ?_ reserved
  · exact fun same => different (snapshot.eq_of_key holds.listed admitted.1 same)
  · exact (reservations_blocked_iff holds.listed admitted.1).mpr admitted

variable {group : VirtualMachine → Prop} (contest : Contest text snapshot classes group)

include contest

theorem Contest.oldest_admitted (member : group vm) (oldest : ∀ other, group other → rank vm ≤ rank other) :
    Admitted text snapshot classes vm := by
  have listed := contest.listed vm member
  obtain ⟨earlier, later, place⟩ := snapshot.position listed
  have others : ∀ other ∈ earlier ++ later, other ∈ snapshot.vms ∧ other ≠ vm := by
    intro other member
    have apart : other ∈ snapshot.vms ∧ rank other ≠ rank vm := by
      rcases List.mem_append.mp member with before | after
      · exact ⟨(place.older other before).1, (place.older other before).2.ne⟩
      · exact ⟨(place.younger other after).1, (place.younger other after).2.ne'⟩
    exact ⟨apart.1, fun same => apart.2 (congrArg rank same)⟩
  rw [← reservations_blocked_iff listed listed]
  refine settle_free (place.claimants classes) ?_ ?_ ?_ ?_
  · intro claimant member same
    rw [← List.map_append] at member
    obtain ⟨other, named, rfl⟩ := List.mem_map.mp member
    obtain ⟨stored, different⟩ := others other named
    exact different (snapshot.eq_of_key stored listed same.symm)
  · intro claimant before held kept own mine
    obtain ⟨other, named, rfl⟩ := List.mem_map.mp before
    obtain ⟨stored, different⟩ := others other (List.mem_append_left _ named)
    exact contest.nothingElse vm member other stored different held kept own mine
  · intro claimant named held kept own mine
    rw [← List.map_append] at named
    obtain ⟨other, found, rfl⟩ := List.mem_map.mp named
    exact contest.unheld vm member other (others other found).1 held kept own mine
  · -- An earlier machine that declares the claim would be an older one of the group.
    intro claimant before declared theirs own mine
    obtain ⟨other, named, rfl⟩ := List.mem_map.mp before
    obtain ⟨stored, older⟩ := place.older other named
    refine contest.alone vm member other stored ?_ declared theirs own mine
    exact fun grouped => absurd (oldest other grouped) older.not_ge

theorem Contest.exists_oldest (member : group vm) :
    ∃ oldest, group oldest ∧ ∀ other, group other → rank oldest ≤ rank other := by
  classical
  have nonempty : (snapshot.vms.toFinset.filter group).Nonempty :=
    ⟨vm, by simpa using ⟨contest.listed vm member, member⟩⟩
  obtain ⟨oldest, listed, least⟩ := Finset.exists_min_image _ rank nonempty
  refine ⟨oldest, (Finset.mem_filter.mp listed).2, ?_⟩
  intro other grouped
  exact least other (by simpa using ⟨contest.listed other grouped, grouped⟩)

theorem Contest.admitted_unique (member : group vm) (grouped : group other) (first : Admitted text snapshot classes vm)
    (second : Admitted text snapshot classes other) : other = vm := by
  by_contra different
  obtain ⟨claim, named⟩ := List.exists_mem_of_ne_nil _ (contest.declares vm member)
  obtain ⟨declared, listed⟩ := List.exists_mem_of_ne_nil _ (contest.declares other grouped)
  have apart := admitted_apart first second (Ne.symm different) claim named declared listed
  rw [contest.oneClaim vm other member grouped claim named declared listed] at apart
  contradiction

omit contest

end Admitted

/-- On one snapshot the machines whose own evaluation finds no duplicate form one
set that every evaluation agrees on: no two of them declare matching claims, none
declares what another machine holds first, and of machines that contend for one
claim nobody holds exactly the oldest is in it. -/
theorem admitted_set_consistent (text : AddressText) (snapshot : Snapshot)
    (classes : List VMClass) :
    (∀ vm ∈ snapshot.vms, ∀ other ∈ snapshot.vms,
      ((reservations text vm snapshot.vms classes).blocked (key other) = none ↔
        Admitted text snapshot classes other)) ∧
    (∀ vm other, Admitted text snapshot classes vm → Admitted text snapshot classes other →
      vm ≠ other → ∀ claim ∈ declaredClaims text vm (classOf classes vm),
      ∀ declared ∈ declaredClaims text other (classOf classes other),
        claim.matches declared = false) ∧
    (∀ vm holder claim, Admitted text snapshot classes vm →
      HoldsFirst text snapshot holder claim → holder ≠ vm →
      ∀ declared ∈ declaredClaims text vm (classOf classes vm), claim.matches declared = false) ∧
    (∀ group, Contest text snapshot classes group → (∃ vm, group vm) →
      ∃ oldest, group oldest ∧ (∀ other, group other → rank oldest ≤ rank other) ∧
        ∀ other, group other → (Admitted text snapshot classes other ↔ other = oldest)) := by
  refine ⟨fun _ first _ second => reservations_blocked_iff first second,
    fun _ _ first second => admitted_apart first second,
    fun _ _ _ admitted holds => admitted_respects_holder admitted holds, ?_⟩
  rintro group contest ⟨vm, member⟩
  obtain ⟨oldest, grouped, least⟩ := contest.exists_oldest member
  have admitted := contest.oldest_admitted grouped least
  refine ⟨oldest, grouped, least, ?_⟩
  intro other listed
  constructor
  · exact contest.admitted_unique grouped listed admitted
  · rintro rfl
    exact admitted

/-! ## Incumbents -/

/-- A machine that holds all it declares is admitted, whatever other machines declare, as
long as none of them holds any of it. -/
theorem incumbent_admitted (text : AddressText) (classes : List VMClass) (vm : VirtualMachine)
    (contenders : List VirtualMachine)
    (holds : declaredClaims text vm (classOf classes vm) = heldClaims text vm)
    (unheld : ∀ other ∈ contenders, key other ≠ key vm → ∀ held ∈ heldClaims text other,
      ∀ claim ∈ heldClaims text vm, held.matches claim = false) :
    findDuplicateAddress text vm contenders classes = none := by
  have whole := everyone_perm vm contenders
  obtain ⟨earlier, later, order⟩ := List.append_of_mem (whole.symm.subset (List.mem_append_right _ List.mem_cons_self))
  rw [order] at whole
  have others : (earlier ++ later).Perm (contenders.filter fun other => key other != key vm) :=
    ((List.perm_middle.symm.trans whole).trans (List.perm_append_singleton _ _)).cons_inv
  have other : ∀ {owner}, owner ∈ earlier.map (claimant text classes) ++ later.map (claimant text classes) →
      ∃ machine ∈ contenders, key machine ≠ key vm ∧ claimant text classes machine = owner := by
    intro owner member
    rw [← List.map_append] at member
    obtain ⟨machine, listed, rfl⟩ := List.mem_map.mp member
    obtain ⟨listed, different⟩ := List.mem_filter.mp (others.subset listed)
    exact ⟨machine, listed, by simpa using different, rfl⟩
  rw [findDuplicateAddress, reservations, Option.map_eq_none_iff]
  have claimants : (everyone vm contenders).map (claimant text classes) =
      earlier.map (claimant text classes) ++ claimant text classes vm :: later.map (claimant text classes) := by
    rw [order, List.map_append, List.map_cons]
  refine settle_incumbent claimants AddressClaim.matches_comm ?_ ?_ ?_
  · intro owner member
    obtain ⟨machine, -, different, rfl⟩ := other member
    exact different.symm
  · exact fun own declared => (congrArg (own ∈ ·) holds).mp declared
  · intro owner member claim held own kept
    obtain ⟨machine, listed, different, rfl⟩ := other member
    exact unheld machine listed different claim held own kept

/-- A machine with one address, and what it holds. -/
def addressedVm (name className : String) (held : List HeldAddress) : VirtualMachine where
  metadata := { name }
  spec :=
    { classRef := ⟨className⟩
      imageRef := ⟨"os"⟩
      networkOverrides := [{ name := "eth0", static := { address := "10.0.0.5", prefixLen := 24 } }] }
  status := some { heldAddresses := held }

def lanClass : VMClass :=
  ⟨{ name := "lan" }, { hardware := ⟨1, 1024, []⟩, network := ⟨[{ name := "eth0", networkClass := "lan" }]⟩ }⟩

theorem incumbent_admitted_beside_unresolved :
    findDuplicateAddress ⟨id, fun _ => none⟩ (addressedVm "web" "lan" [⟨"eth0", "lan", "10.0.0.5"⟩])
      [addressedVm "db" "gone" []] [lanClass] = none :=
  incumbent_admitted _ _ _ _ (by decide) (by decide)

end Banlieue.Vm
