import Mathlib.Data.List.Find
import Mathlib.Logic.Function.Basic

namespace Banlieue.Data

/-! # Greedy reservation

Claimants hold some claims and declare others.  In one fixed order, every held
claim is reserved for its holder unless somebody else has reserved a claim that
clashes with it.  Then, in the same order, a claimant that has lost nothing is
admitted if no claim it declares clashes with a reservation of somebody else, and
reserves what it declares.
-/

structure Claimant (κ γ : Type) where
  key : κ
  held : List γ
  declared : List γ

/-- What is reserved for whom, and which claim each blocked claimant lost to whom. -/
structure Ledger (κ γ : Type) where
  reserved : List (γ × κ) := []
  blocked : κ → Option (γ × κ) := fun _ => none

/-! ## The two passes -/

variable {κ γ : Type} [DecidableEq κ] (clash : γ → γ → Bool)

namespace Ledger

def block (ledger : Ledger κ γ) (key : κ) (lost : γ × κ) : Ledger κ γ :=
  { ledger with blocked := Function.update ledger.blocked key (some lost) }

/-- The first other claimant with a reservation that clashes with the claim. -/
def ownerOf (ledger : Ledger κ γ) (key : κ) (claim : γ) : Option κ :=
  (ledger.reserved.find? fun entry => entry.2 != key && clash entry.1 claim).map Prod.snd

/-- A claimant that is blocked already keeps its first reason. -/
def hold (key : κ) (ledger : Ledger κ γ) (claim : γ) : Ledger κ γ :=
  match ledger.ownerOf clash key claim with
  | some owner => ledger.block key ((ledger.blocked key).getD (claim, owner))
  | none => { ledger with reserved := ledger.reserved ++ [(claim, key)] }

def holdAll (ledger : Ledger κ γ) (claimant : Claimant κ γ) : Ledger κ γ :=
  claimant.held.foldl (hold clash claimant.key) ledger

/-- The first declared claim that is lost, and to whom. -/
def conflict (ledger : Ledger κ γ) (claimant : Claimant κ γ) : Option (γ × κ) :=
  claimant.declared.findSome? fun claim =>
    (ledger.ownerOf clash claimant.key claim).map fun owner => (claim, owner)

def grant (ledger : Ledger κ γ) (claimant : Claimant κ γ) : Ledger κ γ :=
  if (ledger.blocked claimant.key).isSome then ledger
  else
    match ledger.conflict clash claimant with
    | some lost => ledger.block claimant.key lost
    | none =>
      { ledger with
        reserved := ledger.reserved ++ claimant.declared.map fun claim => (claim, claimant.key) }

end Ledger

/-- The reservations of what is held, before anything declared is looked at. -/
def settleHeld (claimants : List (Claimant κ γ)) : Ledger κ γ :=
  claimants.foldl (Ledger.holdAll clash) {}

def settle (claimants : List (Claimant κ γ)) : Ledger κ γ :=
  claimants.foldl (Ledger.grant clash) (settleHeld clash claimants)

/-! ## Turns

Both passes give the claimants turns: who has a turn asks for claims, and gets all of
them or is blocked.
-/

/-- Whoever is blocked has a `strict` turn in vain. -/
structure Turn (κ γ : Type) where
  key : κ
  claims : List γ
  strict : Bool

def Claimant.holds (claimant : Claimant κ γ) : List (Turn κ γ) :=
  claimant.held.map fun claim => ⟨claimant.key, [claim], false⟩

def Claimant.declares (claimant : Claimant κ γ) : Turn κ γ := ⟨claimant.key, claimant.declared, true⟩

namespace Ledger

def reserve (ledger : Ledger κ γ) (key : κ) (claims : List γ) : Ledger κ γ :=
  { ledger with reserved := ledger.reserved ++ claims.map fun claim => (claim, key) }

def take (ledger : Ledger κ γ) (turn : Turn κ γ) : Ledger κ γ :=
  match ledger.conflict clash ⟨turn.key, [], turn.claims⟩ with
  | some lost => ledger.block turn.key ((ledger.blocked turn.key).getD lost)
  | none => if turn.strict && (ledger.blocked turn.key).isSome then ledger else ledger.reserve turn.key turn.claims

/-- Nothing is in the way of the turn. -/
structure Clear (ledger : Ledger κ γ) (turn : Turn κ γ) : Prop where
  apart : ∀ claim ∈ turn.claims, ∀ entry ∈ ledger.reserved, entry.2 ≠ turn.key → clash entry.1 claim = false
  free : turn.strict = true → ledger.blocked turn.key = none

variable {clash} {ledger : Ledger κ γ} {key : κ} {claim : γ} {turn : Turn κ γ} {turns : List (Turn κ γ)}
  {claimant : Claimant κ γ} {claimants : List (Claimant κ γ)} {entry : γ × κ}

theorem conflict_eq_none : ledger.conflict clash claimant = none ↔
      ∀ claim ∈ claimant.declared, ∀ entry ∈ ledger.reserved, entry.2 ≠ claimant.key → clash entry.1 claim = false := by
  simp [conflict, ownerOf]

theorem block_getD (lost : γ × κ) (blocked : (ledger.blocked key).isSome = true) :
    ledger.block key ((ledger.blocked key).getD lost) = ledger := by
  obtain ⟨reason, known⟩ := Option.isSome_iff_exists.mp blocked
  rw [known, Option.getD_some, block, ← known, Function.update_eq_self]

theorem take_of_clear (clear : ledger.Clear clash turn) : ledger.take clash turn = ledger.reserve turn.key turn.claims := by
  have none : ledger.conflict clash ⟨turn.key, [], turn.claims⟩ = none := conflict_eq_none.mpr clear.apart
  have go : (turn.strict && (ledger.blocked turn.key).isSome) = false := by
    cases strict : turn.strict with
    | false => rfl
    | true => simp [clear.free strict]
  simp [take, none, go]

theorem take_cases (ledger : Ledger κ γ) (turn : Turn κ γ) :
    (∃ lost, ledger.take clash turn = ledger.block turn.key lost) ∨ ledger.Clear clash turn := by
  unfold take
  split
  · exact .inl ⟨_, rfl⟩
  · rename_i none
    split
    · rename_i vain
      obtain ⟨-, blocked⟩ := Bool.and_eq_true_iff.mp vain
      obtain ⟨lost, known⟩ := Option.isSome_iff_exists.mp blocked
      exact .inl ⟨_, (block_getD lost blocked).symm⟩
    · rename_i go
      refine .inr ⟨conflict_eq_none.mp none, fun strict => ?_⟩
      simpa [strict] using go

theorem hold_eq : ledger.hold clash key claim = ledger.take clash ⟨key, [claim], false⟩ := by
  simp only [hold, take, conflict, List.findSome?_cons, List.findSome?_nil]
  cases ledger.ownerOf clash key claim <;> rfl

theorem grant_eq : ledger.grant clash claimant = ledger.take clash claimant.declares := by
  simp only [grant, take, Claimant.declares, Bool.true_and]
  change _ = match ledger.conflict clash claimant with
    | some lost => _
    | none => _
  split
  · rename_i blocked
    split
    · exact (block_getD _ blocked).symm
    · rfl
  · rename_i free
    rw [Option.not_isSome_iff_eq_none.mp free]
    rfl

theorem settleHeld_eq : settleHeld clash claimants = (claimants.flatMap Claimant.holds).foldl (take clash) {} := by
  rw [List.foldl_flatMap]
  simp only [Claimant.holds, List.foldl_map, ← hold_eq]
  rfl

theorem settle_eq :
    settle clash claimants = (claimants.map Claimant.declares).foldl (take clash) (settleHeld clash claimants) := by
  rw [List.foldl_map]
  simp only [← grant_eq]
  rfl

/-! ## What turns leave -/

/-- Reservations and blocks stay. -/
structure Extends (before after : Ledger κ γ) : Prop where
  reserved : ∀ entry ∈ before.reserved, entry ∈ after.reserved
  blocked : ∀ key, after.blocked key = none → before.blocked key = none

theorem extends_take (ledger : Ledger κ γ) (turn : Turn κ γ) : Extends ledger (ledger.take clash turn) := by
  rcases take_cases ledger turn with ⟨lost, same⟩ | clear
  · rw [same]
    refine ⟨fun _ member => member, fun other free => ?_⟩
    by_cases own : other = turn.key
    · simp [block, own] at free
    · simpa [block, own] using free
  · rw [take_of_clear clear]
    exact ⟨fun _ member => List.mem_append_left _ member, fun _ free => free⟩

theorem extends_foldl (turns : List (Turn κ γ)) (ledger : Ledger κ γ) : Extends ledger (turns.foldl (take clash) ledger) := by
  induction turns generalizing ledger with
  | nil => exact ⟨fun _ member => member, fun _ free => free⟩
  | cons turn rest ih =>
    have first : Extends ledger (ledger.take clash turn) := extends_take ledger turn
    have later := ih (ledger.take clash turn)
    exact ⟨fun entry member => later.reserved entry (first.reserved entry member),
      fun key free => first.blocked key (later.blocked key free)⟩

/-- Only one's own turns can block. -/
theorem foldl_blocked_of_ne (others : ∀ turn ∈ turns, key ≠ turn.key) :
    (turns.foldl (take clash) ledger).blocked key = ledger.blocked key := by
  induction turns generalizing ledger with
  | nil => rfl
  | cons turn rest ih =>
    refine (ih fun other member => others other (List.mem_cons_of_mem _ member)).trans ?_
    rcases take_cases ledger turn with ⟨lost, same⟩ | clear
    · rw [same]
      exact Function.update_of_ne (others turn List.mem_cons_self) ..
    · rw [take_of_clear clear]
      rfl

/-- Who finds all its turns clear is not blocked. -/
theorem foldl_free (free : ledger.blocked key = none) (clear : ∀ turn ∈ turns, key = turn.key → ∀ claim ∈ turn.claims,
      ∀ entry ∈ (turns.foldl (take clash) ledger).reserved, entry.2 ≠ key → clash entry.1 claim = false) :
    (turns.foldl (take clash) ledger).blocked key = none := by
  induction turns generalizing ledger with
  | nil => exact free
  | cons turn rest ih =>
    refine ih ?_ fun later member => clear later (List.mem_cons_of_mem _ member)
    by_cases own : key = turn.key
    · rw [take_of_clear ⟨fun claim asked entry reserved different => ?_, fun _ => own ▸ free⟩]
      · exact free
      · exact clear turn List.mem_cons_self own claim asked entry
          ((extends_foldl (turn :: rest) ledger).reserved entry reserved) (own ▸ different)
    · exact (foldl_blocked_of_ne (by simpa using own) : ([turn].foldl (take clash) ledger).blocked key = _).trans free

/-- A reservation was made in some turn, in which no earlier one was in its way. -/
theorem mem_foldl (member : entry ∈ (turns.foldl (take clash) ledger).reserved) : entry ∈ ledger.reserved ∨
      (∃ turn ∈ turns, entry.2 = turn.key ∧ entry.1 ∈ turn.claims) ∧
        ∀ earlier ∈ ledger.reserved, earlier.2 ≠ entry.2 → clash earlier.1 entry.1 = false := by
  induction turns generalizing ledger with
  | nil => exact .inl member
  | cons turn rest ih =>
    rcases ih member with made | ⟨⟨source, later, found⟩, apart⟩
    · rcases take_cases ledger turn with ⟨lost, same⟩ | clear
      · rw [same] at made
        exact .inl made
      · rw [take_of_clear clear] at made
        refine (List.mem_append.mp made).imp_right fun new => ?_
        obtain ⟨claim, asked, rfl⟩ := List.mem_map.mp new
        exact ⟨⟨turn, List.mem_cons_self, rfl, asked⟩, clear.apart claim asked⟩
    · refine .inr ⟨⟨source, List.mem_cons_of_mem _ later, found⟩, fun earlier before => ?_⟩
      exact apart earlier ((extends_take ledger turn).reserved _ before)

end Ledger

/-! ## The settled ledger -/

section Settled

variable {clash} {claimants earlier later : List (Claimant κ γ)} {claimant other : Claimant κ γ}
  {claim : γ}

open Ledger

omit [DecidableEq κ] in
theorem mem_holds {turn : Turn κ γ} (member : turn ∈ claimants.flatMap Claimant.holds) :
    ∃ owner ∈ claimants, turn.key = owner.key ∧ ∀ claim ∈ turn.claims, claim ∈ owner.held := by
  obtain ⟨owner, listed, turned⟩ := List.mem_flatMap.mp member
  obtain ⟨claim, held, rfl⟩ := List.mem_map.mp turned
  exact ⟨owner, listed, rfl, by simpa using held⟩

theorem mem_settleHeld {entry : γ × κ} (member : entry ∈ (settleHeld clash claimants).reserved) :
    ∃ owner ∈ claimants, entry.2 = owner.key ∧ entry.1 ∈ owner.held := by
  rw [settleHeld_eq] at member
  rcases mem_foldl member with impossible | ⟨⟨turn, listed, key, claims⟩, -⟩
  · simp at impossible
  · obtain ⟨owner, member, same, held⟩ := mem_holds listed
    exact ⟨owner, member, key.trans same, held _ claims⟩

/-- A claim held by nobody earlier is reserved for its holder. -/
theorem settleHeld_reserves (order : claimants = earlier ++ claimant :: later) (held : claim ∈ claimant.held)
    (first : ∀ other ∈ earlier, other.key ≠ claimant.key → ∀ older ∈ other.held, clash older claim = false) :
    (claim, claimant.key) ∈ (settleHeld clash claimants).reserved := by
  obtain ⟨before, after, split⟩ := List.append_of_mem held
  let turn (claim : γ) : Turn κ γ := ⟨claimant.key, [claim], false⟩
  have turns : claimants.flatMap Claimant.holds = (earlier.flatMap Claimant.holds ++ before.map turn) ++
      turn claim :: (after.map turn ++ later.flatMap Claimant.holds) := by
    simp [order, split, Claimant.holds, turn]
  rw [settleHeld_eq, turns, List.foldl_append, List.foldl_cons]
  refine (extends_foldl _ _).reserved _ ?_
  rw [take_of_clear ⟨?_, by simp [turn]⟩]
  · simp [reserve, turn]
  · intro asked member entry reserved different
    cases List.mem_singleton.mp member
    rcases mem_foldl reserved with impossible | ⟨⟨source, listed, key, claims⟩, -⟩
    · simp at impossible
    · rcases List.mem_append.mp listed with old | own
      · obtain ⟨owner, member, same, held⟩ := mem_holds old
        exact first owner member (key.trans same ▸ different) entry.1 (held _ claims)
      · -- What the claimant reserved itself, just before, does not count against it.
        obtain ⟨_, -, rfl⟩ := List.mem_map.mp own
        exact absurd key different

variable (order : claimants = earlier ++ claimant :: later)

include order

/-- The ledger at the turn in which a claimant asks for what it declares. -/
theorem settle_turn : settle clash claimants = (later.map Claimant.declares).foldl (take clash)
    (((earlier.map Claimant.declares).foldl (take clash) (settleHeld clash claimants)).take clash claimant.declares) := by
  rw [settle_eq]
  generalize settleHeld clash claimants = start
  rw [order, List.map_append, List.map_cons, List.foldl_append, List.foldl_cons]

/-- A free claimant found its turn clear, and what it declares is reserved since. -/
theorem settle_free_turn (free : (settle clash claimants).blocked claimant.key = none) :
    ((earlier.map Claimant.declares).foldl (take clash) (settleHeld clash claimants)).Clear clash claimant.declares := by
  rw [settle_turn order] at free
  have turn := (extends_foldl _ _).blocked _ free
  refine (take_cases _ _).resolve_left ?_
  rintro ⟨lost, same⟩
  have blocked := turn.symm.trans (congrArg (Ledger.blocked · claimant.key) same)
  simp [block, Claimant.declares] at blocked

omit order

/-- A free claimant declares nothing that clashes with what another one holds
first. -/
theorem settle_apart_held (member : other ∈ claimants) (different : claimant.key ≠ other.key)
    (free : (settle clash claimants).blocked other.key = none)
    (reserved : (claim, claimant.key) ∈ (settleHeld clash claimants).reserved) :
    ∀ declared ∈ other.declared, clash claim declared = false := by
  obtain ⟨earlier, later, order⟩ := List.append_of_mem member
  intro declared listed
  exact (settle_free_turn order free).apart declared listed _ ((extends_foldl _ _).reserved _ reserved) different

include order

/-- Of two free claimants, the later one declares nothing that clashes with what
the earlier one declares. -/
theorem settle_apart_declared (member : other ∈ later) (different : claimant.key ≠ other.key)
    (free : (settle clash claimants).blocked claimant.key = none)
    (otherFree : (settle clash claimants).blocked other.key = none) (listed : claim ∈ claimant.declared) :
    ∀ declared ∈ other.declared, clash claim declared = false := by
  obtain ⟨between, rest, split⟩ := List.append_of_mem member
  have whole : claimants = (earlier ++ claimant :: between) ++ other :: rest := by
    rw [order, split, List.append_assoc, List.cons_append]
  intro declared named
  refine (settle_free_turn whole otherFree).apart declared named (claim, claimant.key) ?_ different
  rw [List.map_append, List.map_cons, List.foldl_append, List.foldl_cons, take_of_clear (settle_free_turn order free)]
  exact (extends_foldl _ _).reserved _ (List.mem_append_right _ (List.mem_map_of_mem listed))

/-- A claimant is free if nobody earlier holds what clashes with what it holds, and what
it declares is clear at its turn. -/
theorem settle_free_of_clear (alone : ∀ other ∈ earlier ++ later, claimant.key ≠ other.key)
    (heldApart : ∀ other ∈ earlier, ∀ claim ∈ other.held, ∀ own ∈ claimant.held, clash claim own = false)
    (clear : ∀ claim ∈ claimant.declared,
      ∀ entry ∈ ((earlier.map Claimant.declares).foldl (take clash) (settleHeld clash claimants)).reserved,
        entry.2 ≠ claimant.key → clash entry.1 claim = false) :
    (settle clash claimants).blocked claimant.key = none := by
  have earlierAlone := fun other member => alone other (List.mem_append_left later member)
  have laterAlone := fun other member => alone other (List.mem_append_right earlier member)
  have heldFree : (settleHeld clash claimants).blocked claimant.key = none := by
    rw [settleHeld_eq, order, List.flatMap_append, List.flatMap_cons, ← List.append_assoc, List.foldl_append,
      foldl_blocked_of_ne]
    · refine foldl_free rfl fun turn listed own claim asked entry reserved different => ?_
      rcases List.mem_append.mp listed with before | held
      · obtain ⟨owner, member, same, -⟩ := mem_holds before
        exact absurd (own.trans same) (earlierAlone owner member)
      · obtain ⟨_, kept, rfl⟩ := List.mem_map.mp held
        cases List.mem_singleton.mp asked
        rcases mem_foldl reserved with impossible | ⟨⟨source, listed, key, claims⟩, -⟩
        · simp at impossible
        · rcases List.mem_append.mp listed with before | self
          · obtain ⟨owner, member, -, theirs⟩ := mem_holds before
            exact heldApart owner member entry.1 (theirs _ claims) _ kept
          · obtain ⟨_, -, rfl⟩ := List.mem_map.mp self
            exact absurd key different
    · intro turn listed
      obtain ⟨owner, member, same, -⟩ := mem_holds listed
      exact same ▸ laterAlone owner member
  have turn : ((earlier.map Claimant.declares).foldl (take clash) (settleHeld clash claimants)).blocked claimant.key =
      none := by
    rw [foldl_blocked_of_ne (by simpa [Claimant.declares] using earlierAlone)]
    exact heldFree
  rw [settle_turn order, foldl_blocked_of_ne (by simpa [Claimant.declares] using laterAlone),
    take_of_clear ⟨clear, fun _ => turn⟩]
  exact turn

theorem mem_held_of_settleHeld {entry : γ × κ}
    (held : entry ∈ (settleHeld clash claimants).reserved) (different : entry.2 ≠ claimant.key) :
    ∃ owner ∈ earlier ++ later, entry.1 ∈ owner.held := by
  obtain ⟨owner, listed, key, kept⟩ := mem_settleHeld held
  refine ⟨owner, ?_, kept⟩
  rw [order] at listed
  rcases List.mem_append.mp listed with before | after
  · exact List.mem_append_left _ before
  · rcases List.mem_cons.mp after with rfl | after
    · exact absurd key different
    · exact List.mem_append_right _ after

/-- A claimant is free if nobody earlier holds what clashes with what it holds,
nobody else holds and nobody earlier declares what clashes with what it declares. -/
theorem settle_free (alone : ∀ other ∈ earlier ++ later, claimant.key ≠ other.key)
    (heldApart : ∀ other ∈ earlier, ∀ claim ∈ other.held, ∀ own ∈ claimant.held, clash claim own = false)
    (unheld : ∀ other ∈ earlier ++ later, ∀ claim ∈ other.held, ∀ own ∈ claimant.declared, clash claim own = false)
    (first : ∀ other ∈ earlier, ∀ claim ∈ other.declared, ∀ own ∈ claimant.declared, clash claim own = false) :
    (settle clash claimants).blocked claimant.key = none := by
  refine settle_free_of_clear order alone heldApart ?_
  intro own declared entry member different
  rcases mem_foldl member with held | ⟨⟨turn, listed, -, named⟩, -⟩
  · obtain ⟨owner, other, kept⟩ := mem_held_of_settleHeld order held different
    exact unheld owner other entry.1 kept own declared
  · obtain ⟨owner, before, rfl⟩ := List.mem_map.mp listed
    exact first owner before entry.1 named own declared

/-- A claimant that holds all it declares, and nobody else does, is free whatever others
declare. -/
theorem settle_incumbent (symmetric : ∀ first second, clash first second = clash second first)
    (alone : ∀ other ∈ earlier ++ later, claimant.key ≠ other.key)
    (holds : ∀ own ∈ claimant.declared, own ∈ claimant.held)
    (unheld : ∀ other ∈ earlier ++ later, ∀ claim ∈ other.held, ∀ own ∈ claimant.held, clash claim own = false) :
    (settle clash claimants).blocked claimant.key = none := by
  have before := fun other (member : other ∈ earlier) => unheld other (List.mem_append_left later member)
  refine settle_free_of_clear order alone before ?_
  intro own declared entry member different
  have reserved : (own, claimant.key) ∈ (settleHeld clash claimants).reserved :=
    settleHeld_reserves order (holds own declared) fun other listed _ claim held =>
      before other listed claim held own (holds own declared)
  rcases mem_foldl member with held | ⟨-, apart⟩
  · obtain ⟨owner, other, kept⟩ := mem_held_of_settleHeld order held different
    exact unheld owner other entry.1 kept own (holds own declared)
  · exact (symmetric _ _).trans (apart _ reserved different.symm)

omit order

end Settled

/-! ## Locality

Claimants that nobody outside a group can clash with are settled as if the group
were alone.
-/

section Locality

variable (inside : κ → Bool) (native : γ → Prop)

/-- `part` is what `full` says about the claimants inside, and no reservation from
outside clashes with a claim of theirs. -/
structure Restricts (full part : Ledger κ γ) : Prop where
  reserved : part.reserved = full.reserved.filter fun entry => inside entry.2
  blocked : ∀ key, inside key = true → part.blocked key = full.blocked key
  foreign : ∀ entry ∈ full.reserved, inside entry.2 = false →
    ∀ claim, native claim → clash entry.1 claim = false

variable {clash inside native} {full part : Ledger κ γ} {claim : γ} {turn : Turn κ γ}
  {turns : List (Turn κ γ)} {claimant : Claimant κ γ} {claimants : List (Claimant κ γ)}

namespace Restricts

variable (agree : Restricts clash inside native full part)

include agree

theorem ownerOf (key : κ) (own : native claim) : part.ownerOf clash key claim = full.ownerOf clash key claim := by
  simp only [Ledger.ownerOf, agree.reserved, List.find?_filter]
  congr 1
  apply List.find?_congr
  intro entry member
  cases within : inside entry.2 with
  | true => by_cases same : entry.2 = key <;> simp [same]
  | false => simp [agree.foreign entry member within claim own]

theorem conflict (own : ∀ claim ∈ claimant.declared, native claim) :
    part.conflict clash claimant = full.conflict clash claimant := by
  unfold Ledger.conflict
  generalize claimant.declared = claims at own
  induction claims with
  | nil => rfl
  | cons claim rest ih =>
    rw [List.findSome?_cons, List.findSome?_cons, agree.ownerOf _ (own claim List.mem_cons_self),
      ih fun later member => own later (List.mem_cons_of_mem _ member)]

/-- A turn of somebody inside, with claims of the group. -/
theorem take (within : inside turn.key = true) (own : ∀ claim ∈ turn.claims, native claim) :
    Restricts clash inside native (full.take clash turn) (part.take clash turn) := by
  simp only [Ledger.take, agree.blocked _ within, @conflict _ _ _ _ _ _ _ _ ⟨turn.key, [], turn.claims⟩ agree own]
  split
  · refine ⟨agree.reserved, fun key inner => ?_, agree.foreign⟩
    simp only [Ledger.block, Function.update_apply, agree.blocked key inner]
  · split
    · exact agree
    · have kept : ∀ entry ∈ turn.claims.map fun claim => (claim, turn.key), inside entry.2 = true := by
        simpa using fun _ _ => within
      refine ⟨?_, agree.blocked, fun entry member outside => ?_⟩
      · simp only [Ledger.reserve]
        rw [List.filter_append, List.filter_eq_self.mpr kept, agree.reserved]
      · refine (List.mem_append.mp member).elim (fun old => agree.foreign entry old outside) fun new => ?_
        rw [kept entry new] at outside
        contradiction

/-- A turn of somebody outside leaves the smaller ledger as it is. -/
theorem take_outside (outside : inside turn.key = false)
    (foreign : ∀ claim ∈ turn.claims, ∀ own, native own → clash claim own = false) :
    Restricts clash inside native (full.take clash turn) part := by
  rcases Ledger.take_cases full turn with ⟨lost, same⟩ | clear
  · rw [same]
    refine ⟨agree.reserved, fun key within => ?_, agree.foreign⟩
    have different : key ≠ turn.key := by
      rintro rfl
      rw [outside] at within
      contradiction
    simpa [Ledger.block, different] using agree.blocked key within
  · rw [Ledger.take_of_clear clear]
    have dropped : (turn.claims.map fun claim => (claim, turn.key)).filter (fun entry => inside entry.2) = [] := by
      simpa [List.filter_eq_nil_iff] using fun _ _ => outside
    refine ⟨?_, agree.blocked, fun entry member without own theirs => ?_⟩
    · simp only [Ledger.reserve]
      rw [List.filter_append, dropped, List.append_nil, agree.reserved]
    · rcases List.mem_append.mp member with old | new
      · exact agree.foreign entry old without own theirs
      · obtain ⟨claim, listed, rfl⟩ := List.mem_map.mp new
        exact foreign claim listed own theirs

theorem foldl (own : ∀ turn ∈ turns, inside turn.key = true → ∀ claim ∈ turn.claims, native claim)
    (foreign : ∀ turn ∈ turns, inside turn.key = false →
      ∀ claim ∈ turn.claims, ∀ own, native own → clash claim own = false) :
    Restricts clash inside native (turns.foldl (Ledger.take clash) full)
      ((turns.filter fun turn => inside turn.key).foldl (Ledger.take clash) part) := by
  induction turns generalizing full part with
  | nil => exact agree
  | cons turn rest ih =>
    have own' := fun later member => own later (List.mem_cons_of_mem turn member)
    have foreign' := fun later member => foreign later (List.mem_cons_of_mem turn member)
    rw [List.foldl_cons]
    cases within : inside turn.key with
    | true =>
      simp only [List.filter_cons, within, if_true, List.foldl_cons]
      exact ih (agree.take within (own turn List.mem_cons_self within)) own' foreign'
    | false =>
      simp only [List.filter_cons, within, Bool.false_eq_true, if_false]
      exact ih (agree.take_outside within (foreign turn List.mem_cons_self within)) own' foreign'

end Restricts

/-- The group settles alone as it does among everybody. -/
theorem settle_filter (own : ∀ claimant ∈ claimants, inside claimant.key = true →
      ∀ claim ∈ claimant.held ++ claimant.declared, native claim)
    (foreign : ∀ claimant ∈ claimants, inside claimant.key = false →
      ∀ claim ∈ claimant.held ++ claimant.declared, ∀ own, native own → clash claim own = false) :
    Restricts clash inside native (settle clash claimants)
      (settle clash (claimants.filter fun claimant => inside claimant.key)) := by
  have start : Restricts clash inside native ({} : Ledger κ γ) {} :=
    ⟨rfl, fun _ _ => rfl, by simp⟩
  have turns : ∀ claimants : List (Claimant κ γ), settle clash claimants =
      (claimants.flatMap Claimant.holds ++ claimants.map Claimant.declares).foldl (Ledger.take clash) {} := by
    intro claimants
    rw [List.foldl_append, ← Ledger.settleHeld_eq, ← Ledger.settle_eq]
  have asked : ∀ turn ∈ claimants.flatMap Claimant.holds ++ claimants.map Claimant.declares, ∃ claimant ∈ claimants,
      turn.key = claimant.key ∧ ∀ claim ∈ turn.claims, claim ∈ claimant.held ++ claimant.declared := by
    intro turn member
    rcases List.mem_append.mp member with held | declared
    · obtain ⟨claimant, listed, same, kept⟩ := mem_holds held
      exact ⟨claimant, listed, same, fun claim asked => List.mem_append_left _ (kept claim asked)⟩
    · obtain ⟨claimant, listed, rfl⟩ := List.mem_map.mp declared
      exact ⟨claimant, listed, rfl, fun claim asked => List.mem_append_right _ asked⟩
  have kept : ((claimants.filter fun claimant => inside claimant.key).flatMap Claimant.holds ++
      (claimants.filter fun claimant => inside claimant.key).map Claimant.declares) =
        (claimants.flatMap Claimant.holds ++ claimants.map Claimant.declares).filter fun turn => inside turn.key := by
    rw [List.filter_append, List.filter_map]
    congr 1
    clear own foreign asked
    induction claimants with
    | nil => rfl
    | cons claimant rest ih =>
      rw [List.flatMap_cons, List.filter_append, ← ih]
      cases within : inside claimant.key with
      | false => simp [within, Claimant.holds, List.filter_map]
      | true =>
        have all : claimant.holds.filter (fun turn => inside turn.key) = claimant.holds :=
          List.filter_eq_self.mpr (by simp [Claimant.holds, within])
        simp [within, all]
  rw [turns, turns, kept]
  refine start.foldl ?_ ?_
  · intro turn member within claim listed
    obtain ⟨claimant, among, same, held⟩ := asked turn member
    exact own claimant among (same ▸ within) claim (held claim listed)
  · intro turn member outside claim listed
    obtain ⟨claimant, among, same, held⟩ := asked turn member
    exact foreign claimant among (same ▸ outside) claim (held claim listed)

end Locality

end Banlieue.Data
