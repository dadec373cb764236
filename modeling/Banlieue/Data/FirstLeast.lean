import Mathlib.Order.Std
import Mathlib.Order.Lattice
import Mathlib.Data.List.Perm.Basic

namespace Banlieue.Data

/-! # The first least element of a list

`List.minOn?` keeps the earlier of two elements with equal keys.  Below, its
result among the elements that pass a test is the one that precedes all others.
-/

variable {α β γ : Type} [LinearOrder β]

theorem eq_nil_of_minOn?_eq_none {key : α → β} {list : List α} (missing : list.minOn? key = none) : list = [] := by
  by_contra filled
  have found : (list.minOn? key).isSome := List.isSome_minOn?_iff.mpr filled
  rw [missing] at found
  contradiction

/-- Smaller key first, and for equal keys the element that occurs first. -/
def Precedes [DecidableEq α] (key : α → β) (list : List α) (first second : α) : Prop :=
  key first < key second ∨ key first = key second ∧ list.idxOf first < list.idxOf second

/-- `chosen` passes the test and precedes everything else that passes it. -/
structure IsFirstLeast [DecidableEq α] (key : α → β) (list : List α) (test : α → Bool)
    (chosen : α) : Prop where
  mem : chosen ∈ list
  passes : test chosen = true
  precedes : ∀ other ∈ list, test other = true → other = chosen ∨ Precedes key list chosen other

section Order

variable [DecidableEq α] {key : α → β} {list : List α} {test : α → Bool} {first second : α}

theorem Precedes.le (precedes : Precedes key list first second) : key first ≤ key second := by
  rcases precedes with smaller | ⟨same, _⟩
  · exact smaller.le
  · exact same.le

theorem Precedes.asymm (forward : Precedes key list first second) : ¬ Precedes key list second first := by
  intro backward
  rcases forward with smaller | ⟨same, earlier⟩
  · exact absurd backward.le smaller.not_ge
  · rcases backward with larger | ⟨_, later⟩
    · exact absurd same larger.ne'
    · omega

theorem IsFirstLeast.unique (left : IsFirstLeast key list test first)
    (right : IsFirstLeast key list test second) : first = second := by
  rcases left.precedes second right.mem right.passes with same | ahead
  · exact same.symm
  rcases right.precedes first left.mem left.passes with same | behind
  · exact same
  exact absurd behind ahead.asymm

/-- Elements in front of the list do not disturb the order of the rest. -/
theorem precedes_cons {head : α} (apartFirst : first ≠ head) (apartSecond : second ≠ head) :
    Precedes key (head :: list) first second ↔ Precedes key list first second := by
  simp only [Precedes, List.idxOf_cons, beq_false_of_ne apartFirst.symm,
    beq_false_of_ne apartSecond.symm, cond_false, Nat.add_lt_add_iff_right]

theorem precedes_head {head : α} (notLarger : key head ≤ key second) (apart : second ≠ head) :
    Precedes key (head :: list) head second := by
  rcases notLarger.lt_or_eq with smaller | same
  · exact .inl smaller
  · refine .inr ⟨same, ?_⟩
    simp [List.idxOf_cons, beq_false_of_ne apart.symm]

theorem isFirstLeast_cons_of_not_pass {head : α} (fails : test head = false) :
    IsFirstLeast key (head :: list) test first ↔ IsFirstLeast key list test first := by
  have apart : ∀ other, test other = true → other ≠ head := by
    rintro other passes rfl
    rw [fails] at passes
    contradiction
  constructor
  · intro chosen
    have notHead := apart first chosen.passes
    refine ⟨(List.mem_cons.mp chosen.mem).resolve_left notHead, chosen.passes, ?_⟩
    intro other member passes
    exact (chosen.precedes other (List.mem_cons_of_mem _ member) passes).imp_right
      (precedes_cons notHead (apart other passes)).mp
  · intro chosen
    refine ⟨List.mem_cons_of_mem _ chosen.mem, chosen.passes, ?_⟩
    intro other member passes
    have member := (List.mem_cons.mp member).resolve_left (apart other passes)
    exact (chosen.precedes other member passes).imp_right
      (precedes_cons (apart first chosen.passes) (apart other passes)).mpr

/-- The choice among the elements that pass the test exists whenever one does. -/
theorem minOn?_filter_isFirstLeast (found : (list.filter test).minOn? key = some first) :
    IsFirstLeast key list test first := by
  induction list generalizing first with
  | nil => simp at found
  | cons head rest ih =>
    by_cases passes : test head = true
    · rw [List.filter_cons_of_pos passes, List.minOn?_cons, Option.some.injEq] at found
      cases tail : (rest.filter test).minOn? key with
      | none =>
        have nothing : rest.filter test = [] := eq_nil_of_minOn?_eq_none tail
        rw [tail, Option.elim_none] at found
        subst found
        refine ⟨List.mem_cons_self, passes, ?_⟩
        intro other member passesOther
        rcases List.mem_cons.mp member with same | member
        · exact .inl same
        · have kept : other ∈ rest.filter test := List.mem_filter.mpr ⟨member, passesOther⟩
          rw [nothing] at kept
          contradiction
      | some least =>
        have leads := ih tail
        rw [tail, Option.elim_some, minOn] at found
        split at found
        · rename_i notLarger
          subst found
          refine ⟨List.mem_cons_self, passes, ?_⟩
          intro other member passesOther
          rcases List.mem_cons.mp member with same | member
          · exact .inl same
          by_cases same : other = head
          · exact .inl same
          refine .inr (precedes_head ?_ same)
          rcases leads.precedes other member passesOther with rfl | behind
          · exact notLarger
          · exact notLarger.trans behind.le
        · rename_i larger
          subst found
          have smaller : key least < key head := lt_of_not_ge larger
          have apart : least ≠ head := by
            rintro rfl
            exact lt_irrefl _ smaller
          refine ⟨List.mem_cons_of_mem _ leads.mem, leads.passes, ?_⟩
          intro other member passesOther
          by_cases same : other = head
          · subst same
            exact .inr (.inl smaller)
          have member := (List.mem_cons.mp member).resolve_left same
          exact (leads.precedes other member passesOther).imp_right (precedes_cons apart same).mpr
    · rw [List.filter_cons_of_neg passes] at found
      exact (isFirstLeast_cons_of_not_pass (by simpa using passes)).mpr (ih found)

theorem minOn?_filter_eq_some_iff : (list.filter test).minOn? key = some first ↔ IsFirstLeast key list test first := by
  constructor
  · exact minOn?_filter_isFirstLeast
  · intro chosen
    cases found : (list.filter test).minOn? key with
    | none =>
      have nothing : list.filter test = [] := eq_nil_of_minOn?_eq_none found
      have kept : first ∈ list.filter test := List.mem_filter.mpr ⟨chosen.mem, chosen.passes⟩
      rw [nothing] at kept
      contradiction
    | some other => rw [(minOn?_filter_isFirstLeast found).unique chosen]

end Order

/-- When equal keys mean equal elements, the least element does not depend on
the order of the list. -/
theorem minOn?_map_eq_of_perm (view : α → γ) (key : α → β) (rank : γ → β) (left right : List α)
    (ranked : ∀ element, key element = rank (view element)) (same : (left.map view).Perm (right.map view))
    (injective : ∀ first ∈ left, ∀ second ∈ left, key first = key second → view first = view second) :
    (left.minOn? key).map view = (right.minOn? key).map view := by
  cases chosen : left.minOn? key with
  | none =>
    have empty : left = [] := eq_nil_of_minOn?_eq_none chosen
    subst empty
    have none : right = [] := by simpa using same
    simp [none]
  | some first =>
    have member := List.minOn?_mem chosen
    obtain ⟨image, imageMember, imageView⟩ := List.mem_map.mp (same.subset (List.mem_map_of_mem member))
    cases other : right.minOn? key with
    | none =>
      have empty : right = [] := eq_nil_of_minOn?_eq_none other
      rw [empty] at imageMember
      contradiction
    | some second =>
      obtain ⟨source, sourceMember, sourceView⟩ :=
        List.mem_map.mp (same.symm.subset (List.mem_map_of_mem (List.minOn?_mem other)))
      have below : key first ≤ key source := by
        have least := List.apply_get_minOn?_le_of_mem (f := key) sourceMember
        simpa [chosen] using least
      have above : key second ≤ key image := by
        have least := List.apply_get_minOn?_le_of_mem (f := key) imageMember
        simpa [other] using least
      have equal : key first = key source := by
        refine le_antisymm below ?_
        rw [ranked source, sourceView, ← ranked second]
        refine above.trans ?_
        rw [ranked image, imageView, ← ranked first]
      simp only [Option.map_some, Option.some.injEq]
      rw [injective first member source sourceMember equal, sourceView]

end Banlieue.Data
