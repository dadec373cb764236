import Mathlib.Data.List.Sort
import Banlieue.Api.Common

namespace Banlieue.Sdk

open Banlieue.Api

/-! # Condition lists -/

namespace ConditionStatus

def true : String := "True"

def false : String := "False"

def unknown : String := "Unknown"

theorem false_ne_true : ConditionStatus.false ≠ ConditionStatus.true := by
  decide

end ConditionStatus

/-- Update the first condition of that type, or add one; the list is kept sorted
by type, and the transition time moves only when the status does. -/
def setCondition (conditions : List Condition) (type status reason message : String)
    (observedGeneration : Int) (now : Timestamp) : List Condition :=
  let update (existing : Condition) : Condition :=
    { existing with
      status := status
      reason := reason
      message := message
      observedGeneration := some observedGeneration
      lastTransitionTime := if existing.status = status then existing.lastTransitionTime else now }
  let added : Condition :=
    { type := type
      status := status
      reason := reason
      message := message
      observedGeneration := some observedGeneration
      lastTransitionTime := now }
  let updated :=
    match conditions.findIdx? (·.type == type) with
    | some index => conditions.modify index update
    | none => conditions ++ [added]
  updated.insertionSort (·.type ≤ ·.type)

def isConditionTrue (conditions : List Condition) (type : String) : Bool :=
  conditions.any fun condition => condition.type == type && condition.status == ConditionStatus.true

def findCondition (conditions : List Condition) (type : String) : Option Condition :=
  conditions.find? (·.type == type)

/-- What the static interfaces of a machine declare; one that uses DHCP declares nothing. -/
def declaredAddresses (ipams : List IpamSpec) : List MachineAddress :=
  (ipams.filterMap IpamSpec.static).map fun config => ⟨.internalIP, config.address⟩

/-- The subject of the certificate that is issued to a machine's TPM. -/
def expectedEkCn (domainName domainUuid : String) : String := domainName ++ ":" ++ domainUuid

/-- No two conditions of one type. -/
def UniqueTypes (conditions : List Condition) : Prop := (conditions.map Condition.type).Nodup

instance (conditions : List Condition) : Decidable (UniqueTypes conditions) :=
  inferInstanceAs (Decidable (List.Nodup _))

/-! ## Setting a condition -/

section

variable {conditions : List Condition} {type status reason message : String} {generation : Int}
  {now : Timestamp}

theorem setCondition_perm_of_missing (missing : type ∉ conditions.map Condition.type) :
    (setCondition conditions type status reason message generation now).Perm
      (conditions ++ [⟨type, status, reason, message, some generation, now⟩]) := by
  have absent : conditions.findIdx? (·.type == type) = none := by
    rw [List.findIdx?_eq_none_iff]
    intro condition member
    exact beq_false_of_ne fun same => missing (same ▸ List.mem_map_of_mem member)
  simp only [setCondition, absent]
  exact List.perm_insertionSort _ _

theorem findCondition_orderedInsert (condition : Condition) (conditions : List Condition) (type : String) :
    findCondition (conditions.orderedInsert (·.type ≤ ·.type) condition) type =
      findCondition (condition :: conditions) type := by
  induction conditions with
  | nil => rfl
  | cons first rest ih =>
    rw [List.orderedInsert_cons]
    split
    · rfl
    · rename_i later
      simp only [findCondition, List.find?_cons] at ih ⊢
      rw [ih]
      by_cases here : first.type = type
      · have apart : (condition.type == type) = false := beq_false_of_ne fun same => later (same.trans here.symm).le
        rw [here, beq_self_eq_true, apart]
      · rw [beq_false_of_ne here]

theorem findCondition_insertionSort (conditions : List Condition) (type : String) :
    findCondition (conditions.insertionSort (·.type ≤ ·.type)) type = findCondition conditions type := by
  induction conditions with
  | nil => rfl
  | cons first rest ih =>
    rw [List.insertionSort_cons, findCondition_orderedInsert]
    simp only [findCondition, List.find?_cons] at ih ⊢
    rw [ih]

theorem findCondition_modify {index : Nat} {change : Condition → Condition} {other : String}
    (keeps : ∀ condition, (change condition).type = condition.type)
    (first : conditions.findIdx? (·.type == type) = some index) :
    findCondition (conditions.modify index change) other =
      if other = type then (findCondition conditions other).map change else findCondition conditions other := by
  induction conditions generalizing index with
  | nil => simp at first
  | cons head rest ih =>
    rw [List.findIdx?_cons] at first
    by_cases here : head.type = type
    · simp only [here, beq_self_eq_true, if_true, Option.some.injEq] at first
      subst index
      by_cases same : other = type
      · simp [findCondition, keeps, here, same]
      · have apart : (type == other) = false := beq_false_of_ne (Ne.symm same)
        simp [findCondition, keeps, here, apart, same]
    · simp only [beq_false_of_ne here, Bool.false_eq_true, if_false, Option.map_eq_some_iff] at first
      obtain ⟨later, found, rfl⟩ := first
      simp only [findCondition, List.modify_succ_cons, List.find?_cons] at ih ⊢
      rw [ih found]
      by_cases same : other = type
      · simp [same, beq_false_of_ne here]
      · simp only [same, if_false]

theorem findCondition_setCondition_of_ne {other : String} (different : other ≠ type) :
    findCondition (setCondition conditions type status reason message generation now) other =
      findCondition conditions other := by
  simp only [setCondition]
  rw [findCondition_insertionSort]
  cases first : conditions.findIdx? (·.type == type) with
  | some index =>
    dsimp only
    rw [findCondition_modify ?keeps first, if_neg different]
    case keeps => exact fun _ => rfl
  | none =>
    have apart : (type == other) = false := beq_false_of_ne different.symm
    simp [findCondition, List.find?_append, apart]

theorem status_findCondition_setCondition_self :
    (findCondition (setCondition conditions type status reason message generation now) type).map
      Condition.status = some status := by
  simp only [setCondition]
  rw [findCondition_insertionSort]
  cases first : conditions.findIdx? (·.type == type) with
  | some index =>
    dsimp only
    rw [findCondition_modify ?keeps first, if_pos rfl]
    case keeps => exact fun _ => rfl
    obtain ⟨bound, here, -⟩ := List.findIdx?_eq_some_iff_getElem.mp first
    cases found : findCondition conditions type with
    | some condition => rfl
    | none =>
      have absent := List.find?_eq_none.mp found _ (List.getElem_mem bound)
      exact absurd here absent
  | none =>
    have missing : conditions.find? (·.type == type) = none := by
      rw [List.find?_eq_none]
      intro condition member
      simpa using List.findIdx?_eq_none_iff.mp first condition member
    simp [findCondition, List.find?_append, missing]

theorem types_setCondition_of_mem (member : type ∈ conditions.map Condition.type) :
    ((setCondition conditions type status reason message generation now).map Condition.type).Perm
      (conditions.map Condition.type) := by
  cases first : conditions.findIdx? (·.type == type) with
  | none =>
    obtain ⟨condition, inside, same⟩ := List.mem_map.mp member
    have absent := List.findIdx?_eq_none_iff.mp first condition inside
    simp [same] at absent
  | some index =>
    simp only [setCondition, first]
    refine ((List.perm_insertionSort _ _).map _).trans (List.Perm.of_eq ?_)
    refine List.ext_getElem? fun place => ?_
    simp only [List.getElem?_map, List.getElem?_modify]
    split <;> cases conditions[place]? <;> rfl

theorem UniqueTypes.setCondition (unique : UniqueTypes conditions) :
    UniqueTypes (Sdk.setCondition conditions type status reason message generation now) := by
  by_cases member : type ∈ conditions.map Condition.type
  · exact (types_setCondition_of_mem member).nodup_iff.mpr unique
  · refine ((setCondition_perm_of_missing member).map Condition.type).nodup_iff.mpr ?_
    rw [List.map_append]
    refine List.nodup_append.mpr ⟨unique, List.nodup_singleton _, fun other inside last equal same => ?_⟩
    rw [same, List.mem_singleton.mp equal] at inside
    exact member inside

theorem setCondition_nil :
    setCondition [] type status reason message generation now =
      [⟨type, status, reason, message, some generation, now⟩] := rfl

/-! ## Reading a condition -/

theorem isConditionTrue_of_findCondition
    (found : (findCondition conditions type).map Condition.status = some ConditionStatus.true) :
    isConditionTrue conditions type = true := by
  obtain ⟨condition, first, holds⟩ := Option.map_eq_some_iff.mp found
  have here : (condition.type == type) = true :=
    List.find?_some (p := fun condition : Condition => condition.type == type) first
  refine List.any_eq_true.mpr ⟨condition, List.mem_of_find?_eq_some first, ?_⟩
  rw [here, holds]
  rfl

theorem findCondition_of_isConditionTrue (unique : UniqueTypes conditions)
    (holds : isConditionTrue conditions type = true) :
    (findCondition conditions type).map Condition.status = some ConditionStatus.true := by
  obtain ⟨condition, member, same⟩ := List.any_eq_true.mp holds
  simp only [Bool.and_eq_true, beq_iff_eq] at same
  have first : findCondition conditions type = some condition := by
    cases found : findCondition conditions type with
    | none => exact absurd same.1 (by simpa using List.find?_eq_none.mp found condition member)
    | some other =>
      have here : other.type = type := by simpa using List.find?_some found
      exact congrArg some (List.inj_on_of_nodup_map unique (List.mem_of_find?_eq_some found) member
        (here.trans same.1.symm))
  rw [first, Option.map_some, same.2]

theorem isConditionTrue_iff (unique : UniqueTypes conditions) : isConditionTrue conditions type = true ↔
    (findCondition conditions type).map Condition.status = some ConditionStatus.true :=
  ⟨findCondition_of_isConditionTrue unique, isConditionTrue_of_findCondition⟩

theorem isConditionTrue_setCondition (unique : UniqueTypes conditions) {other : String} :
    isConditionTrue (setCondition conditions type status reason message generation now) other = true ↔
      if other = type then status = ConditionStatus.true else isConditionTrue conditions other = true := by
  rw [isConditionTrue_iff unique.setCondition]
  split
  · subst other
    rw [status_findCondition_setCondition_self, Option.some.injEq]
  · rw [findCondition_setCondition_of_ne ‹_›, isConditionTrue_iff unique]

end

end Banlieue.Sdk
