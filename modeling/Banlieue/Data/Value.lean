import Mathlib.Data.Nat.Pairing
import Mathlib.Data.Countable.Defs
import Banlieue.Data.Basics

namespace Banlieue.Data

/-! # Document values

What JSON and YAML documents are read into.  An object is the list of its fields; a
value is well formed when no object in it has two fields of one key.
-/

inductive Value where
  | null
  | bool (value : Bool)
  | number (digits : String)
  | string (text : String)
  | array (entries : List Value)
  | object (fields : List (String × Value))

instance : Inhabited Value := ⟨.null⟩

/-- The field of that key becomes the value; it is appended where there is none. -/
def setField (key : String) (value : Value) : List (String × Value) → List (String × Value)
  | [] => [(key, value)]
  | (name, old) :: rest => if name = key then (name, value) :: rest else (name, old) :: setField key value rest

theorem lookup_setField_self (key : String) (value : Value) (fields : List (String × Value)) :
    (setField key value fields).lookup key = some value := by
  induction fields with
  | nil => simp [setField]
  | cons field rest ih =>
    obtain ⟨name, old⟩ := field
    simp only [setField]
    split
    · rename_i same
      rw [same, List.lookup_cons_self]
    · rename_i different
      have other : (key == name) = false := beq_false_of_ne (Ne.symm different)
      simp [List.lookup_cons, other, ih]

variable {key : String}

theorem lookup_setField_ne {other : String} (different : other ≠ key) (value : Value)
    (fields : List (String × Value)) : (setField key value fields).lookup other = fields.lookup other := by
  have other_ne : (other == key) = false := beq_false_of_ne different
  induction fields with
  | nil => simp [setField, List.lookup_cons, other_ne]
  | cons field rest ih =>
    obtain ⟨name, old⟩ := field
    simp only [setField]
    split
    · rename_i same
      simp [List.lookup_cons, same, other_ne]
    · simp only [List.lookup_cons, ih]

variable {fields : List (String × Value)} {value : Value}

theorem mem_setField {field : String × Value}
    (member : field ∈ setField key value fields) : field = (key, value) ∨ field ∈ fields := by
  induction fields with
  | nil => exact .inl (List.mem_singleton.mp member)
  | cons head rest ih =>
    simp only [setField] at member
    split at member
    · rename_i same
      rcases List.mem_cons.mp member with rfl | member
      · exact .inl (by rw [same])
      · exact .inr (List.mem_cons_of_mem _ member)
    · rcases List.mem_cons.mp member with rfl | member
      · exact .inr List.mem_cons_self
      · exact (ih member).imp_right (List.mem_cons_of_mem _)

theorem nodup_setField (distinct : (fields.map Prod.fst).Nodup) : ((setField key value fields).map Prod.fst).Nodup := by
  induction fields with
  | nil => simp [setField]
  | cons head rest ih =>
    simp only [List.map_cons, List.nodup_cons] at distinct
    simp only [setField]
    split
    · exact List.nodup_cons.mpr distinct
    · rename_i different
      refine List.nodup_cons.mpr ⟨fun member => ?_, ih distinct.2⟩
      obtain ⟨field, member, same⟩ := List.mem_map.mp member
      rcases mem_setField member with rfl | member
      · exact different same.symm
      · exact distinct.1 (same ▸ List.mem_map_of_mem member)

theorem mem_of_lookup (found : fields.lookup key = some value) : (key, value) ∈ fields := by
  obtain ⟨before, after, rfl, -⟩ := List.lookup_eq_some_iff.mp found
  exact List.mem_append_right _ List.mem_cons_self

theorem lookup_eq_none_of_notMem (absent : key ∉ fields.map Prod.fst) : fields.lookup key = none := by
  cases found : fields.lookup key with
  | none => rfl
  | some value => exact absurd (List.mem_map_of_mem (mem_of_lookup found)) absent

namespace Value

def get : Value → String → Option Value
  | .object fields, key => fields.lookup key
  | _, _ => none

def isNull : Value → Bool
  | .null => true
  | _ => false

theorem eq_null_of_isNull (null : value.isNull = true) : value = .null := by
  cases value <;> first | rfl | cases null

theorem ne_null_of_isNull (something : ¬value.isNull = true) : value ≠ .null := by
  rintro rfl
  exact something rfl

def asArray : Value → Option (List Value)
  | .array entries => some entries
  | _ => none

def asStr : Value → Option String
  | .string text => some text
  | _ => none

mutual

def WellFormed : Value → Prop
  | .array entries => AllWellFormed entries
  | .object fields => (fields.map Prod.fst).Nodup ∧ FieldsWellFormed fields
  | _ => True

def AllWellFormed : List Value → Prop
  | [] => True
  | entry :: rest => entry.WellFormed ∧ AllWellFormed rest

def FieldsWellFormed : List (String × Value) → Prop
  | [] => True
  | (_, value) :: rest => value.WellFormed ∧ FieldsWellFormed rest

end

theorem allWellFormed_iff {entries : List Value} : AllWellFormed entries ↔ ∀ entry ∈ entries, entry.WellFormed := by
  induction entries with
  | nil => simp [AllWellFormed]
  | cons entry rest ih => simp [AllWellFormed, ih]

theorem fieldsWellFormed_iff : FieldsWellFormed fields ↔ ∀ field ∈ fields, field.2.WellFormed := by
  induction fields with
  | nil => simp [FieldsWellFormed]
  | cons field rest ih => simp [FieldsWellFormed, ih]

theorem wellFormed_array {entries : List Value} :
    (Value.array entries).WellFormed ↔ ∀ entry ∈ entries, entry.WellFormed := by
  rw [WellFormed, allWellFormed_iff]

theorem wellFormed_object : (Value.object fields).WellFormed ↔
      (fields.map Prod.fst).Nodup ∧ ∀ field ∈ fields, field.2.WellFormed := by
  rw [WellFormed, fieldsWellFormed_iff]

theorem wellFormed_get {found : Value} (wellFormed : value.WellFormed)
    (field : value.get key = some found) : found.WellFormed := by
  cases value with
  | object fields => exact (wellFormed_object.mp wellFormed).2 _ (mem_of_lookup field)
  | _ => cases field

/-! ## Values as numbers

There is a faithful text for every value, since there is a number for every value.
-/

def textCode (text : String) : Nat := text.toList.foldr (fun char code => Nat.pair char.toNat code + 1) 0

theorem textCode_injective : Function.Injective textCode := by
  intro first second same
  refine String.toList_inj.mp ?_
  unfold textCode at same
  generalize first.toList = chars at same
  generalize second.toList = others at same
  induction chars generalizing others with
  | nil => cases others with
    | nil => rfl
    | cons other rest => cases same
  | cons char rest ih => cases others with
    | nil => cases same
    | cons other others =>
      obtain ⟨head, tail⟩ := Nat.pair_eq_pair.mp (Nat.succ.inj same)
      rw [Char.toNat_inj.mp head, ih others tail]

mutual

def code : Value → Nat
  | .null => Nat.pair 0 0
  | .bool value => Nat.pair 1 value.toNat
  | .number digits => Nat.pair 2 (textCode digits)
  | .string text => Nat.pair 3 (textCode text)
  | .array entries => Nat.pair 4 (entriesCode entries)
  | .object fields => Nat.pair 5 (fieldsCode fields)

def entriesCode : List Value → Nat
  | [] => 0
  | entry :: rest => Nat.pair entry.code (entriesCode rest) + 1

def fieldsCode : List (String × Value) → Nat
  | [] => 0
  | (key, value) :: rest => Nat.pair (textCode key) (Nat.pair value.code (fieldsCode rest)) + 1

end

mutual

theorem code_inj : ∀ first second : Value, first.code = second.code → first = second
  | .null, second, same => by
    cases second <;> simp [code, Nat.pair_eq_pair] at same ⊢
  | .bool value, second, same => by
    cases second <;> simp [code, Nat.pair_eq_pair] at same ⊢
    have inj : ∀ first second : Bool, first.toNat = second.toNat → first = second := by decide
    exact inj _ _ same
  | .number digits, second, same => by
    cases second <;> simp [code, Nat.pair_eq_pair] at same ⊢
    exact textCode_injective same
  | .string text, second, same => by
    cases second <;> simp [code, Nat.pair_eq_pair] at same ⊢
    exact textCode_injective same
  | .array entries, second, same => by
    cases second <;> simp [code, Nat.pair_eq_pair] at same ⊢
    exact entriesCode_inj entries _ same
  | .object fields, second, same => by
    cases second <;> simp [code, Nat.pair_eq_pair] at same ⊢
    exact fieldsCode_inj fields _ same

theorem entriesCode_inj : ∀ first second : List Value, entriesCode first = entriesCode second → first = second
  | [], [], _ => rfl
  | [], _ :: _, same => by simp [entriesCode] at same
  | _ :: _, [], same => by simp [entriesCode] at same
  | entry :: rest, other :: others, same => by
    obtain ⟨head, tail⟩ := Nat.pair_eq_pair.mp (Nat.succ.inj same)
    rw [code_inj entry other head, entriesCode_inj rest others tail]

theorem fieldsCode_inj : ∀ first second : List (String × Value), fieldsCode first = fieldsCode second → first = second
  | [], [], _ => rfl
  | [], _ :: _, same => by simp [fieldsCode] at same
  | _ :: _, [], same => by simp [fieldsCode] at same
  | (key, value) :: rest, (other, found) :: others, same => by
    obtain ⟨head, tail⟩ := Nat.pair_eq_pair.mp (Nat.succ.inj same)
    obtain ⟨middle, tail⟩ := Nat.pair_eq_pair.mp tail
    rw [textCode_injective head, code_inj value found middle, fieldsCode_inj rest others tail]

end

end Value

end Banlieue.Data
