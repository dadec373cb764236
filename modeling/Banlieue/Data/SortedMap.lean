import Mathlib.Data.List.Sort
import Mathlib.Data.String.Basic

namespace Banlieue.Data

/-- A finite map as the list of its entries in increasing key order, which is
also the order in which it is iterated. -/
structure SortedMap (κ β : Type) [LT κ] where
  entries : List (κ × β)
  increasing : (entries.map Prod.fst).Pairwise (· < ·)
deriving DecidableEq

namespace SortedMap

section Lookup

variable {κ β : Type} [LT κ]

def empty : SortedMap κ β := ⟨[], .nil⟩

instance : Inhabited (SortedMap κ β) := ⟨empty⟩

def get [BEq κ] (map : SortedMap κ β) (key : κ) : Option β :=
  map.entries.lookup key

def containsKey [BEq κ] (map : SortedMap κ β) (key : κ) : Bool :=
  (map.get key).isSome

def firstValue (map : SortedMap κ β) : Option β :=
  map.entries.head?.map Prod.snd

theorem get_eq_some_iff [BEq κ] [LawfulBEq κ] [Std.Irrefl (α := κ) (· < ·)] {map : SortedMap κ β}
    {key : κ} {value : β} : map.get key = some value ↔ (key, value) ∈ map.entries := by
  obtain ⟨entries, increasing⟩ := map
  change entries.lookup key = some value ↔ (key, value) ∈ entries
  induction entries with
  | nil => simp
  | cons entry rest ih =>
    obtain ⟨first, tail⟩ := List.pairwise_cons.mp increasing
    rw [List.lookup_cons]
    cases same : key == entry.1 with
    | true =>
      obtain rfl := eq_of_beq same
      simp only [Option.some.injEq, List.mem_cons]
      constructor
      · rintro rfl
        exact .inl rfl
      · rintro (equal | later)
        · exact congrArg Prod.snd equal.symm
        · exact absurd (first _ (List.mem_map_of_mem later)) (Std.Irrefl.irrefl _)
    | false =>
      rw [ih tail, List.mem_cons]
      refine ⟨.inr, fun member => member.resolve_left ?_⟩
      rintro rfl
      simp at same

end Lookup

variable {κ β : Type} [LinearOrder κ]

def insertEntry (key : κ) (value : β) : List (κ × β) → List (κ × β)
  | [] => [(key, value)]
  | entry :: rest =>
    if key < entry.1 then (key, value) :: entry :: rest
    else if key = entry.1 then (key, value) :: rest
    else entry :: insertEntry key value rest

variable {key other : κ} {value : β} {entries : List (κ × β)}

theorem mem_insertEntry_keys (member : other ∈ (insertEntry key value entries).map Prod.fst) :
    other = key ∨ other ∈ entries.map Prod.fst := by
  induction entries with
  | nil => simpa [insertEntry] using member
  | cons entry rest ih =>
    simp only [insertEntry] at member
    split at member
    · simpa using member
    · split at member
      · simp only [List.map_cons, List.mem_cons] at member ⊢
        exact member.imp_right .inr
      · simp only [List.map_cons, List.mem_cons] at member ⊢
        rcases member with same | later
        · exact .inr (.inl same)
        · exact (ih later).imp_right .inr

theorem insertEntry_increasing (increasing : (entries.map Prod.fst).Pairwise (· < ·)) :
    ((insertEntry key value entries).map Prod.fst).Pairwise (· < ·) := by
  induction entries with
  | nil => simp [insertEntry]
  | cons entry rest ih =>
    obtain ⟨first, tail⟩ := List.pairwise_cons.mp increasing
    simp only [insertEntry]
    split
    · rename_i smaller
      refine .cons ?_ increasing
      intro other member
      rcases List.mem_cons.mp member with rfl | later
      · exact smaller
      · exact smaller.trans (first other later)
    · rename_i notSmaller
      split
      · rename_i same
        rw [same]
        exact .cons first tail
      · rename_i different
        have larger : entry.1 < key := lt_of_le_of_ne (le_of_not_gt notSmaller) (Ne.symm different)
        refine .cons ?_ (ih tail)
        intro other member
        rcases mem_insertEntry_keys member with rfl | old
        · exact larger
        · exact first other old

def insert (map : SortedMap κ β) (key : κ) (value : β) : SortedMap κ β :=
  ⟨insertEntry key value map.entries, insertEntry_increasing map.increasing⟩

/-- Later entries replace earlier ones of the same key. -/
def ofList (entries : List (κ × β)) : SortedMap κ β :=
  entries.foldl (fun map entry => map.insert entry.1 entry.2) empty

@[simp] theorem get_insert_self [BEq κ] [LawfulBEq κ] (map : SortedMap κ β) (key : κ) (value : β) :
    (map.insert key value).get key = some value := by
  obtain ⟨entries, increasing⟩ := map
  change (insertEntry key value entries).lookup key = some value
  clear increasing
  induction entries with
  | nil => simp [insertEntry]
  | cons entry rest ih =>
    simp only [insertEntry]
    split
    · simp
    · split
      · simp
      · rename_i different
        rw [List.lookup_cons, beq_false_of_ne different]
        exact ih

theorem get_insert_of_ne [BEq κ] [LawfulBEq κ] (map : SortedMap κ β) (value : β)
    (different : other ≠ key) : (map.insert key value).get other = map.get other := by
  obtain ⟨entries, increasing⟩ := map
  change (insertEntry key value entries).lookup other = entries.lookup other
  clear increasing
  induction entries with
  | nil => simp [insertEntry, List.lookup_cons, beq_false_of_ne different]
  | cons entry rest ih =>
    simp only [insertEntry]
    split
    · rw [List.lookup_cons, beq_false_of_ne different]
    · split
      · rename_i same
        rw [List.lookup_cons, List.lookup_cons, beq_false_of_ne different, ← same, beq_false_of_ne different]
      · rw [List.lookup_cons, List.lookup_cons, ih]

end SortedMap

end Banlieue.Data
