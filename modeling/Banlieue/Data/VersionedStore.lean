import Mathlib.Data.List.AList

namespace Banlieue.Data

/-! # A store with optimistic concurrency

Every write gives the object it writes the next revision of the store as its
version.  A writer that names the version it read succeeds only if nobody wrote
the object in between.
-/

structure Versioned (α : Type) where
  version : Nat
  value : α
deriving DecidableEq

structure VersionedStore (κ α : Type) where
  revision : Nat
  objects : AList (fun _ : κ => Versioned α)
  bounded : ∀ entry ∈ objects.entries, entry.2.version ≤ revision

namespace VersionedStore

variable {κ α : Type} [DecidableEq κ] {store : VersionedStore κ α} {key other : κ}
  {object : Versioned α} {value seen : α} {version : Nat}

def empty : VersionedStore κ α := ⟨0, ∅, by simp⟩

def get (store : VersionedStore κ α) (key : κ) : Option (Versioned α) :=
  store.objects.lookup key

def list (store : VersionedStore κ α) : List (κ × Versioned α) :=
  store.objects.entries.map fun entry => (entry.1, entry.2)

theorem mem_list : (key, object) ∈ store.list ↔ store.get key = some object := by
  rw [get, ← Option.mem_def, AList.mem_lookup_iff]
  simp only [list, List.mem_map, Prod.mk.injEq]
  constructor
  · rintro ⟨entry, member, rfl, rfl⟩
    exact member
  · intro member
    exact ⟨⟨key, object⟩, member, rfl, rfl⟩

theorem version_le (found : store.get key = some object) : object.version ≤ store.revision :=
  store.bounded ⟨key, object⟩ (AList.mem_lookup_iff.mp found)

/-- Write `value` under the next revision, whether or not the key is taken. -/
def put (store : VersionedStore κ α) (key : κ) (value : α) : VersionedStore κ α where
  revision := store.revision + 1
  objects := store.objects.insert key ⟨store.revision + 1, value⟩
  bounded := by
    intro entry member
    rw [AList.entries_insert] at member
    rcases List.mem_cons.mp member with rfl | old
    · exact Nat.le_refl _
    · have kept := List.kerase_sublist key store.objects.entries |>.subset old
      exact Nat.le_succ_of_le (store.bounded entry kept)

def erase (store : VersionedStore κ α) (key : κ) : VersionedStore κ α where
  revision := store.revision + 1
  objects := store.objects.erase key
  bounded := by
    intro entry member
    have kept := List.kerase_sublist key store.objects.entries |>.subset member
    exact Nat.le_succ_of_le (store.bounded entry kept)

@[simp] theorem get_put_self (store : VersionedStore κ α) (key : κ) (value : α) :
    (store.put key value).get key = some ⟨store.revision + 1, value⟩ :=
  AList.lookup_insert _

theorem get_put_of_ne (different : other ≠ key) : (store.put key value).get other = store.get other :=
  AList.lookup_insert_ne different

@[simp] theorem get_erase_self (store : VersionedStore κ α) (key : κ) : (store.erase key).get key = none :=
  AList.lookup_erase key _

theorem get_erase_of_ne (different : other ≠ key) : (store.erase key).get other = store.get other :=
  AList.lookup_erase_ne different

/-- Reading `seen` at `version` is remembered: as long as the object still has
that version, it is still what was read. -/
def Remembers (store : VersionedStore κ α) (key : κ) (version : Nat) (seen : α) : Prop :=
  version ≤ store.revision ∧
    ∀ object, store.get key = some object → object.version = version → object.value = seen

theorem remembers_read (found : store.get key = some object) : store.Remembers key object.version object.value := by
  refine ⟨version_le found, ?_⟩
  intro current again _
  rw [found] at again
  cases again
  rfl

/-- No write can bring an old version back. -/
theorem Remembers.put (remembered : store.Remembers key version seen) (written : κ) (value : α) :
    (store.put written value).Remembers key version seen := by
  refine ⟨Nat.le_succ_of_le remembered.1, ?_⟩
  intro object found same
  by_cases written_key : key = written
  · subst written_key
    rw [get_put_self] at found
    cases found
    have older := remembered.1
    simp only at same
    omega
  · rw [get_put_of_ne written_key] at found
    exact remembered.2 object found same

theorem Remembers.erase (remembered : store.Remembers key version seen) (erased : κ) :
    (store.erase erased).Remembers key version seen := by
  refine ⟨Nat.le_succ_of_le remembered.1, ?_⟩
  intro object found same
  by_cases erased_key : key = erased
  · subst erased_key
    simp at found
  · rw [get_erase_of_ne erased_key] at found
    exact remembered.2 object found same

end VersionedStore

end Banlieue.Data
