import Mathlib.Data.List.Sort
import Banlieue.Api.Pool
import Banlieue.Data.VersionedStore

namespace Banlieue.Controller

open Banlieue.Api Banlieue.Data

/-! # The virtual machines of a namespace

The API server keeps every machine under its own name and never gives a name
twice: members are created under a generated name.
-/

structure Machines where
  store : VersionedStore String VirtualMachine
  /-- The names that were ever given. -/
  names : List String
  named : ∀ name object, store.get name = some object → object.value.name = name ∧ name ∈ names

namespace Machines

variable {machines : Machines} {name other : String} {object : Versioned VirtualMachine}

def empty : Machines := ⟨.empty, [], by simp [VersionedStore.get, VersionedStore.empty]⟩

def get (machines : Machines) (name : String) : Option (Versioned VirtualMachine) :=
  machines.store.get name

/-- The machines that carry a pool's label, by name. -/
def listPool (machines : Machines) (pool : String) : List VirtualMachine :=
  ((machines.store.list.map fun entry => entry.2.value).filter fun vm =>
    vm.poolLabel == some pool).insertionSort fun first second => first.name ≤ second.name

theorem name_eq (found : machines.get name = some object) : object.value.name = name :=
  (machines.named name object found).1

theorem mem_names (found : machines.get name = some object) : name ∈ machines.names :=
  (machines.named name object found).2

variable {vm : VirtualMachine} {after : Machines}

theorem mem_listPool {pool : String} : vm ∈ machines.listPool pool ↔
      ∃ object, machines.get vm.name = some object ∧ object.value = vm ∧ vm.poolLabel = some pool := by
  simp only [listPool, List.mem_insertionSort, List.mem_filter, List.mem_map, Prod.exists, beq_iff_eq]
  constructor
  · rintro ⟨⟨name, object, listed, rfl⟩, carried⟩
    have found : machines.get name = some object := VersionedStore.mem_list.mp listed
    rw [name_eq found]
    exact ⟨object, found, rfl, carried⟩
  · rintro ⟨object, found, rfl, carried⟩
    exact ⟨⟨_, object, VersionedStore.mem_list.mpr found, rfl⟩, carried⟩

/-! ## Writes -/

/-- Replace a machine, if there is one, by what the change makes of it; a write
that changes nothing leaves the version as it is. -/
def modify (machines : Machines) (name : String) (change : VirtualMachine → VirtualMachine)
    (keepsName : ∀ vm, (change vm).name = vm.name) : Machines :=
  match found : machines.store.get name with
  | none => machines
  | some object =>
    if change object.value = object.value then machines
    else
      { machines with
        store := machines.store.put name (change object.value)
        named := by
          intro key written stored
          by_cases same : key = name
          · subst same
            rw [VersionedStore.get_put_self] at stored
            cases stored
            obtain ⟨own, given⟩ := machines.named key object found
            exact ⟨(keepsName object.value).trans own, given⟩
          · rw [VersionedStore.get_put_of_ne same] at stored
            exact machines.named key written stored }

def erase (machines : Machines) (name : String) : Machines where
  store := machines.store.erase name
  names := machines.names
  named := by
    intro key object stored
    by_cases same : key = name
    · subst same
      simp at stored
    · rw [VersionedStore.get_erase_of_ne same] at stored
      exact machines.named key object stored

def withName (vm : VirtualMachine) (name : String) : VirtualMachine :=
  { vm with metadata := { vm.metadata with name := name } }

/-- A machine under a name that was never given before. -/
def create (machines : Machines) (name : String) (vm : VirtualMachine) : Option Machines :=
  if name ∈ machines.names then none
  else some
    { store := machines.store.put name (withName vm name)
      names := name :: machines.names
      named := by
        intro key object stored
        by_cases same : key = name
        · subst same
          rw [VersionedStore.get_put_self] at stored
          cases stored
          exact ⟨rfl, List.mem_cons_self⟩
        · rw [VersionedStore.get_put_of_ne same] at stored
          obtain ⟨own, given⟩ := machines.named key object stored
          exact ⟨own, List.mem_cons_of_mem name given⟩ }

def markDeleted (now : Timestamp) (vm : VirtualMachine) : VirtualMachine :=
  { vm with metadata := vm.metadata.markDeleted now }

theorem markDeleted_name (now : Timestamp) (vm : VirtualMachine) :
    (markDeleted now vm).name = vm.name := rfl

/-- A delete: the machine goes at once, or is marked while finalizers hold it. -/
def delete (machines : Machines) (name : String) (now : Timestamp) : Option Machines :=
  (machines.get name).map fun object =>
    if object.value.metadata.finalizers.isEmpty then machines.erase name
    else machines.modify name (markDeleted now) (markDeleted_name now)

/-! ## What a write changes -/

section Writes

variable {change : VirtualMachine → VirtualMachine} (keepsName : ∀ vm, (change vm).name = vm.name)

theorem get_modify_self (found : machines.get name = some object) :
    ∃ version, (machines.modify name change keepsName).get name = some ⟨version, change object.value⟩ := by
  unfold modify
  split
  · rename_i missing
    rw [get, missing] at found
    contradiction
  · rename_i stored present
    rw [get, present] at found
    cases found
    split
    · rename_i same
      exact ⟨object.version, by rw [same]; exact present⟩
    · exact ⟨_, VersionedStore.get_put_self _ _ _⟩

theorem get_modify_of_ne (different : other ≠ name) :
    (machines.modify name change keepsName).get other = machines.get other := by
  unfold modify
  split
  · rfl
  · split
    · rfl
    · exact VersionedStore.get_put_of_ne different

theorem modify_names : (machines.modify name change keepsName).names = machines.names := by
  unfold modify
  split
  · rfl
  · split <;> rfl

theorem modify_remembers {key : String} {version : Nat} {seen : VirtualMachine}
    (remembered : machines.store.Remembers key version seen) :
    (machines.modify name change keepsName).store.Remembers key version seen := by
  unfold modify
  split
  · exact remembered
  · split
    · exact remembered
    · exact remembered.put _ _

end Writes

/-- The machine at that name was there before, with the same labels, and is
deleted if it was. -/
def Inherits (before : Machines) (name : String) (vm : VirtualMachine) : Prop :=
  ∃ old, before.get name = some old ∧ vm.claimLabel = old.value.claimLabel ∧
    vm.poolLabel = old.value.poolLabel ∧ (old.value.deleting = true → vm.deleting = true)

/-- A change that binds nothing: machines come (unlabelled, under new names), go,
or are written without touching their labels. -/
structure Quiet (before after : Machines) : Prop where
  inherits : ∀ name object, after.get name = some object →
    (object.value.claimLabel = none ∧ name ∉ before.names) ∨
      before.Inherits name object.value
  names : ∀ name ∈ before.names, name ∈ after.names
  remembers : ∀ name version seen, before.store.Remembers name version seen →
    after.store.Remembers name version seen

theorem inherits_self (found : machines.get name = some object) : machines.Inherits name object.value :=
  ⟨object, found, rfl, rfl, id⟩

theorem Quiet.refl (machines : Machines) : Quiet machines machines :=
  ⟨fun _ _ found => .inr (inherits_self found), fun _ => id, fun _ _ _ => id⟩

theorem quiet_modify {change : VirtualMachine → VirtualMachine}
    (keepsName : ∀ vm, (change vm).name = vm.name)
    (keeps : ∀ object, machines.get name = some object → machines.Inherits name (change object.value)) :
    Quiet machines (machines.modify name change keepsName) where
  inherits := by
    intro key written stored
    by_cases same : key = name
    · subst same
      cases found : machines.get key with
      | none =>
        have unchanged : machines.modify key change keepsName = machines := by
          unfold modify
          split
          · rfl
          · rename_i object present
            rw [get, present] at found
            contradiction
        rw [unchanged, found] at stored
        contradiction
      | some object =>
        obtain ⟨version, modified⟩ := get_modify_self keepsName found
        rw [modified] at stored
        cases stored
        exact .inr (keeps object found)
    · rw [get_modify_of_ne keepsName same] at stored
      exact .inr (inherits_self stored)
  names := by simp [modify_names]
  remembers := fun _ _ _ => modify_remembers keepsName

theorem quiet_erase (machines : Machines) (name : String) : Quiet machines (machines.erase name) where
  inherits := by
    intro key object stored
    by_cases same : key = name
    · subst same
      rw [get, erase, VersionedStore.get_erase_self] at stored
      contradiction
    · rw [get, erase, VersionedStore.get_erase_of_ne same] at stored
      exact .inr (inherits_self stored)
  names := fun _ => id
  remembers := fun _ _ _ remembered => remembered.erase name

theorem quiet_create (unlabelled : vm.claimLabel = none)
    (created : machines.create name vm = some after) : Quiet machines after := by
  simp only [create, Option.ite_none_left_eq_some, Option.some.injEq] at created
  obtain ⟨fresh, rfl⟩ := created
  refine ⟨?_, fun key => List.mem_cons_of_mem name, fun _ _ _ remembered => remembered.put _ _⟩
  intro key object stored
  by_cases same : key = name
  · subst same
    rw [get, VersionedStore.get_put_self] at stored
    cases stored
    exact .inl ⟨unlabelled, fresh⟩
  · rw [get, VersionedStore.get_put_of_ne same] at stored
    exact .inr (inherits_self stored)

theorem quiet_delete {now : Timestamp} (deleted : machines.delete name now = some after) : Quiet machines after := by
  simp only [delete, Option.map_eq_some_iff] at deleted
  obtain ⟨object, found, rfl⟩ := deleted
  split
  · exact quiet_erase machines name
  · apply quiet_modify (markDeleted_name now)
    intro stored present
    refine ⟨stored, present, rfl, rfl, ?_⟩
    intro deleting
    simp only [VirtualMachine.deleting, markDeleted, ObjectMeta.markDeleted] at deleting ⊢
    cases mark : stored.value.metadata.deletionTimestamp with
    | none => simp [mark] at deleting
    | some time => rfl

end Machines

end Banlieue.Controller
