import Mathlib.Logic.Function.Basic
import Banlieue.Api.Pool
import Banlieue.Sdk.Finalizer

namespace Banlieue.Controller

open Banlieue.Api Banlieue.Data Banlieue.Sdk

/-! # The claims of a namespace

Of every claim the API server keeps the object while it exists; the copies are
the versions it has had, any of which a controller's cache may still show.  A
claim's spec cannot be changed, and a name is used for one claim only.
-/

structure ClaimRecord where
  live : Option VirtualMachineClaim := none
  copies : List VirtualMachineClaim := []
deriving DecidableEq

/-- An object that is being deleted disappears with its last finalizer. -/
def ClaimRecord.put (record : ClaimRecord) (claim : VirtualMachineClaim) : ClaimRecord where
  live := if claim.deleting && claim.metadata.finalizers.isEmpty then none else some claim
  copies := record.copies ++ [claim]

structure Claims where
  record : String → ClaimRecord
  named : ∀ name, ∀ copy ∈ (record name).copies, copy.name = name
  current : ∀ name, ∀ claim ∈ (record name).live, claim ∈ (record name).copies
  sameSpec : ∀ name, ∀ first ∈ (record name).copies, ∀ second ∈ (record name).copies,
    first.spec = second.spec

namespace Claims

variable {claims : Claims} {name : String}

def empty : Claims := ⟨fun _ => {}, by simp, by simp, by simp⟩

def live (claims : Claims) (name : String) : Option VirtualMachineClaim :=
  (claims.record name).live

def copies (claims : Claims) (name : String) : List VirtualMachineClaim :=
  (claims.record name).copies

variable {record : ClaimRecord} {claim copy : VirtualMachineClaim}

theorem mem_put : copy ∈ (record.put claim).copies ↔ copy ∈ record.copies ∨ copy = claim := by
  simp [ClaimRecord.put]

theorem live_put {found : VirtualMachineClaim} (stored : (record.put claim).live = some found) : found = claim := by
  simp only [ClaimRecord.put] at stored
  split at stored
  · contradiction
  · cases stored
    rfl

theorem mem_copies_put {after : Claims} {written : String} (record : after.record =
      Function.update claims.record written ((claims.record written).put claim)) :
    copy ∈ after.copies name ↔ copy ∈ claims.copies name ∨ name = written ∧ copy = claim := by
  unfold copies
  rw [record]
  by_cases same : name = written
  · subst same
    simp [mem_put]
  · simp [same]

/-- Add a version of a claim: its name and spec are those it has always had. -/
def put (claims : Claims) (claim : VirtualMachineClaim)
    (sameSpec : ∀ copy ∈ (claims.record claim.name).copies, copy.spec = claim.spec) : Claims where
  record := Function.update claims.record claim.name ((claims.record claim.name).put claim)
  named := by
    intro name copy
    by_cases own : name = claim.name
    · subst own
      rw [Function.update_self, mem_put]
      rintro (old | rfl)
      · exact claims.named _ copy old
      · rfl
    · rw [Function.update_of_ne own]
      exact claims.named name copy
  current := by
    intro name found
    by_cases own : name = claim.name
    · subst own
      rw [Function.update_self, mem_put]
      intro stored
      exact .inr (live_put stored)
    · rw [Function.update_of_ne own]
      exact claims.current name found
  sameSpec := by
    intro name first
    by_cases own : name = claim.name
    · subst own
      rw [Function.update_self]
      simp only [mem_put]
      rintro (old | rfl) second (old' | rfl)
      · exact claims.sameSpec _ first old second old'
      · exact sameSpec first old
      · exact (sameSpec second old').symm
      · rfl
    · rw [Function.update_of_ne own]
      exact claims.sameSpec name first

/-- A new claim, under a name that was never used. -/
def create (claims : Claims) (claim : VirtualMachineClaim) : Option Claims :=
  if unused : (claims.record claim.name).copies = [] then
    some (claims.put claim (by simp [unused]))
  else none

/-- Replace a claim, if it exists, by what the change makes of it. -/
def modify (claims : Claims) (name : String)
    (change : VirtualMachineClaim → VirtualMachineClaim)
    (keeps : ∀ claim, (change claim).name = claim.name ∧ (change claim).spec = claim.spec) :
    Option Claims :=
  match found : (claims.record name).live with
  | none => none
  | some claim =>
    some (claims.put (change claim) (by
      have member := claims.current name claim found
      rw [(keeps claim).1, (keeps claim).2, claims.named name claim member]
      exact fun copy old => claims.sameSpec name copy old claim member))

end Claims

end Banlieue.Controller
