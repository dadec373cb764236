import Mathlib.Data.List.Sort
import Mathlib.Data.Prod.Lex
import Mathlib.Data.String.Basic
import Banlieue.Data.Reservation
import Banlieue.Api.VirtualMachine

namespace Banlieue.Vm

open Banlieue.Api Banlieue.Data

/-! # Duplicate static addresses

A claim is an address on a network.  A machine declares claims in its network
overrides and holds those its infra machine was last applied with.
-/

def reasonDuplicateAddress : String := "DuplicateAddress"

/-- The library functions an address goes through: `trim`, and parsing as an IP
address followed by printing. -/
structure AddressText where
  trim : String → String
  reprint : String → Option String

/-- An IP address in canonical form, trimmed text otherwise. -/
def normalize (text : AddressText) (address : String) : String :=
  let trimmed := text.trim address
  (text.reprint trimmed).getD trimmed

/-- A claim without a network class is one on every network. -/
structure AddressClaim where
  interface : String
  networkClass : Option String
  address : String
deriving DecidableEq

def AddressClaim.matches (claim other : AddressClaim) : Bool :=
  claim.address == other.address &&
    match claim.networkClass, other.networkClass with
    | some first, some second => first == second
    | _, _ => true

/-- Namespace and name. -/
abbrev VmKey := String × String

def key (vm : VirtualMachine) : VmKey := (vm.metadata.namespaceName.getD "", vm.name)

/-- A machine that is not persisted yet ranks as the newest. -/
def created (vm : VirtualMachine) : Timestamp :=
  vm.metadata.creationTimestamp.getD Timestamp.max

/-- Older machines come first, and machines of one age by namespace and name. -/
def rank (vm : VirtualMachine) : Int ×ₗ String ×ₗ String :=
  toLex ((created vm).nanoseconds, toLex (key vm))

section Claims

variable (text : AddressText)

/-- An override that names no interface of the class is dropped; without a class
every override claims its address on every network. -/
def declaredClaims (vm : VirtualMachine) (vmClass : Option VMClass) : List AddressClaim :=
  vm.spec.networkOverrides.filterMap fun override =>
    let claim (networkClass : Option String) : AddressClaim :=
      { interface := override.name
        networkClass := networkClass
        address := normalize text override.static.address }
    match vmClass with
    | none => some (claim none)
    | some found =>
      (found.spec.network.interfaces.find? fun nic => nic.name == override.name).map fun nic =>
        claim (some nic.networkClass)

def heldClaims (vm : VirtualMachine) : List AddressClaim :=
  ((vm.status.map VirtualMachineStatus.heldAddresses).getD []).map fun held =>
    { interface := held.interface
      networkClass := some held.networkClass
      address := normalize text held.address }

/-- Every address the machine declares or holds. -/
def addressesOf (vm : VirtualMachine) : List String :=
  (vm.spec.networkOverrides.map fun override => normalize text override.static.address) ++
    (heldClaims text vm).map AddressClaim.address

/-- What to record when the infra machine is applied. -/
def heldAddresses (vm : VirtualMachine) (vmClass : VMClass) : List HeldAddress :=
  (declaredClaims text vm (some vmClass)).map fun claim =>
    { interface := claim.interface
      networkClass := claim.networkClass.getD ""
      address := claim.address }

end Claims

/-! ## The verdict -/

inductive Holder where
  | sameNamespace (qualified : String)
  /-- Not named: a message must not list another tenant's machines. -/
  | otherNamespace
deriving DecidableEq

structure DuplicateAddress where
  address : String
  networkClass : String
  interface : String
  holder : Holder
deriving DecidableEq

def DuplicateAddress.message (duplicate : DuplicateAddress) : String :=
  let holder :=
    match duplicate.holder with
    | .sameNamespace qualified => "VirtualMachine " ++ qualified
    | .otherNamespace => "a VirtualMachine in another namespace"
  "address " ++ duplicate.address ++ " on interface " ++ duplicate.interface ++
    " (networkClass " ++ duplicate.networkClass ++ ") is already claimed by " ++ holder ++
    "; choose a free address or delete the holder (ADR-0083)"

/-- The machine itself, authoritative over any copy of it, among the others. -/
def everyone (vm : VirtualMachine) (contenders : List VirtualMachine) : List VirtualMachine :=
  ((contenders.filter fun other => key other != key vm) ++ [vm]).insertionSort
    fun first second => rank first ≤ rank second

def classOf (classes : List VMClass) (vm : VirtualMachine) : Option VMClass :=
  classes.find? fun vmClass => vmClass.name == vm.spec.classRef.name

section Verdict

variable (text : AddressText)

def claimant (classes : List VMClass) (vm : VirtualMachine) : Claimant VmKey AddressClaim where
  key := key vm
  held := heldClaims text vm
  declared := declaredClaims text vm (classOf classes vm)

/-- Held claims are reserved first; then each machine, oldest first, is admitted
if nothing it declares is reserved by another one. -/
def reservations (vm : VirtualMachine) (contenders : List VirtualMachine)
    (classes : List VMClass) : Ledger VmKey AddressClaim :=
  settle AddressClaim.matches ((everyone vm contenders).map (claimant text classes))

def findDuplicateAddress (vm : VirtualMachine) (contenders : List VirtualMachine)
    (classes : List VMClass) : Option DuplicateAddress :=
  ((reservations text vm contenders classes).blocked (key vm)).map fun (claim, holder) =>
    -- Report the claim in the machine's own terms: the interface it declared.
    let mine := ((declaredClaims text vm (classOf classes vm)).find? fun own =>
      own.matches claim).getD claim
    { address := mine.address
      networkClass := mine.networkClass.getD ""
      interface := mine.interface
      holder :=
        if holder.1 = (key vm).1 then .sameNamespace (holder.1 ++ "/" ++ holder.2)
        else .otherNamespace }

/-! ## The machines that can matter -/

def sharesAddress (addresses : List String) (vm : VirtualMachine) : Bool :=
  (addressesOf text vm).any fun address => addresses.contains address

/-- One round takes in every pending machine that shares an address with what has
been taken in so far; a round that finds none is the last. -/
def contendingRounds : Nat → List VirtualMachine → List String → List VirtualMachine →
    List VirtualMachine
  | 0, _, _, found => found
  | rounds + 1, pending, addresses, found =>
    let sharing := pending.filter (sharesAddress text addresses)
    if sharing.isEmpty then found
    else
      contendingRounds rounds (pending.filter fun vm => !sharesAddress text addresses vm)
        (addresses ++ sharing.flatMap (addressesOf text)) (found ++ sharing)

/-- Every other machine that shares an address with this one, transitively.  Each
round but the last takes in a machine, so there are at most as many as machines. -/
def contendingVms (vm : VirtualMachine) (all : List VirtualMachine) : List VirtualMachine :=
  let pending := all.filter fun other => key other != key vm
  contendingRounds text pending.length pending (addressesOf text vm) []

end Verdict

end Banlieue.Vm
