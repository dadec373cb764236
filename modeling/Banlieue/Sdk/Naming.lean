import Mathlib.Data.String.Basic

namespace Banlieue.Sdk

/-! # Names of the objects created for a provider -/

def maxNameLen : Nat := 63

def workloadNamePrefix : String := "banlieue-provider"

def hashSuffixLen : Nat := 8

def fnvOffsetBasis : UInt32 := 2166136261

def fnvPrime : UInt32 := 16777619

def fnv1a32 (value : String) : UInt32 :=
  value.toUTF8.data.foldl (fun hash byte => (hash ^^^ byte.toUInt32) * fnvPrime) fnvOffsetBasis

def lowerHex : Nat → Nat → List Char
  | 0, _ => []
  | width + 1, value => Nat.digitChar (value / 16 ^ width % 16) :: lowerHex width value

/-- A name that is too long keeps its head and gets a hash of the whole. -/
def truncateWithHash (name : String) : String :=
  if name.utf8ByteSize ≤ maxNameLen then name
  else
    let keep := maxNameLen - hashSuffixLen - 1
    let head := ((name.toList.take keep).reverse.dropWhile (· == '-')).reverse
    String.ofList (head ++ '-' :: lowerHex hashSuffixLen (fnv1a32 name).toNat)

def workloadName (className provider : String) : String :=
  truncateWithHash (workloadNamePrefix ++ "-" ++ className ++ "-" ++ provider)

/-- A cluster-scoped object has no namespace to tell it apart, so the namespace of
the provider is part of its name. -/
def clusterScopedName (className providerNamespace provider : String) : String :=
  truncateWithHash (workloadNamePrefix ++ "-" ++ className ++ "-" ++ providerNamespace ++ "-" ++ provider)

theorem truncateWithHash_of_short {name : String} (short : name.utf8ByteSize ≤ maxNameLen) :
    truncateWithHash name = name := if_pos short

end Banlieue.Sdk
