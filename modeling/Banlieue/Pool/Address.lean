import Banlieue.Pool.Plan
import Banlieue.Data.Basics
import Banlieue.Data.Numerals

namespace Banlieue.Pool

open Banlieue.Data (debugText isDigit_of_mem_toString splitOnce)

/-! # Address entries

An entry of a pool's address list is a single address, an inclusive range
`low-high` or a CIDR block.
-/

def digitsToNat (digits : List Char) : Nat :=
  digits.foldl (fun value digit => 10 * value + (digit.toNat - '0'.toNat)) 0

/-- One to three digits without a leading zero, at most 255. -/
def parseOctet (text : List Char) : Option Nat :=
  let value := digitsToNat text
  if text ≠ [] ∧ text.all Char.isDigit ∧ text.length ≤ 3 ∧ value ≤ 255 ∧
      (text.length = 1 ∨ text.head? ≠ some '0') then some value
  else none

def invalidIpv4 : String := "invalid IPv4 address syntax"

namespace Ipv4Addr

def ofOctets (a b c d : Nat) : Ipv4Addr :=
  ⟨.ofNat (((a * 256 + b) * 256 + c) * 256 + d)⟩

def parse (text : List Char) : Except String Ipv4Addr :=
  match (text.splitOn '.').map parseOctet with
  | [some a, some b, some c, some d] => .ok (ofOctets a b c d)
  | _ => .error invalidIpv4

def toText (address : Ipv4Addr) : String :=
  let octet (shift : Nat) : String := toString (address.bits.toNat / 256 ^ shift % 256)
  ".".intercalate [octet 3, octet 2, octet 1, octet 0]

theorem parse_toText (address : Ipv4Addr) : parse address.toText.toList = .ok address := by
  have octets : ∀ octet : Fin 256, parseOctet (toString octet.val).toList = some octet.val := by decide +kernel
  have octet (shift : Nat) := octets ⟨address.bits.toNat / 256 ^ shift % 256, Nat.mod_lt _ (by decide)⟩
  have split : address.toText.toList.splitOn '.' =
      [3, 2, 1, 0].map fun shift => (toString (address.bits.toNat / 256 ^ shift % 256)).toList := by
    refine (congrArg (List.splitOn '.') (by simp [toText])).trans (List.splitOn_intercalate '.' ?_ (by simp))
    intro part member point
    obtain ⟨shift, -, rfl⟩ := List.mem_map.mp member
    cases isDigit_of_mem_toString point
  have whole : ofOctets (address.bits.toNat / 256 ^ 3 % 256) (address.bits.toNat / 256 ^ 2 % 256)
      (address.bits.toNat / 256 ^ 1 % 256) (address.bits.toNat / 256 ^ 0 % 256) = address := by
    have bound := address.bits.toNat_lt
    refine congrArg Ipv4Addr.mk (UInt32.toNat_inj.mp ?_)
    simp only [UInt32.toNat_ofNat']
    omega
  simp only [parse, split, List.map_cons, List.map_nil, octet, whole]

end Ipv4Addr

/-- The digits of a `u32`; the first character that is no digit or no longer fits
decides the error. -/
def parseDigits : (value : Nat) → List Char → Except String Nat
  | value, [] => .ok value
  | value, digit :: rest =>
    if ¬ digit.isDigit then .error "invalid digit found in string"
    else if 2 ^ 32 ≤ digitsToNat [digit] + 10 * value then
      .error "number too large to fit in target type"
    else parseDigits (digitsToNat [digit] + 10 * value) rest

def parseU32 : List Char → Except String Nat
  | [] => .error "cannot parse integer from empty string"
  | ['+'] => .error "invalid digit found in string"
  | '+' :: digits => parseDigits 0 digits
  | digits => parseDigits 0 digits

def maxIpv4PrefixLen : Nat := 32

/-- The addresses that agree with `address` on the first `prefixLen` bits. -/
def cidrRange (address : Ipv4Addr) (prefixLen : Nat) : AddressRange :=
  let hostBits := maxIpv4PrefixLen - prefixLen
  let mask : UInt32 :=
    if hostBits = maxIpv4PrefixLen then 0 else 0xFFFFFFFF <<< UInt32.ofNat hostBits
  let base := address.bits &&& mask
  ⟨⟨base⟩, ⟨base ||| ~~~mask⟩⟩

def parseAddressPoolEntry (entry : String) : Except String AddressRange :=
  let text := entry.toList
  let failed {α : Type} (what : String) (part : List Char) (parsed : Except String α) :
      Except String α :=
    parsed.mapError fun reason =>
      debugText text ++ ": invalid " ++ what ++ " " ++ debugText part ++ ": " ++ reason
  match splitOnce '/' text, splitOnce '-' text with
  | some (network, length), _ => do
    let address ← failed "network" network (Ipv4Addr.parse network)
    let prefixLen ← failed "prefix length" length (parseU32 length)
    if maxIpv4PrefixLen < prefixLen then
      .error (debugText text ++ ": prefix length " ++ toString prefixLen ++ " exceeds " ++
        toString maxIpv4PrefixLen)
    else .ok (cidrRange address prefixLen)
  | none, some (start, finish) => do
    let low ← failed "range start" start (Ipv4Addr.parse start)
    let high ← failed "range end" finish (Ipv4Addr.parse finish)
    return ⟨low, high⟩
  | none, none => do
    let address ← (Ipv4Addr.parse text).mapError fun reason =>
      debugText text ++ ": not a single address, range, or CIDR: " ++ reason
    return ⟨address, address⟩

end Banlieue.Pool
