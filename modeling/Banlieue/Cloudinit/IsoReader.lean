import Banlieue.Cloudinit.Iso9660

namespace Banlieue.Cloudinit

open Banlieue.Data

/-! # Reading an image

A reader follows the descriptors from the sector after the system area, the root
record in the descriptor it wants, and the records of the root directory.
-/

structure Extent where
  lba : Nat
  size : Nat
deriving DecidableEq

namespace Extent

def start (extent : Extent) : Nat := extent.lba * sector

def stop (extent : Extent) : Nat := extent.start + extent.size

def content (extent : Extent) (image : List UInt8) : List UInt8 := slice image extent.start extent.size

def Apart (first second : Extent) : Prop := first.stop ≤ second.start ∨ second.stop ≤ first.start

end Extent

structure Record where
  extent : Extent
  directory : Bool
  name : List UInt8
deriving DecidableEq

/-- The little-endian half of a number that is stored in both orders. -/
def decodeRecord (record : List UInt8) : Record where
  extent := ⟨leValue (slice record 2 4), leValue (slice record 10 4)⟩
  directory := leValue (slice record 25 1) / 2 % 2 == 1
  name := slice record 33 (leValue (slice record 32 1))

/-- Records follow each other; a length of zero ends them. -/
def parseRecords : Nat → List UInt8 → List Record
  | 0, _ => []
  | _, [] => []
  | fuel + 1, length :: rest =>
    if length = 0 then []
    else
      decodeRecord ((length :: rest).take length.toNat) ::
        parseRecords fuel ((length :: rest).drop length.toNat)

/-- The first descriptor that is wanted, among those before the terminator. -/
def findDescriptor (wanted : List UInt8 → Bool) (image : List UInt8) : Nat → Nat → Option (List UInt8)
  | 0, _ => none
  | fuel + 1, number =>
    let descriptor := slice image (number * sector) sector
    if slice descriptor 1 5 ≠ ascii "CD001" ∨ slice descriptor 0 1 = [255] then none
    else if wanted descriptor then some descriptor
    else findDescriptor wanted image fuel (number + 1)

def isPrimary (descriptor : List UInt8) : Bool := slice descriptor 0 1 == [1]

def isJoliet (descriptor : List UInt8) : Bool :=
  slice descriptor 0 1 == [2] && slice descriptor 88 3 == ascii "%/E"

structure Volume where
  /-- In sectors. -/
  size : Nat
  root : Extent
  records : List Record
deriving DecidableEq

def readVolume (wanted : List UInt8 → Bool) (image : List UInt8) : Option Volume := do
  let descriptor ← findDescriptor wanted image (image.length / sector) systemAreaSectors
  let root := (decodeRecord (slice descriptor 156 34)).extent
  return {
    size := leValue (slice descriptor 80 4)
    root := root
    records := parseRecords root.size (root.content image) }

/-- A name of characters that one code unit holds. -/
def decodeUcs2 : List UInt8 → List Char
  | high :: low :: rest => Char.ofNat (high.toNat * 256 + low.toNat) :: decodeUcs2 rest
  | _ => []

namespace Volume

def entries (volume : Volume) : List Record := volume.records.filter fun record => !record.directory

def extents (volume : Volume) : List Extent := volume.entries.map Record.extent

def files (volume : Volume) (image : List UInt8) : List IsoFile :=
  volume.entries.map fun record => ⟨.ofList (decodeUcs2 record.name), record.extent.content image⟩

end Volume

/-- Read through either descriptor, an image has these files and nothing overlaps. -/
structure Holds (files : List IsoFile) (image : List UInt8) (primary joliet : Volume) : Prop where
  readPrimary : readVolume isPrimary image = some primary
  readJoliet : readVolume isJoliet image = some joliet
  content : joliet.files image = files
  shared : primary.extents = joliet.extents
  primarySize : primary.size * sector = image.length
  jolietSize : joliet.size * sector = image.length
  aligned : ∀ extent ∈ primary.root :: joliet.root :: joliet.extents, extent.start % sector = 0
  apart : (primary.root :: joliet.root :: joliet.extents).Pairwise Extent.Apart
  inside : ∀ extent ∈ primary.root :: joliet.root :: joliet.extents, extent.stop ≤ image.length

end Banlieue.Cloudinit
