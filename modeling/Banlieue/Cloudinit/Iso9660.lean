import Banlieue.Data.Basics
import Banlieue.Data.Bytes

namespace Banlieue.Cloudinit

open Banlieue.Data

/-! # An ISO 9660 image with a Joliet tree

The root directory is the only one.  Every structure but the files has a fixed
sector.
-/

def sector : Nat := 2048

def systemAreaSectors : Nat := 16

def labelMax : Nat := 32

def primaryNameMax : Nat := 30

def lbaPathL : UInt32 := 19

def lbaPathM : UInt32 := 20

def lbaPathLJoliet : UInt32 := 21

def lbaPathMJoliet : UInt32 := 22

def lbaRoot : UInt32 := 23

def lbaRootJoliet : UInt32 := 24

def lbaFirstFile : UInt32 := 25

def ascii (text : String) : List UInt8 := text.toUTF8.data.toList

def fixedVolumeDate : List UInt8 := ascii "1970010100000000"

inductive IsoError where
  | nestedPath (name : String)
  | emptyName
  | nameTooLong (name : String) (length : Nat)
  | labelTooLong (label : String) (length : Nat)
deriving DecidableEq

def IsoError.text : IsoError → String
  | .nestedPath name =>
    "file name " ++ debugText name.toList ++ " contains a path separator; this writer is flat (ADR-0054)"
  | .emptyName => "file name is empty"
  | .nameTooLong name length =>
    "file name " ++ debugText name.toList ++ " is " ++ toString length ++ " characters, over the " ++
      toString primaryNameMax ++ " limit"
  | .labelTooLong label length =>
    "volume label " ++ debugText label.toList ++ " is " ++ toString length ++ " bytes, over the " ++
      toString labelMax ++ " limit"

structure IsoFile where
  name : String
  data : List UInt8
deriving DecidableEq

inductive DescriptorKind where
  | primary | joliet
deriving DecidableEq

inductive Endian where
  | little | big
deriving DecidableEq

/-- The sectors a file takes; an empty one takes one, so that its extent has an
address. -/
def sectorsFor (length : Nat) : UInt32 :=
  let count := (max length 1 + (sector - 1)) / sector
  if count < 2 ^ 32 then .ofNat count else 1

/-- `u8::try_from(..).unwrap_or(u8::MAX)`. -/
def saturateU8 (value : Nat) : UInt8 := .ofNat (min value 255)

/-- `u32::try_from(..).unwrap_or(u32::MAX)`. -/
def saturateU32 (value : Nat) : UInt32 := .ofNat (min value (2 ^ 32 - 1))

def both32 (value : UInt32) : List UInt8 := leBytes 4 value.toNat ++ beBytes 4 value.toNat

def both16 (value : UInt16) : List UInt8 := leBytes 2 value.toNat ++ beBytes 2 value.toNat

/-- A name as the primary tree spells it: the hyphen is not among its characters,
and there is always a dot. -/
def primaryName (name : String) : String :=
  let mapped := name.toList.map fun char =>
    let char := char.toUpper
    if char.isUpper || char.isDigit || char == '_' || char == '.' then char else '_'
  if mapped.contains '.' then .ofList mapped else .ofList (mapped ++ ['.'])

def encodeUtf16 (char : Char) : List Nat :=
  if char.toNat < 0x10000 then [char.toNat]
  else [0xD800 + (char.toNat - 0x10000) / 0x400, 0xDC00 + (char.toNat - 0x10000) % 0x400]

def ucs2be (text : String) : List UInt8 := (text.toList.flatMap encodeUtf16).flatMap (beBytes 2)

def padded (width : Nat) (text : List UInt8) (pad : UInt8) : List UInt8 :=
  text.take width ++ .replicate (width - text.length) pad

/-- `Vec::resize`. -/
def resize (bytes : List UInt8) (length : Nat) : List UInt8 := padded length bytes 0

/-- Spaces until the identifier fills its field. -/
def fillLabel : Nat → List UInt8 → List UInt8
  | 0, identifier => identifier
  | fuel + 1, identifier =>
    if identifier.length < labelMax then fillLabel fuel (identifier ++ [0x00, 0x20]) else identifier

inductive DirEntry where
  | root
  | parent
  | file (name : String)
deriving DecidableEq

def DirEntry.identifier (kind : DescriptorKind) : DirEntry → List UInt8
  | .root => [0x00]
  | .parent => [0x01]
  | .file name =>
    match kind with
    | .primary => ascii (primaryName name)
    | .joliet => ucs2be name

def DirEntry.flags : DirEntry → UInt8
  | .file _ => 0
  | _ => 0x02

/-- The date is fixed, so that the same inputs give the same bytes. -/
def directoryRecord (kind : DescriptorKind) (entry : DirEntry) (lba size : UInt32) : List UInt8 :=
  let name := entry.identifier kind
  let unpadded := [0, 0] ++ both32 lba ++ both32 size ++ [70, 1, 1, 0, 0, 0, 0] ++
    [entry.flags, 0, 0] ++ both16 1 ++ [saturateU8 name.length] ++ name
  let record := if unpadded.length % 2 ≠ 0 then unpadded ++ [0] else unpadded
  patch record 0 [saturateU8 record.length]

/-- The fields of a volume descriptor, in the order they are written. -/
def descriptorFields (kind : DescriptorKind) (label : String) (totalSectors : UInt32) :
    List (Nat × List UInt8) :=
  let rootLba := match kind with | .primary => lbaRoot | .joliet => lbaRootJoliet
  let (pathL, pathM) :=
    match kind with | .primary => (lbaPathL, lbaPathM) | .joliet => (lbaPathLJoliet, lbaPathMJoliet)
  [(0, [match kind with | .primary => 1 | .joliet => 2]), (1, ascii "CD001"), (6, [1])] ++
    (match kind with
      | .joliet =>
        [(8, padded 32 [] 0), (40, (fillLabel 16 (ucs2be label)).take 32), (88, ascii "%/E")]
      | .primary => [(8, padded 32 [] 0x20), (40, padded 32 (ascii label) 0x20)]) ++
    [(80, both32 totalSectors), (120, both16 1), (124, both16 1), (128, both16 (.ofNat sector)),
      (132, both32 (.ofNat sector)), (140, leBytes 4 pathL.toNat), (148, beBytes 4 pathM.toNat),
      (156, directoryRecord kind .root rootLba (.ofNat sector)),
      (318, padded 128 [] 0x20), (446, padded 128 [] 0x20), (574, padded 128 [] 0x20),
      (702, padded 37 [] 0x20),
      (813, fixedVolumeDate), (829, [0]), (830, fixedVolumeDate), (846, [0]), (864, fixedVolumeDate),
      (880, [0]), (847, padded 16 [] 0x30), (863, [0]), (881, [1])]

def volumeDescriptor (kind : DescriptorKind) (label : String) (totalSectors : UInt32) : List UInt8 :=
  patches (.replicate sector 0) (descriptorFields kind label totalSectors)

def terminator : List UInt8 :=
  patches (.replicate sector 0) [(0, [255]), (1, ascii "CD001"), (6, [1])]

def pathTable (endian : Endian) (rootLba : UInt32) : List UInt8 :=
  let number (width value : Nat) : List UInt8 :=
    match endian with | .little => leBytes width value | .big => beBytes width value
  patches (.replicate sector 0)
    [(0, [1]), (1, [0]), (2, number 4 rootLba.toNat), (6, number 2 1), (8, [0])]

def rootDirectory (kind : DescriptorKind) (placed : List (IsoFile × UInt32)) : List UInt8 :=
  let rootLba := match kind with | .primary => lbaRoot | .joliet => lbaRootJoliet
  resize (directoryRecord kind .root rootLba (.ofNat sector) ++
      (directoryRecord kind .parent rootLba (.ofNat sector) ++
        placed.flatMap fun (file, lba) =>
          directoryRecord kind (.file file.name) lba (saturateU32 file.data.length)))
    sector

/-- Every file gets the sectors after those of the file before. -/
def place : UInt32 → List IsoFile → List (IsoFile × UInt32)
  | _, [] => []
  | lba, file :: files => (file, lba) :: place (lba + sectorsFor file.data.length) files

def totalSectors (files : List IsoFile) : UInt32 :=
  files.foldl (fun lba file => lba + sectorsFor file.data.length) lbaFirstFile

/-- A file is padded to the extent that was reserved for it. -/
def writeFile (image : List UInt8) (placed : IsoFile × UInt32) : List UInt8 :=
  resize (image ++ placed.1.data) ((placed.2 + sectorsFor placed.1.data.length).toNat * sector)

def checkFile (file : IsoFile) : Except IsoError Unit :=
  if file.name.isEmpty then throw .emptyName
  else if file.name.toList.contains '/' || file.name.toList.contains '\\' then throw (.nestedPath file.name)
  else if (primaryName file.name).length > primaryNameMax then
    throw (.nameTooLong file.name file.name.utf8ByteSize)
  else return ()

def buildIso9660 (label : String) (files : List IsoFile) : Except IsoError (List UInt8) := do
  if label.utf8ByteSize > labelMax then throw (.labelTooLong label label.utf8ByteSize)
  files.forM checkFile
  let placed := place lbaFirstFile files
  let total := totalSectors files
  let structures := [volumeDescriptor .primary label total, volumeDescriptor .joliet label total,
    terminator, pathTable .little lbaRoot, pathTable .big lbaRoot, pathTable .little lbaRootJoliet,
    pathTable .big lbaRootJoliet, rootDirectory .primary placed, rootDirectory .joliet placed]
  let image := (List.replicate systemAreaSectors (List.replicate sector 0) ++ structures).flatten
  return placed.foldl writeFile image

/-! # The seed of a machine -/

def emptyUserData : String := "#cloud-config\n"

def networkConfigFile : String := "network-config"

def cidataLabel : String := "CIDATA"

/-- A seed without user data is not taken for one, so there always is some. -/
def seedFiles (domainName domainUuid : String) (userData networkConfig : Option String) : List IsoFile :=
  [⟨"meta-data", ascii ("instance-id: " ++ domainUuid ++ "\nlocal-hostname: " ++ domainName ++ "\n")⟩,
      ⟨"user-data", ascii (userData.getD emptyUserData)⟩] ++
    networkConfig.toList.map fun config => ⟨networkConfigFile, ascii config⟩

def buildSeedIso (domainName domainUuid : String) (userData networkConfig : Option String) :
    Except IsoError (List UInt8) :=
  buildIso9660 cidataLabel (seedFiles domainName domainUuid userData networkConfig)

end Banlieue.Cloudinit
