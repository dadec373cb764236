import Banlieue.Data.Basics

namespace Banlieue.Libvirt

open Banlieue.Data

/-! # What the procedures pass around -/

structure Uuid where
  bytes : List UInt8
  sized : bytes.length = 16
deriving DecidableEq

structure StoragePool where
  name : String
deriving DecidableEq

/-- A handle of a volume; the key of one in a directory pool is its path. -/
structure StorageVol where
  pool : String
  name : String
  key : String
deriving DecidableEq

structure Domain where
  name : String
  uuid : Uuid
deriving DecidableEq

inductive DomainState where
  | noState | running | blocked | paused | shuttingDown | shutOff | crashed | pmSuspended
  | unknown (code : Int)
deriving DecidableEq

def DomainState.isRunning : DomainState → Bool
  | .running | .blocked | .paused | .shuttingDown | .pmSuspended => true
  | _ => false

structure DomainIpAddr where
  kind : Int
  addr : String
  prefixLen : Nat
deriving DecidableEq

structure DomainInterface where
  name : String
  hwaddr : Option String
  addrs : List DomainIpAddr
deriving DecidableEq

inductive InterfaceAddressSource where
  | agent | lease | arp
deriving DecidableEq

/-! # Volume documents

A document is kept as the values in it, in place of their XML.
-/

inductive VolumeFormat where
  | raw | qcow2
deriving DecidableEq

structure BackingStore where
  path : String
  format : String
deriving DecidableEq

structure VolumeDocument where
  name : String
  capacity : Nat
  format : VolumeFormat
  backing : Option BackingStore := none
deriving DecidableEq

def volumeNameMax : Nat := 200

/-- The detail of a `TransportError::Protocol`. -/
structure ProtocolViolation where
  detail : String
deriving DecidableEq

def ProtocolViolation.text (violation : ProtocolViolation) : String :=
  "protocol violation: " ++ violation.detail

def isVolumeNameChar (char : Char) : Bool :=
  char.isAlphanum || char == '-' || char == '_' || char == '.'

def validateVolumeName (name : String) : Except ProtocolViolation Unit := do
  if name.isEmpty then throw ⟨"volume name is empty"⟩
  if name.utf8ByteSize > volumeNameMax then
    throw ⟨"volume name is " ++ toString name.utf8ByteSize ++ " characters, over the " ++
      toString volumeNameMax ++ " limit"⟩
  if name = "." ∨ name = ".." ∨ ['.', '.', '/'].isPrefixOf name.toList then
    throw ⟨"volume name " ++ debugText name.toList ++ " is a path, not a name"⟩
  match name.toList.find? fun char => !isVolumeNameChar char with
  | some bad =>
    throw ⟨"volume name " ++ debugText name.toList ++ " contains '" ++ String.singleton bad ++
      "'; only ASCII letters, digits, '-', '_' and '.' are allowed"⟩
  | none => return ()

def isUnsafeInPath (char : Char) : Bool :=
  char == '<' || char == '>' || char == '&' || char == '\'' || char == '"' ||
    char.toNat < 0x20 || (0x7f ≤ char.toNat && char.toNat < 0xa0)

def validateVolumePath (path : String) : Except ProtocolViolation Unit := do
  if path.isEmpty then throw ⟨"volume path is empty"⟩
  match path.toList.find? isUnsafeInPath with
  | some bad =>
    throw ⟨"volume path " ++ debugText path.toList ++ " contains '" ++ String.singleton bad ++
      "', which cannot appear in XML"⟩
  | none => return ()

def qcow2VolumeXml (name : String) (capacity : Nat) : Except ProtocolViolation VolumeDocument := do
  validateVolumeName name
  return { name := name, capacity := capacity, format := .qcow2 }

def qcow2OverlayVolumeXml (name : String) (capacity : Nat) (backingPath backingFormat : String) :
    Except ProtocolViolation VolumeDocument := do
  validateVolumeName name
  validateVolumePath backingPath
  validateVolumePath backingFormat
  return { name := name, capacity := capacity, format := .qcow2, backing := some ⟨backingPath, backingFormat⟩ }

/-- The name is not looked at. -/
def rawVolumeXml (name : String) (capacity : Nat) : VolumeDocument :=
  { name := name, capacity := capacity, format := .raw }

variable {name : String} {capacity : Nat} {document : VolumeDocument}

theorem qcow2VolumeXml_eq_ok (built : qcow2VolumeXml name capacity = .ok document) :
    document.name = name ∧ document.format = .qcow2 := by
  obtain ⟨_, -, built⟩ := exists_of_bind_eq_ok built
  cases built
  exact ⟨rfl, rfl⟩

theorem qcow2OverlayVolumeXml_eq_ok {path format : String}
    (built : qcow2OverlayVolumeXml name capacity path format = .ok document) :
    document.name = name ∧ document.format = .qcow2 := by
  obtain ⟨_, -, built⟩ := exists_of_bind_eq_ok built
  obtain ⟨_, -, built⟩ := exists_of_bind_eq_ok built
  obtain ⟨_, -, built⟩ := exists_of_bind_eq_ok built
  cases built
  exact ⟨rfl, rfl⟩

end Banlieue.Libvirt
