import Mathlib.Data.List.Basic
import Mathlib.Algebra.Group.Nat.Defs
import Mathlib.Tactic.Common

namespace Banlieue.Libvirt

/-! # XDR

Items are big-endian and take a multiple of four bytes.  A reader returns what it
has read and the bytes that remain.
-/

inductive XdrError where
  | unexpectedEof
  | nonZeroPadding
  | invalidBool (value : UInt32)
  | invalidUtf8
deriving DecidableEq

def toBeBytes (value : UInt32) : List UInt8 :=
  [.ofNat (value.toNat / 2 ^ 24), .ofNat (value.toNat / 2 ^ 16), .ofNat (value.toNat / 2 ^ 8),
    .ofNat value.toNat]

def fromBeBytes (first second third fourth : UInt8) : UInt32 :=
  .ofNat (((first.toNat * 256 + second.toNat) * 256 + third.toNat) * 256 + fourth.toNat)

def readU32 : List UInt8 → Except XdrError (UInt32 × List UInt8)
  | first :: second :: third :: fourth :: rest => .ok (fromBeBytes first second third fourth, rest)
  | _ => .error .unexpectedEof

def writeI32 (value : Int32) : List UInt8 := toBeBytes value.toUInt32

def readI32 (bytes : List UInt8) : Except XdrError (Int32 × List UInt8) :=
  (readU32 bytes).map fun (value, rest) => (value.toInt32, rest)

def readBool (bytes : List UInt8) : Except XdrError (Bool × List UInt8) := do
  let (value, rest) ← readU32 bytes
  if value = 0 then return (false, rest)
  else if value = 1 then return (true, rest)
  else throw (.invalidBool value)

def paddingFor (length : Nat) : Nat := (4 - length % 4) % 4

def readOpaqueFixed (length : Nat) (bytes : List UInt8) : Except XdrError (List UInt8 × List UInt8) :=
  if bytes.length < length + paddingFor length then throw .unexpectedEof
  else if (bytes.drop length).take (paddingFor length) |>.all (· == 0) then
    return (bytes.take length, bytes.drop (length + paddingFor length))
  else throw .nonZeroPadding

/-- The length comes off the wire, so it is checked before anything is read. -/
def readOpaqueVar (bytes : List UInt8) : Except XdrError (List UInt8 × List UInt8) := do
  let (length, rest) ← readU32 bytes
  if rest.length < length.toNat then throw .unexpectedEof
  else readOpaqueFixed length.toNat rest

def readString (bytes : List UInt8) : Except XdrError (String × List UInt8) := do
  let (text, rest) ← readOpaqueVar bytes
  match String.fromUTF8? ⟨text.toArray⟩ with
  | some decoded => return (decoded, rest)
  | none => throw .invalidUtf8

@[simp] theorem length_toBeBytes (value : UInt32) : (toBeBytes value).length = 4 := rfl

@[simp] theorem length_writeI32 (value : Int32) : (writeI32 value).length = 4 := rfl

theorem fromBeBytes_toBeBytes (value : UInt32) :
    fromBeBytes (.ofNat (value.toNat / 2 ^ 24)) (.ofNat (value.toNat / 2 ^ 16))
      (.ofNat (value.toNat / 2 ^ 8)) (.ofNat value.toNat) = value := by
  have bound := value.toNat_lt
  apply UInt32.toNat_inj.mp
  simp only [fromBeBytes, UInt32.toNat_ofNat', UInt8.toNat_ofNat']
  omega

@[simp] theorem readU32_toBeBytes (value : UInt32) (rest : List UInt8) :
    readU32 (toBeBytes value ++ rest) = .ok (value, rest) := by
  simp only [toBeBytes, List.cons_append, List.nil_append, readU32, fromBeBytes_toBeBytes]

@[simp] theorem readI32_writeI32 (value : Int32) (rest : List UInt8) :
    readI32 (writeI32 value ++ rest) = .ok (value, rest) := by
  simp only [readI32, writeI32, readU32_toBeBytes, Except.map, Int32.toInt32_toUInt32]

/-! # Messages

A message is its length, itself included, six header fields and the payload.
-/

def remoteProgram : UInt32 := 0x20008086

def remoteProtocolVersion : UInt32 := 1

def messageHeaderLen : Nat := 24

def messageLenPrefixLen : Nat := 4

def messageMax : Nat := 33554432

def payloadMax : Nat := messageMax - messageHeaderLen

def messageMin : Nat := messageLenPrefixLen + messageHeaderLen

inductive MessageType where
  | call | reply | message | stream | callWithFds | replyWithFds | streamHole
deriving DecidableEq

inductive MessageStatus where
  | ok | error | «continue»
deriving DecidableEq

inductive RpcError where
  | xdr (reason : XdrError)
  | invalidLength (length : UInt32)
  | truncated (expected actual : Nat)
  | invalidMessageType (value : Int32)
  | invalidMessageStatus (value : Int32)
deriving DecidableEq

namespace MessageType

def toWire : MessageType → Int32
  | .call => 0
  | .reply => 1
  | .message => 2
  | .stream => 3
  | .callWithFds => 4
  | .replyWithFds => 5
  | .streamHole => 6

def fromWire (value : Int32) : Except RpcError MessageType :=
  match value.toInt with
  | 0 => .ok .call
  | 1 => .ok .reply
  | 2 => .ok .message
  | 3 => .ok .stream
  | 4 => .ok .callWithFds
  | 5 => .ok .replyWithFds
  | 6 => .ok .streamHole
  | _ => .error (.invalidMessageType value)

@[simp] theorem fromWire_toWire (type : MessageType) : fromWire type.toWire = .ok type := by
  cases type <;> rfl

end MessageType

namespace MessageStatus

def toWire : MessageStatus → Int32
  | .ok => 0
  | .error => 1
  | .continue => 2

def fromWire (value : Int32) : Except RpcError MessageStatus :=
  match value.toInt with
  | 0 => .ok .ok
  | 1 => .ok .error
  | 2 => .ok .continue
  | _ => .error (.invalidMessageStatus value)

@[simp] theorem fromWire_toWire (status : MessageStatus) : fromWire status.toWire = .ok status := by
  cases status <;> rfl

end MessageStatus

structure MessageHeader where
  program : UInt32
  version : UInt32
  procedure : Int32
  messageType : MessageType
  serial : UInt32
  status : MessageStatus
deriving DecidableEq

namespace MessageHeader

def encode (header : MessageHeader) : List UInt8 :=
  toBeBytes header.program ++ (toBeBytes header.version ++ (writeI32 header.procedure ++
    (writeI32 header.messageType.toWire ++ (toBeBytes header.serial ++
      writeI32 header.status.toWire))))

def decode (bytes : List UInt8) : Except RpcError (MessageHeader × List UInt8) := do
  let (program, bytes) ← (readU32 bytes).mapError .xdr
  let (version, bytes) ← (readU32 bytes).mapError .xdr
  let (procedure, bytes) ← (readI32 bytes).mapError .xdr
  let (type, bytes) ← (readI32 bytes).mapError .xdr
  let messageType ← MessageType.fromWire type
  let (serial, bytes) ← (readU32 bytes).mapError .xdr
  let (status, bytes) ← (readI32 bytes).mapError .xdr
  let status ← MessageStatus.fromWire status
  return ({ program, version, procedure, messageType, serial, status }, bytes)

@[simp] theorem length_encode (header : MessageHeader) : header.encode.length = messageHeaderLen :=
  rfl

theorem decode_encode (header : MessageHeader) (rest : List UInt8) :
    decode (header.encode ++ rest) = .ok (header, rest) := by
  simp only [decode, encode, List.append_assoc, readU32_toBeBytes, readI32_writeI32,
    Except.mapError, bind, Except.bind, MessageType.fromWire_toWire, MessageStatus.fromWire_toWire]
  rfl

end MessageHeader

/-- A length that cannot be one is rejected before it sizes a buffer. -/
def parseLengthPrefix (length : UInt32) : Except RpcError Nat :=
  if messageMin ≤ length.toNat ∧ length.toNat ≤ messageMax then .ok length.toNat
  else .error (.invalidLength length)

def encodeMessage (header : MessageHeader) (payload : List UInt8) : List UInt8 :=
  toBeBytes (.ofNat (messageMin + payload.length)) ++ (header.encode ++ payload)

/-- Bytes after the length that the message claims are not looked at. -/
def decodeMessage (bytes : List UInt8) : Except RpcError (MessageHeader × List UInt8) :=
  match readU32 bytes with
  | .error _ => .error (.truncated messageLenPrefixLen bytes.length)
  | .ok (length, _) => do
    let total ← parseLengthPrefix length
    if bytes.length < total then throw (.truncated total bytes.length)
    let (header, _) ← MessageHeader.decode ((bytes.take total).drop messageLenPrefixLen)
    return (header, (bytes.take total).drop messageMin)

end Banlieue.Libvirt
