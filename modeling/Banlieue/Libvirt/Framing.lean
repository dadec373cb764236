import Banlieue.Libvirt.Session

namespace Banlieue.Libvirt

/-! # Framing

The length of a message is checked where it is read off a stream and where a
buffer is decoded.  Both go through `parseLengthPrefix`; the encoder does not.
-/

variable {bytes rest payload : List UInt8} {length program version : UInt32} {total : Nat}
  {header : MessageHeader}

theorem readU32_eq_ok {value : UInt32}
    (read : readU32 bytes = .ok (value, rest)) : rest = bytes.drop 4 ∧ bytes.length = rest.length + 4 := by
  match bytes with
  | [] | [_] | [_, _] | [_, _, _] => simp [readU32] at read
  | first :: second :: third :: fourth :: tail =>
    simp only [readU32, Except.ok.injEq, Prod.mk.injEq] at read
    obtain ⟨-, rfl⟩ := read
    exact ⟨rfl, rfl⟩

theorem parseLengthPrefix_eq_ok : parseLengthPrefix length = .ok total ↔
      total = length.toNat ∧ messageMin ≤ total ∧ total ≤ messageMax := by
  unfold parseLengthPrefix
  split <;> rename_i inRange
  · simp only [Except.ok.injEq]
    constructor
    · rintro rfl
      exact ⟨rfl, inRange⟩
    · rintro ⟨rfl, -⟩
      rfl
  · simp only [reduceCtorEq, false_iff]
    rintro ⟨rfl, bounds⟩
    exact inRange bounds

/-- What decoding a buffer and receiving off a stream both do once the length is
known to be in range and its bytes are there. -/
theorem decodeMessage_of_length
    (read : readU32 bytes = .ok (length, rest)) (parsed : parseLengthPrefix length = .ok total)
    (enough : total ≤ bytes.length) : decodeMessage bytes =
      (MessageHeader.decode (rest.take (total - messageLenPrefixLen))).map fun (header, _) =>
        (header, (rest.take (total - messageLenPrefixLen)).drop messageHeaderLen) := by
  obtain ⟨rfl, -⟩ := readU32_eq_ok read
  obtain ⟨-, least, -⟩ := parseLengthPrefix_eq_ok.mp parsed
  have body : (bytes.take total).drop messageLenPrefixLen =
      (bytes.drop 4).take (total - messageLenPrefixLen) := List.drop_take
  have payload : (bytes.take total).drop messageMin =
      ((bytes.drop 4).take (total - messageLenPrefixLen)).drop messageHeaderLen := by
    rw [← body, List.drop_drop]
    rfl
  have inside : ¬ bytes.length < total := by omega
  simp only [decodeMessage, read, parsed, bind, Except.bind, inside, if_false, body, payload]
  cases MessageHeader.decode ((bytes.drop 4).take (total - messageLenPrefixLen)) <;> rfl

theorem decodeReply_eq_ok : decodeReply program version rest = .ok (header, payload) ↔
      (MessageHeader.decode rest).map (fun (header, _) => (header, rest.drop messageHeaderLen)) =
          .ok (header, payload) ∧ header.program = program ∧ header.version = version := by
  unfold decodeReply
  cases decoded : MessageHeader.decode rest with
  | error reason => simp [Except.map]
  | ok result =>
    simp only [Except.map, Except.ok.injEq, Prod.mk.injEq]
    split
    · rename_i other
      simp only [reduceCtorEq, false_iff]
      rintro ⟨⟨rfl, -⟩, rfl, rfl⟩
      simp at other
    · rename_i same
      simp only [Except.ok.injEq, Prod.mk.injEq]
      constructor
      · rintro ⟨rfl, rfl⟩
        exact ⟨⟨rfl, rfl⟩, by simpa [not_or] using same⟩
      · rintro ⟨equal, -⟩
        exact equal

theorem recvOnProgram_eq_ok : (∃ rest, recvOnProgram program version bytes = some (.ok (header, payload), rest)) ↔
      decodeMessage bytes = .ok (header, payload) ∧ header.program = program ∧ header.version = version := by
  unfold recvOnProgram
  cases read : readU32 bytes with
  | error reason => simp [decodeMessage, read]
  | ok result =>
    obtain ⟨length, rest⟩ := result
    cases parsed : parseLengthPrefix length with
    | error reason => simp [decodeMessage, read, parsed, bind, Except.bind]
    | ok total =>
      obtain ⟨-, size⟩ := readU32_eq_ok read
      obtain ⟨-, least, -⟩ := parseLengthPrefix_eq_ok.mp parsed
      have atLeast : 28 ≤ total := least
      have prefixed : messageLenPrefixLen = 4 := rfl
      by_cases short : rest.length < total - messageLenPrefixLen
      · have missing : bytes.length < total := by omega
        simp [decodeMessage, read, parsed, bind, Except.bind, short, missing, throw, throwThe, MonadExceptOf.throw]
      · have enough : total ≤ bytes.length := by omega
        rw [decodeMessage_of_length read parsed enough]
        simp only [parsed, short, if_false, Option.some.injEq, Prod.mk.injEq, decodeReply_eq_ok,
          exists_and_left, exists_eq', and_true]

/-- A message is decoded back as long as it counts, length included, no more than
the largest message; a longer one is encoded and then refused. -/
theorem decodeMessage_encodeMessage (header : MessageHeader) (payload : List UInt8) :
    decodeMessage (encodeMessage header payload) = .ok (header, payload) ↔
      messageMin + payload.length ≤ messageMax := by
  have read : readU32 (encodeMessage header payload) = .ok (_, header.encode ++ payload) :=
    readU32_toBeBytes (.ofNat (messageMin + payload.length)) (header.encode ++ payload)
  constructor
  · intro decoded
    cases parsed : parseLengthPrefix (.ofNat (messageMin + payload.length)) with
    | error reason =>
      simp only [decodeMessage, read, parsed, bind, Except.bind, reduceCtorEq] at decoded
    | ok total =>
      obtain ⟨totalEq, least, most⟩ := parseLengthPrefix_eq_ok.mp parsed
      -- the length field wraps, but then the payload that is found is shorter
      have small : total ≤ messageMin + payload.length := by
        rw [totalEq, UInt32.toNat_ofNat']
        exact Nat.mod_le _ _
      have enough : total ≤ (encodeMessage header payload).length := by
        simpa [encodeMessage, messageMin, messageLenPrefixLen, Nat.add_assoc] using small
      rw [decodeMessage_of_length read parsed enough] at decoded
      have found : ((header.encode ++ payload).take (total - messageLenPrefixLen)).drop messageHeaderLen = payload := by
        cases result : MessageHeader.decode ((header.encode ++ payload).take (total - messageLenPrefixLen)) with
        | error reason => simp [result, Except.map] at decoded
        | ok value =>
          rw [result] at decoded
          exact congrArg Prod.snd (Except.ok.inj decoded)
      have lengths := congrArg List.length found
      simp only [List.length_drop, List.length_take, List.length_append, MessageHeader.length_encode] at lengths
      simp only [messageMin, messageLenPrefixLen, messageHeaderLen] at *
      omega
  · intro fits
    have wide : messageMax < 2 ^ 32 := by decide
    have length : (UInt32.ofNat (messageMin + payload.length)).toNat = messageMin + payload.length := by
      rw [UInt32.toNat_ofNat']
      exact Nat.mod_eq_of_lt (by omega)
    have parsed : parseLengthPrefix (.ofNat (messageMin + payload.length)) = .ok (messageMin + payload.length) :=
      parseLengthPrefix_eq_ok.mpr ⟨length.symm, by omega, fits⟩
    have whole : (header.encode ++ payload).length = messageMin + payload.length - messageLenPrefixLen := by
      simp only [List.length_append, MessageHeader.length_encode, messageMin]
      omega
    have enough : messageMin + payload.length ≤ (encodeMessage header payload).length := by
      simp only [encodeMessage, List.length_append, length_toBeBytes, MessageHeader.length_encode,
        messageMin, messageLenPrefixLen]
      omega
    rw [decodeMessage_of_length read parsed enough, List.take_of_length_le (Nat.le_of_eq whole),
      MessageHeader.decode_encode]
    simp only [Except.map, ← MessageHeader.length_encode header, List.drop_left]

theorem framing_agrees_iff (header : MessageHeader) (payload : List UInt8) :
    (decodeMessage (encodeMessage header payload) = .ok (header, payload) ∧
      ∀ (bytes : List UInt8) (program version : UInt32) (found : MessageHeader) (body : List UInt8),
        (∃ rest, recvOnProgram program version bytes = some (.ok (found, body), rest)) ↔
          decodeMessage bytes = .ok (found, body) ∧ found.program = program ∧ found.version = version) ↔
      payload.length + messageLenPrefixLen ≤ payloadMax := by
  rw [decodeMessage_encodeMessage]
  have limit : messageMin + payload.length ≤ messageMax ↔
      payload.length + messageLenPrefixLen ≤ payloadMax := by
    simp only [messageMin, payloadMax, messageMax, messageHeaderLen, messageLenPrefixLen]
    omega
  rw [limit]
  exact and_iff_left fun _ _ _ _ _ => recvOnProgram_eq_ok

/-- The largest payload the constant allows does not come back. -/
theorem largest_payload_refused :
    ∃ (header : MessageHeader) (payload : List UInt8), payload.length ≤ payloadMax ∧
      decodeMessage (encodeMessage header payload) ≠ .ok (header, payload) := by
  refine ⟨⟨remoteProgram, remoteProtocolVersion, 1, .call, 0, .ok⟩, .replicate payloadMax 0,
    Nat.le_of_eq List.length_replicate, ?_⟩
  intro decoded
  have fits := (decodeMessage_encodeMessage _ _).mp decoded
  rw [List.length_replicate] at fits
  exact absurd fits (by decide)

end Banlieue.Libvirt
