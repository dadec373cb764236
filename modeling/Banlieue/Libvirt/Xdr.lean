import Banlieue.Data.Bytes
import Banlieue.Data.Cursor
import Banlieue.Libvirt.Rpc

namespace Banlieue.Libvirt

open Banlieue.Data

/-! # The XDR encoder and decoder -/

/-! ## Encoder -/

/-- `XDR_TRUE` and `XDR_FALSE`. -/
def boolWord (value : Bool) : UInt32 := if value then 1 else 0

structure Encoder where
  buf : List UInt8 := []

namespace Encoder

def extend (encoder : Encoder) (bytes : List UInt8) : Encoder := ⟨encoder.buf ++ bytes⟩

def writeU32 (encoder : Encoder) (value : UInt32) : Encoder := encoder.extend (toBeBytes value)

def writeI32 (encoder : Encoder) (value : Int32) : Encoder :=
  encoder.extend (toBeBytes value.toUInt32)

def writeU64 (encoder : Encoder) (value : UInt64) : Encoder :=
  encoder.extend (beBytes 8 value.toNat)

def writeI64 (encoder : Encoder) (value : Int64) : Encoder :=
  encoder.extend (beBytes 8 value.toUInt64.toNat)

def writeBool (encoder : Encoder) (value : Bool) : Encoder := encoder.writeU32 (boolWord value)

def padToAlignment (encoder : Encoder) (written : Nat) : Encoder :=
  encoder.extend (.replicate (paddingFor written) 0)

def writeOpaqueFixed (encoder : Encoder) (bytes : List UInt8) : Encoder :=
  (encoder.extend bytes).padToAlignment bytes.length

def writeOpaqueVar (encoder : Encoder) (bytes : List UInt8) : Encoder :=
  (encoder.writeU32 (.ofNat bytes.length)).writeOpaqueFixed bytes

/-- The length is in bytes, not characters. -/
def writeString (encoder : Encoder) (text : String) : Encoder :=
  encoder.writeOpaqueVar text.toUTF8.data.toList

end Encoder

/-! ## Decoder -/

abbrev Decoder := Cursor UInt8

abbrev Decoding := Reader UInt8 XdrError

def usizeMax : Nat := 2 ^ 64 - 1

namespace Decoder

def new (buf : List UInt8) : Decoder := ⟨buf, 0⟩

def isEmpty (decoder : Decoder) : Bool := decoder.remaining == 0

def takeArray (count : Nat) : Decoding (List UInt8) := do
  let decoder ← get
  if decoder.remaining < count then throw .unexpectedEof
  set (decoder.advance count)
  return decoder.rest.take count

def readU32 : Decoding UInt32 := do return .ofNat (beValue (← takeArray 4))

def readI32 : Decoding Int32 := do return (UInt32.ofNat (beValue (← takeArray 4))).toInt32

def readU64 : Decoding UInt64 := do return .ofNat (beValue (← takeArray 8))

def readI64 : Decoding Int64 := do return (UInt64.ofNat (beValue (← takeArray 8))).toInt64

def readBool : Decoding Bool := do
  let value ← readU32
  if value = 0 then return false
  else if value = 1 then return true
  else throw (.invalidBool value)

/-- Padding that is not zero stops the decoder at the byte that is not. -/
def skipPadding : Nat → Decoding Unit
  | 0 => return ()
  | pad + 1 => do
    let decoder ← get
    if decoder.buf[decoder.pos]? ≠ some 0 then throw .nonZeroPadding
    set (decoder.advance 1)
    skipPadding pad

def readOpaqueFixed (length : Nat) : Decoding (List UInt8) := do
  let needed := length + paddingFor length
  if usizeMax < needed then throw .unexpectedEof
  let decoder ← get
  if decoder.remaining < needed then throw .unexpectedEof
  set (decoder.advance length)
  skipPadding (paddingFor length)
  return decoder.rest.take length

def readOpaqueVar : Decoding (List UInt8) := do
  let length ← readU32
  if (← get).remaining < length.toNat then throw .unexpectedEof
  readOpaqueFixed length.toNat

def readString : Decoding String := do
  match String.fromUTF8? ⟨(← readOpaqueVar).toArray⟩ with
  | some text => return text
  | none => throw .invalidUtf8

end Decoder

/-! ## Items -/

inductive XdrType where
  | int | unsignedInt | hyper | unsignedHyper | bool
  | opaqueFixed (length : Nat)
  | opaqueVar
  | string
  /-- A pointer: whether there is an item, then the item. -/
  | optional (item : XdrType)

namespace XdrType

def Item : XdrType → Type
  | .int => Int32
  | .unsignedInt => UInt32
  | .hyper => Int64
  | .unsignedHyper => UInt64
  | .bool => Bool
  | .opaqueFixed _ => List UInt8
  | .opaqueVar => List UInt8
  | .string => String
  | .optional type => Option type.Item

def write : (type : XdrType) → Encoder → type.Item → Encoder
  | .int, encoder, value => encoder.writeI32 value
  | .unsignedInt, encoder, value => encoder.writeU32 value
  | .hyper, encoder, value => encoder.writeI64 value
  | .unsignedHyper, encoder, value => encoder.writeU64 value
  | .bool, encoder, value => encoder.writeBool value
  | .opaqueFixed _, encoder, bytes => encoder.writeOpaqueFixed bytes
  | .opaqueVar, encoder, bytes => encoder.writeOpaqueVar bytes
  | .string, encoder, text => encoder.writeString text
  | .optional _, encoder, none => encoder.writeBool false
  | .optional type, encoder, some item => type.write (encoder.writeBool true) item

def read : (type : XdrType) → Decoding type.Item
  | .int => Decoder.readI32
  | .unsignedInt => Decoder.readU32
  | .hyper => Decoder.readI64
  | .unsignedHyper => Decoder.readU64
  | .bool => Decoder.readBool
  | .opaqueFixed length => Decoder.readOpaqueFixed length
  | .opaqueVar => Decoder.readOpaqueVar
  | .string => Decoder.readString
  | .optional type => do if ← Decoder.readBool then return some (← type.read) else return none

/-- The items that fit their type: a length is counted in a `u32`, and a buffer in
a `usize`. -/
def Fits : (type : XdrType) → type.Item → Prop
  | .opaqueFixed length, bytes =>
    List.length bytes = length ∧ length + paddingFor length ≤ usizeMax
  | .opaqueVar, bytes => List.length bytes < 2 ^ 32
  | .string, text => (String.toUTF8 text).size < 2 ^ 32
  | .optional type, item => ∀ value, item = some value → type.Fits value
  | _, _ => True

def Items : List XdrType → Type
  | [] => Unit
  | type :: types => type.Item × Items types

def writeAll : (types : List XdrType) → Encoder → Items types → Encoder
  | [], encoder, _ => encoder
  | type :: types, encoder, (item, items) => writeAll types (type.write encoder item) items

def readAll : (types : List XdrType) → Decoding (Items types)
  | [] => return ()
  | type :: types => do
    let item ← type.read
    let items ← readAll types
    return (item, items)

def FitAll : (types : List XdrType) → Items types → Prop
  | [], _ => True
  | type :: types, (item, items) => type.Fits item ∧ FitAll types items

end XdrType

/-! ## Each read is the inverse of its write -/

section Formats

open Reader

def padded (bytes : List UInt8) : List UInt8 := bytes ++ .replicate (paddingFor bytes.length) 0

def counted (bytes : List UInt8) : List UInt8 := toBeBytes (.ofNat bytes.length) ++ padded bytes

theorem Encoder.buf_writeOpaqueFixed (encoder : Encoder) (bytes : List UInt8) :
    (encoder.writeOpaqueFixed bytes).buf = encoder.buf ++ padded bytes :=
  List.append_assoc ..

theorem Encoder.buf_writeOpaqueVar (encoder : Encoder) (bytes : List UInt8) :
    (encoder.writeOpaqueVar bytes).buf = encoder.buf ++ counted bytes := by
  rw [writeOpaqueVar, buf_writeOpaqueFixed, counted, ← List.append_assoc]
  rfl

namespace Decoder

variable (count pad length : Nat) (decoder : Decoder)

theorem takeArray_apply :
    takeArray count decoder =
      if decoder.remaining < count then .error .unexpectedEof decoder
      else .ok (decoder.rest.take count) (decoder.advance count) := by
  by_cases short : decoder.remaining < count
  · rw [if_pos short]
    simp only [takeArray, bind_apply, get_apply, short, if_true]
    rfl
  · rw [if_neg short]
    simp only [takeArray, bind_apply, get_apply, short, if_false]
    rfl

theorem codes_takeArray :
    Codes (takeArray count) id fun bytes => bytes.length = count where
  reads := by
    rintro decoder bytes rest rfl starts
    have enough : ¬ decoder.remaining < bytes.length := by
      rw [← Cursor.length_rest, starts, id_eq, List.length_append]
      omega
    rw [takeArray_apply, if_neg enough, starts, id_eq, List.take_left]
  canonical := by
    intro decoder bytes next result
    rw [takeArray_apply] at result
    split at result
    · contradiction
    · rename_i enough
      cases result
      refine ⟨?_, ?_⟩
      · rw [List.length_take, Cursor.length_rest]
        omega
      · rw [Cursor.rest_advance, id_eq, List.take_append_drop]

theorem bounded_takeArray : Bounded (takeArray count) := by
  intro decoder
  by_cases short : decoder.remaining < count
  · simp only [after, takeArray_apply, short, if_true, true_and, imp_self]
  · simp only [after, takeArray_apply, short, if_false]
    exact ⟨rfl, fun within => Cursor.within_advance within (by omega)⟩

theorem codes_word {α : Type} (width : Nat) (ofNat : Nat → α) (toNat : α → Nat)
    (recovered : ∀ value, ofNat (toNat value) = value)
    (inRange : ∀ value, toNat value < 256 ^ width)
    (kept : ∀ number, number < 256 ^ width → toNat (ofNat number) = number) :
    Codes (do return ofNat (beValue (← takeArray width))) (fun value => beBytes width (toNat value))
      fun _ => True := by
  refine (codes_takeArray width).map (fun value => ?_) fun bytes length => ?_
  · refine ⟨fun _ => ⟨_, length_beBytes width (toNat value), ?_⟩, fun _ => trivial⟩
    rw [beValue_beBytes, Nat.mod_eq_of_lt (inRange value), recovered]
  · subst length
    rw [kept _ (beValue_lt bytes), beBytes_beValue, id_eq]

theorem toBeBytes_eq (value : UInt32) : toBeBytes value = beBytes 4 value.toNat := by
  simp only [toBeBytes, beBytes, Nat.reducePow, Nat.pow_zero, Nat.div_one]

theorem codes_readU32 : Codes readU32 toBeBytes fun _ => True := by
  rw [show toBeBytes = fun value => beBytes 4 value.toNat from funext toBeBytes_eq]
  exact codes_word 4 UInt32.ofNat UInt32.toNat (fun _ => UInt32.ofNat_toNat) UInt32.toNat_lt
    fun _ inRange => UInt32.toNat_ofNat_of_lt' inRange

theorem codes_readI32 : Codes readI32 (fun value => toBeBytes value.toUInt32) fun _ => True := by
  rw [show (fun value : Int32 => toBeBytes value.toUInt32) = fun value => beBytes 4 value.toUInt32.toNat
    from funext fun value => toBeBytes_eq value.toUInt32]
  refine codes_word 4 (fun number => (UInt32.ofNat number).toInt32) (fun value => value.toUInt32.toNat)
    (fun value => ?_) (fun value => UInt32.toNat_lt _) fun number inRange => ?_
  · rw [UInt32.ofNat_toNat, Int32.toInt32_toUInt32]
  · rw [UInt32.toUInt32_toInt32, UInt32.toNat_ofNat_of_lt' inRange]

theorem codes_readU64 : Codes readU64 (fun value => beBytes 8 value.toNat) fun _ => True :=
  codes_word 8 UInt64.ofNat UInt64.toNat (fun _ => UInt64.ofNat_toNat) UInt64.toNat_lt
    fun _ inRange => UInt64.toNat_ofNat_of_lt' inRange

theorem codes_readI64 : Codes readI64 (fun value => beBytes 8 value.toUInt64.toNat) fun _ => True := by
  refine codes_word 8 (fun number => (UInt64.ofNat number).toInt64) (fun value => value.toUInt64.toNat)
    (fun value => ?_) (fun value => UInt64.toNat_lt _) fun number inRange => ?_
  · rw [UInt64.ofNat_toNat, Int64.toInt64_toUInt64]
  · rw [UInt64.toUInt64_toInt64, UInt64.toNat_ofNat_of_lt' inRange]

theorem codes_readBool : Codes readBool (fun value => toBeBytes (boolWord value)) fun _ => True := by
  have second : ∀ word : UInt32, True → Codes (if word = 0 then pure false else if word = 1 then pure true
          else throw (.invalidBool word) : Decoding Bool) (fun _ => [])
        fun value => boolWord value = word ∧ True := by
    intro word _
    by_cases isFalse : word = 0
    · rw [if_pos isFalse]
      exact .pure fun value => by cases value <;> simp [boolWord, isFalse]
    · by_cases isTrue : word = 1
      · rw [if_neg isFalse, if_pos isTrue]
        exact .pure fun value => by cases value <;> simp [boolWord, isTrue]
      · rw [if_neg isFalse, if_neg isTrue]
        refine .throw fun value => ?_
        cases value
        · exact fun same => isFalse same.1.symm
        · exact fun same => isTrue same.1.symm
  refine (codes_readU32.bind second).congr (fun value => ?_) fun value _ => ?_
  · simp only [and_self]
  · rw [List.append_nil]

theorem skipPadding_succ_apply :
    skipPadding (pad + 1) decoder =
      if decoder.buf[decoder.pos]? = some 0 then skipPadding pad (decoder.advance 1)
      else .error .nonZeroPadding decoder := by
  by_cases zero : decoder.buf[decoder.pos]? = some 0
  · rw [if_pos zero]
    simp only [skipPadding, bind_apply, get_apply, zero, ne_eq, not_true, if_false]
    rfl
  · rw [if_neg zero]
    simp only [skipPadding, bind_apply, get_apply, zero, ne_eq, not_false_iff, if_true]
    rfl

theorem head_rest : decoder.rest.head? = decoder.buf[decoder.pos]? := by
  rw [Cursor.rest, List.head?_drop]

theorem codes_skipPadding : Codes (skipPadding pad) (fun _ => .replicate pad 0) fun _ => True := by
  induction pad with
  | zero => exact .pure fun _ => by simp
  | succ pad ih =>
    constructor
    · intro decoder value rest _ starts
      have zero : decoder.buf[decoder.pos]? = some 0 := by rw [← head_rest, starts]; rfl
      have starts' : (decoder.advance 1).rest = .replicate pad 0 ++ rest := by
        rw [Cursor.rest_advance, starts]
        rfl
      rw [skipPadding_succ_apply, if_pos zero, ih.reads trivial starts', Cursor.advance_advance,
        List.length_replicate, List.length_replicate, Nat.add_comm]
    · intro decoder value next result
      rw [skipPadding_succ_apply] at result
      split at result
      · rename_i zero
        obtain ⟨-, starts'⟩ := ih.canonical result
        rw [← head_rest] at zero
        obtain ⟨tail, starts⟩ := List.head?_eq_some_iff.mp zero
        refine ⟨trivial, ?_⟩
        rw [Cursor.rest_advance, starts] at starts'
        rw [starts, List.replicate_succ, List.cons_append, ← starts']
        rfl
      · contradiction

theorem bounded_skipPadding : (after (skipPadding pad) decoder).buf = decoder.buf ∧
      (decoder.pos + pad ≤ decoder.buf.length → (after (skipPadding pad) decoder).Within) := by
  induction pad generalizing decoder with
  | zero => exact ⟨rfl, id⟩
  | succ pad ih =>
    by_cases zero : decoder.buf[decoder.pos]? = some 0
    · obtain ⟨sameBuf, within⟩ := ih (decoder.advance 1)
      simp only [after, skipPadding_succ_apply, zero, if_true]
      refine ⟨sameBuf, fun enough => within ?_⟩
      simp only [Cursor.advance]
      omega
    · simp only [after, skipPadding_succ_apply, zero, if_false, true_and, Cursor.Within]
      omega

theorem readOpaqueFixed_apply :
    readOpaqueFixed length decoder =
      if usizeMax < length + paddingFor length ∨ decoder.remaining < length + paddingFor length then
        .error .unexpectedEof decoder
      else
        (skipPadding (paddingFor length) >>= fun _ => pure (decoder.rest.take length) : Decoding _)
          (decoder.advance length) := by
  by_cases overflow : usizeMax < length + paddingFor length
  · rw [if_pos (.inl overflow)]
    simp only [readOpaqueFixed, overflow, if_true]
    rfl
  · by_cases short : decoder.remaining < length + paddingFor length
    · rw [if_pos (.inr short)]
      simp only [readOpaqueFixed, overflow, if_false, bind_apply, get_apply, short, if_true]
      rfl
    · rw [if_neg (not_or.mpr ⟨overflow, short⟩)]
      simp only [readOpaqueFixed, overflow, if_false, bind_apply, get_apply, short]
      rfl

theorem codes_readOpaqueFixed :
    Codes (readOpaqueFixed length) (fun bytes => bytes ++ .replicate (paddingFor length) 0)
      fun bytes => bytes.length = length ∧ length + paddingFor length ≤ usizeMax where
  reads := by
    rintro decoder bytes rest ⟨rfl, fits⟩ starts
    have size : decoder.remaining = bytes.length + paddingFor bytes.length + rest.length := by
      rw [← Cursor.length_rest, starts, List.length_append, List.length_append, List.length_replicate]
    have enough : ¬ (usizeMax < bytes.length + paddingFor bytes.length ∨
        decoder.remaining < bytes.length + paddingFor bytes.length) := by omega
    rw [List.append_assoc] at starts
    have padded : (decoder.advance bytes.length).rest = .replicate (paddingFor bytes.length) 0 ++ rest := by
      rw [Cursor.rest_advance, starts, List.drop_left]
    have skipped : skipPadding (paddingFor bytes.length) (decoder.advance bytes.length) = .ok () _ :=
      (codes_skipPadding _).reads trivial padded
    rw [readOpaqueFixed_apply, if_neg enough, bind_apply, skipped, starts, List.take_left,
      Cursor.advance_advance, List.length_append]
    rfl
  canonical := by
    intro decoder bytes next result
    rw [readOpaqueFixed_apply] at result
    split at result
    · contradiction
    · rename_i enough
      rw [bind_apply] at result
      cases padded : skipPadding (paddingFor length) (decoder.advance length) with
      | error reason middle => simp only [padded, reduceCtorEq] at result
      | ok value middle =>
        simp only [padded] at result
        cases result
        obtain ⟨-, starts⟩ := (codes_skipPadding _).canonical padded
        rw [Cursor.rest_advance] at starts
        refine ⟨⟨?_, by omega⟩, ?_⟩
        · rw [List.length_take, Cursor.length_rest]
          omega
        · rw [List.append_assoc, ← starts, List.take_append_drop]

theorem bounded_readOpaqueFixed : Bounded (readOpaqueFixed length) := by
  intro decoder
  by_cases short : usizeMax < length + paddingFor length ∨ decoder.remaining < length + paddingFor length
  · simp only [after, readOpaqueFixed_apply, short, if_true, true_and, imp_self]
  · obtain ⟨sameBuf, inside⟩ := bounded_skipPadding (paddingFor length) (decoder.advance length)
    have within : decoder.Within → (after (skipPadding (paddingFor length)) (decoder.advance length)).Within := by
      intro within
      apply inside
      simp only [Cursor.Within, Cursor.remaining, Cursor.advance] at *
      omega
    simp only [after, readOpaqueFixed_apply, short, if_false, bind_apply] at sameBuf within ⊢
    cases padded : skipPadding (paddingFor length) (decoder.advance length) <;>
      simp only [padded] at sameBuf within <;> exact ⟨sameBuf, within⟩

theorem readOpaqueVar_eq : readOpaqueVar = readU32 >>= fun length => readOpaqueFixed length.toNat := by
  funext decoder
  simp only [readOpaqueVar, bind_apply]
  cases readU32 decoder with
  | error reason next => rfl
  | ok length next =>
    by_cases short : next.remaining < length.toNat
    · have shorter : next.remaining < length.toNat + paddingFor length.toNat := by omega
      simp only [get_apply, short, if_true]
      rw [readOpaqueFixed_apply, if_pos (.inr shorter)]
      rfl
    · simp only [get_apply, short, if_false]

theorem codes_readOpaqueVar : Codes readOpaqueVar counted fun bytes => bytes.length < 2 ^ 32 := by
  have second : ∀ length : UInt32, True → Codes (readOpaqueFixed length.toNat) padded
        fun bytes => UInt32.ofNat bytes.length = length ∧ bytes.length < 2 ^ 32 := by
    intro length _
    refine (codes_readOpaqueFixed length.toNat).congr (fun bytes => ?_) fun bytes fits => by
      rw [← fits.1, padded]
    constructor
    · rintro ⟨rfl, inRange⟩
      rw [UInt32.toNat_ofNat_of_lt' inRange]
      exact ⟨rfl, by simp only [paddingFor, usizeMax]; omega⟩
    · rintro ⟨sameLength, -⟩
      rw [sameLength]
      exact ⟨UInt32.ofNat_toNat, length.toNat_lt⟩
  rw [readOpaqueVar_eq]
  exact (codes_readU32.bind second).congr (fun _ => by rw [true_and]) fun _ _ => rfl

theorem toUTF8_eq_iff {text : String} {bytes : List UInt8} :
    text.toUTF8.data.toList = bytes ↔ String.fromUTF8? ⟨bytes.toArray⟩ = some text := by
  constructor
  · rintro rfl
    rw [Array.toArray_toList, String.fromUTF8?]
    exact dif_pos text.isValidUTF8
  · intro decoded
    unfold String.fromUTF8? at decoded
    split at decoded
    · cases decoded
      rfl
    · contradiction

theorem codes_readString : Codes readString (fun text => counted text.toUTF8.data.toList)
      fun text => text.toUTF8.size < 2 ^ 32 := by
  have second : ∀ bytes : List UInt8, bytes.length < 2 ^ 32 → Codes (match String.fromUTF8? ⟨bytes.toArray⟩ with
          | some text => pure text
          | none => throw .invalidUtf8 : Decoding String) (fun _ => [])
        fun text => text.toUTF8.data.toList = bytes ∧ True := by
    intro bytes _
    simp only [and_true, toUTF8_eq_iff]
    cases decoded : String.fromUTF8? ⟨bytes.toArray⟩ with
    | none => exact .throw fun _ => by simp
    | some text => exact .pure fun other => by rw [Option.some.injEq, eq_comm]
  refine (codes_readOpaqueVar.bind second).congr (fun text => ?_) fun text _ => ?_
  · rw [and_true]
    rfl
  · rw [List.append_nil]

theorem bounded_readU32 : Bounded readU32 := (bounded_takeArray 4).bind fun _ => .pure _

theorem bounded_readBool : Bounded readBool := by
  refine bounded_readU32.bind fun value => ?_
  split
  · exact .pure _
  · split
    · exact .pure _
    · exact .throw _

theorem bounded_readOpaqueVar : Bounded readOpaqueVar := by
  rw [readOpaqueVar_eq]
  exact bounded_readU32.bind fun length => bounded_readOpaqueFixed length.toNat

theorem bounded_readString : Bounded readString := by
  refine bounded_readOpaqueVar.bind fun bytes => ?_
  split
  · exact .pure _
  · exact .throw _

end Decoder

namespace XdrType

/-- What an item adds to an encoder's buffer. -/
def bytes : (type : XdrType) → type.Item → List UInt8
  | .int, value => toBeBytes (Int32.toUInt32 value)
  | .unsignedInt, value => toBeBytes value
  | .hyper, value => beBytes 8 (Int64.toUInt64 value).toNat
  | .unsignedHyper, value => beBytes 8 (UInt64.toNat value)
  | .bool, value => toBeBytes (boolWord value)
  | .opaqueFixed _, bytes => padded bytes
  | .opaqueVar, bytes => counted bytes
  | .string, text => counted (String.toUTF8 text).data.toList
  | .optional _, none => toBeBytes 0
  | .optional type, some item => toBeBytes 1 ++ type.bytes item

variable (type : XdrType) (types : List XdrType) (encoder : Encoder)

theorem buf_write (item : type.Item) : (type.write encoder item).buf = encoder.buf ++ type.bytes item := by
  induction type generalizing encoder with
  | opaqueFixed length => exact encoder.buf_writeOpaqueFixed item
  | opaqueVar => exact encoder.buf_writeOpaqueVar item
  | string => exact encoder.buf_writeOpaqueVar _
  | optional type ih =>
    cases item with
    | none => rfl
    | some value => exact (ih _ value).trans (List.append_assoc ..)
  | _ => rfl

theorem codes_optional {type : XdrType} (codes : Codes type.read type.bytes type.Fits) :
    Codes (optional type).read (optional type).bytes (optional type).Fits := by
  let body : (optional type).Item → List UInt8 := fun item => Option.elim item [] type.bytes
  have present : Codes (type.read >>= fun value => pure (some value)) body
      fun item => Option.isSome item = true ∧ (optional type).Fits item := by
    refine codes.map (fun item => ?_) fun _ _ => rfl
    cases item with
    | none => exact ⟨nofun, nofun⟩
    | some value =>
      refine ⟨fun fits => ⟨value, fits.2 value rfl, rfl⟩, ?_⟩
      rintro ⟨_, fits, ⟨⟩⟩
      exact ⟨rfl, fun _ same => Option.some.inj same ▸ fits⟩
  have absent : Codes (pure none : Decoding (optional type).Item) body
      fun item => Option.isSome item = false ∧ (optional type).Fits item := by
    refine (Codes.pure fun item => ?_).congr (fun _ => Iff.rfl) ?_
    · cases item with
      | none => exact ⟨fun _ => rfl, fun _ => ⟨rfl, nofun⟩⟩
      | some value => exact ⟨fun isNone => absurd isNone.1 (by simp), nofun⟩
    · rintro (_ | value) ⟨isNone, -⟩
      · rfl
      · contradiction
  have second : ∀ value, True →
      Codes (if value = true then type.read >>= fun item => pure (some item) else pure none) body
        fun item => Option.isSome item = value ∧ (optional type).Fits item := by
    rintro (_ | _) _
    · exact absent
    · exact present
  refine (Decoder.codes_readBool.bind second).congr (fun _ => by rw [true_and]) ?_
  rintro (_ | value) _
  · exact (List.append_nil _).symm
  · rfl

theorem codes_read : Codes type.read type.bytes type.Fits := by
  induction type with
  | int => exact Decoder.codes_readI32
  | unsignedInt => exact Decoder.codes_readU32
  | hyper => exact Decoder.codes_readI64
  | unsignedHyper => exact Decoder.codes_readU64
  | bool => exact Decoder.codes_readBool
  | opaqueFixed length =>
    exact (Decoder.codes_readOpaqueFixed length).congr (fun _ => Iff.rfl) fun bytes fits => by
      rw [← fits.1]
      rfl
  | opaqueVar => exact Decoder.codes_readOpaqueVar
  | string => exact Decoder.codes_readString
  | optional type ih => exact codes_optional ih

theorem bounded_read : Bounded type.read := by
  induction type with
  | int => exact (Decoder.bounded_takeArray 4).bind fun _ => .pure _
  | unsignedInt => exact Decoder.bounded_readU32
  | hyper => exact (Decoder.bounded_takeArray 8).bind fun _ => .pure _
  | unsignedHyper => exact (Decoder.bounded_takeArray 8).bind fun _ => .pure _
  | bool => exact Decoder.bounded_readBool
  | opaqueFixed length => exact Decoder.bounded_readOpaqueFixed length
  | opaqueVar => exact Decoder.bounded_readOpaqueVar
  | string => exact Decoder.bounded_readString
  | optional type ih =>
    refine Decoder.bounded_readBool.bind fun present => ?_
    cases present with
    | false => exact .pure _
    | true => exact ih.bind fun _ => .pure _

/-! ## Sequences -/

def allBytes : (types : List XdrType) → Items types → List UInt8
  | [], _ => []
  | type :: types, (item, items) => type.bytes item ++ allBytes types items

theorem buf_writeAll (items : Items types) :
    (writeAll types encoder items).buf = encoder.buf ++ allBytes types items := by
  induction types generalizing encoder with
  | nil => exact (List.append_nil _).symm
  | cons type types ih =>
    obtain ⟨item, items⟩ := items
    rw [writeAll, ih, buf_write, allBytes, List.append_assoc]

theorem codes_readAll : Codes (readAll types) (allBytes types) (FitAll types) := by
  induction types with
  | nil => exact (Codes.pure fun _ => ⟨fun _ => rfl, fun _ => trivial⟩).congr (fun _ => Iff.rfl) fun _ _ => rfl
  | cons type types ih =>
    -- the items after the first are read the same whatever the first is
    have second : ∀ item, type.Fits item →
        Codes (readAll types >>= fun items => pure (item, items)) (fun all => allBytes types all.2)
          fun all : Items (type :: types) => all.1 = item ∧ FitAll types all.2 := by
      intro item _
      refine ih.map (fun all => ⟨fun fit => ⟨all.2, fit.2, ?_⟩, ?_⟩) fun _ _ => rfl
      · rw [← fit.1]
      · rintro ⟨items, fit, rfl⟩
        exact ⟨rfl, fit⟩
    exact ((codes_read type).bind second).congr (fun _ => Iff.rfl) fun _ _ => rfl

theorem bounded_readAll : Bounded (readAll types) := by
  induction types with
  | nil => exact .pure _
  | cons type types ih => exact (bounded_read type).bind fun _ => ih.bind fun _ => .pure _

theorem isEmpty_iff {decoder : Decoder} : Decoder.isEmpty decoder = true ↔ decoder.rest = [] := by
  rw [Decoder.isEmpty, beq_iff_eq, ← Cursor.length_rest, List.length_eq_zero_iff]

/-- Where a decoder is after reads made one after another, those after a failed
one included. -/
def cursorAfter (attempts : List XdrType) (decoder : Decoder) : Decoder :=
  attempts.foldl (fun decoder type => after type.read decoder) decoder

theorem cursorAfter_within (attempts : List XdrType) {decoder : Decoder} (within : decoder.Within) :
    (cursorAfter attempts decoder).buf = decoder.buf ∧ (cursorAfter attempts decoder).Within := by
  induction attempts generalizing decoder with
  | nil => exact ⟨rfl, within⟩
  | cons type attempts ih =>
    obtain ⟨sameBuf, kept⟩ := type.bounded_read decoder
    obtain ⟨sameBuf', within'⟩ := ih (kept within)
    exact ⟨sameBuf'.trans sameBuf, within'⟩

theorem sequence_canonical (types : List XdrType) :
    (∀ items : Items types, FitAll types items →
      ∃ last, readAll types (Decoder.new (writeAll types {} items).buf) = .ok items last ∧
        Decoder.isEmpty last = true) ∧
    (∀ (bytes : List UInt8) (items : Items types) (last : Decoder),
      readAll types (Decoder.new bytes) = .ok items last → Decoder.isEmpty last = true →
        FitAll types items ∧ (writeAll types {} items).buf = bytes) ∧
    (∀ bytes : List UInt8, (after (readAll types) (Decoder.new bytes)).pos ≤ bytes.length ∧
      (cursorAfter types (Decoder.new bytes)).pos ≤ bytes.length) := by
  refine ⟨fun items fit => ?_, fun bytes items last result empty => ?_, fun bytes => ⟨?_, ?_⟩⟩
  · have written : (writeAll types {} items).buf = allBytes types items := buf_writeAll types {} items
    have starts : (Decoder.new (allBytes types items)).rest = allBytes types items ++ [] :=
      (List.append_nil _).symm
    refine ⟨_, by rw [written]; exact (codes_readAll types).reads fit starts, ?_⟩
    rw [isEmpty_iff, Cursor.rest_advance, starts, List.drop_left]
  · obtain ⟨fit, starts⟩ := (codes_readAll types).canonical result
    rw [isEmpty_iff.mp empty, List.append_nil] at starts
    exact ⟨fit, (buf_writeAll types {} items).trans starts.symm⟩
  · obtain ⟨sameBuf, kept⟩ := bounded_readAll types (Decoder.new bytes)
    exact (kept (Nat.zero_le _)).trans_eq (congrArg List.length sameBuf)
  · obtain ⟨sameBuf, within⟩ := @cursorAfter_within types (Decoder.new bytes) (Nat.zero_le _)
    exact within.trans_eq (congrArg List.length sameBuf)

end XdrType

end Formats

end Banlieue.Libvirt
