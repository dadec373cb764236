import Mathlib.Data.Nat.Basic
import Mathlib.Tactic.Ring

namespace Banlieue.Data

/-! # Numbers as bytes -/

/-- The last `width` bytes of a number, most significant first. -/
def beBytes : Nat → Nat → List UInt8
  | 0, _ => []
  | width + 1, value => .ofNat (value / 256 ^ width) :: beBytes width value

def beValue : List UInt8 → Nat
  | [] => 0
  | byte :: rest => byte.toNat * 256 ^ rest.length + beValue rest

variable (width value : Nat)

@[simp] theorem length_beBytes : (beBytes width value).length = width := by
  induction width with
  | zero => rfl
  | succ width ih => rw [beBytes, List.length_cons, ih]

theorem beValue_lt (bytes : List UInt8) : beValue bytes < 256 ^ bytes.length := by
  induction bytes with
  | nil => decide
  | cons byte rest ih =>
    have digit : byte.toNat + 1 ≤ 256 := byte.toNat_lt
    calc beValue (byte :: rest) < (byte.toNat + 1) * 256 ^ rest.length := by
          rw [beValue, Nat.succ_mul]
          omega
      _ ≤ 256 * 256 ^ rest.length := Nat.mul_le_mul_right _ digit
      _ = 256 ^ (byte :: rest).length := by rw [List.length_cons, Nat.pow_succ']

@[simp] theorem beValue_beBytes : beValue (beBytes width value) = value % 256 ^ width := by
  induction width with
  | zero => simp [beBytes, beValue, Nat.mod_one]
  | succ width ih =>
    have split : value % (256 ^ width * 256) = _ := Nat.mod_mul
    rw [beBytes, beValue, ih, length_beBytes, UInt8.toNat_ofNat', Nat.pow_succ 256, split,
      Nat.add_comm, Nat.mul_comm (256 ^ width)]

/-- Bytes above the width do not show. -/
theorem beBytes_add_mul (factor : Nat) : beBytes width (factor * 256 ^ width + value) = beBytes width value := by
  induction width generalizing factor with
  | zero => rfl
  | succ width ih =>
    have shifted : factor * 256 ^ (width + 1) + value = factor * 256 * 256 ^ width + value := by
      rw [Nat.pow_succ']
      ring
    rw [beBytes, beBytes, shifted, ih, Nat.mul_comm, Nat.mul_add_div (Nat.pow_pos (by decide))]
    have low : UInt8.ofNat (factor * 256 + value / 256 ^ width) = .ofNat (value / 256 ^ width) := by
      apply UInt8.toNat_inj.mp
      simp only [UInt8.toNat_ofNat']
      omega
    rw [low]

@[simp] theorem beBytes_beValue (bytes : List UInt8) : beBytes bytes.length (beValue bytes) = bytes := by
  induction bytes with
  | nil => rfl
  | cons byte rest ih =>
    rw [List.length_cons, beBytes, beValue, beBytes_add_mul, ih, Nat.mul_comm,
      Nat.mul_add_div (Nat.pow_pos (by decide)), Nat.div_eq_of_lt (beValue_lt rest), Nat.add_zero, UInt8.ofNat_toNat]

/-- The last `width` bytes of a number, least significant first. -/
def leBytes (width value : Nat) : List UInt8 := (beBytes width value).reverse

def leValue (bytes : List UInt8) : Nat := beValue bytes.reverse

@[simp] theorem length_leBytes : (leBytes width value).length = width := by
  rw [leBytes, List.length_reverse, length_beBytes]

@[simp] theorem leValue_leBytes (width value : Nat) : leValue (leBytes width value) = value % 256 ^ width := by
  rw [leValue, leBytes, List.reverse_reverse, beValue_beBytes]

/-! # Bytes as text -/

def hexChar (value : Nat) : Char := if value < 10 then .ofNat (48 + value) else .ofNat (87 + value)

def hexEncode (bytes : List UInt8) : String :=
  String.ofList (bytes.flatMap fun byte => [hexChar (byte.toNat / 16), hexChar (byte.toNat % 16)])

theorem hexChar_injective {first second : Nat} (small : first < 16) (small' : second < 16)
    (same : hexChar first = hexChar second) : first = second := by
  have apart : ∀ first < 16, ∀ second < 16, hexChar first = hexChar second → first = second := by decide
  exact apart first small second small' same

theorem hexEncode_injective : Function.Injective hexEncode := by
  intro first second same
  have texts := String.ofList_injective same
  induction first generalizing second with
  | nil =>
    cases second with
    | nil => rfl
    | cons byte rest => simp at texts
  | cons byte rest ih =>
    cases second with
    | nil => simp at texts
    | cons other others =>
      simp only [List.flatMap_cons, List.cons_append, List.nil_append, List.cons.injEq] at texts
      obtain ⟨high, low, tail⟩ := texts
      have bound := byte.toNat_lt
      have bound' := other.toNat_lt
      have quotients := hexChar_injective (by omega) (by omega) high
      have remainders := hexChar_injective (by omega) (by omega) low
      have bytes : byte = other := UInt8.toNat_inj.mp (by omega)
      rw [bytes, ih (congrArg String.ofList tail) tail]

/-! # Ranges of a buffer -/

section Ranges

variable {τ : Type}

/-- The `count` items from `offset` on, or as many as there are. -/
def slice (buffer : List τ) (offset count : Nat) : List τ := (buffer.drop offset).take count

/-- Items written over those from `offset` on. -/
def patch (buffer : List τ) (offset : Nat) (items : List τ) : List τ :=
  buffer.take offset ++ (items ++ buffer.drop (offset + items.length))

/-- Fields written one after another, each with its offset. -/
def patches (buffer : List τ) (fields : List (Nat × List τ)) : List τ :=
  fields.foldl (fun buffer field => patch buffer field.1 field.2) buffer

theorem length_slice_le (buffer : List τ) (offset count : Nat) : (slice buffer offset count).length ≤ count := by
  rw [slice, List.length_take]
  exact Nat.min_le_left ..

variable {offset : Nat} {count : Nat} {first second items : List τ}

theorem slice_append_right (after : first.length ≤ offset) :
    slice (first ++ second) offset count = slice second (offset - first.length) count := by
  rw [slice, slice, List.drop_append, List.drop_eq_nil_of_le after, List.nil_append]

theorem slice_append_left (inside : offset + count ≤ first.length) :
    slice (first ++ second) offset count = slice first offset count := by
  rw [slice, slice, List.drop_append_of_le_length (by omega),
    List.take_append_of_le_length (by rw [List.length_drop]; omega)]

@[simp] theorem slice_zero_length (buffer : List τ) : slice buffer 0 buffer.length = buffer := by
  rw [slice, List.drop_zero, List.take_length]

variable {buffer : List τ}

theorem slice_all (long : buffer.length ≤ count) : slice buffer 0 count = buffer := by
  rw [slice, List.drop_zero, List.take_of_length_le long]

theorem slice_slice {inner width : Nat} (inside : inner + width ≤ count) :
    slice (slice buffer offset count) inner width = slice buffer (offset + inner) width := by
  rw [slice, slice, slice, List.drop_take, List.take_take, List.drop_drop, Nat.min_eq_left (by omega)]

/-- The blocks of a buffer that is made of blocks of one size. -/
theorem slice_flatten {blocks : List (List τ)} {size : Nat} (sized : ∀ block ∈ blocks, block.length = size)
    {number : Nat} {block : List τ} (found : blocks[number]? = some block) :
    slice blocks.flatten (number * size) size = block := by
  induction blocks generalizing number with
  | nil => simp at found
  | cons first blocks ih =>
    have head := sized first List.mem_cons_self
    rw [List.flatten_cons]
    cases number with
    | zero =>
      obtain rfl : first = block := by simpa using found
      rw [Nat.zero_mul, slice_append_left (by omega), slice_all (by omega)]
    | succ number =>
      rw [slice_append_right (by rw [head, Nat.succ_mul]; omega), head, Nat.succ_mul, Nat.add_sub_cancel]
      exact ih (fun block member => sized block (List.mem_cons_of_mem _ member)) (by simpa using found)

theorem length_patch (inside : offset + items.length ≤ buffer.length) :
    (patch buffer offset items).length = buffer.length := by
  simp only [patch, List.length_append, List.length_take, List.length_drop]
  omega

theorem slice_patch_self (inside : offset + items.length ≤ buffer.length) :
    slice (patch buffer offset items) offset items.length = items := by
  have before : (buffer.take offset).length = offset := by
    rw [List.length_take]
    omega
  rw [patch, slice_append_right (by omega), before, Nat.sub_self, slice_append_left (by omega), slice_zero_length]

theorem slice_patch_apart {other : Nat} (inside : offset + items.length ≤ buffer.length)
    (apart : other + count ≤ offset ∨ offset + items.length ≤ other) :
    slice (patch buffer offset items) other count = slice buffer other count := by
  have before : (buffer.take offset).length = offset := by
    rw [List.length_take]
    omega
  rcases apart with earlier | later
  · rw [patch, slice_append_left (by omega), slice, slice, List.drop_take, List.take_take]
    congr 1
    omega
  · rw [patch, slice_append_right (by omega), before, slice_append_right (by omega), slice, slice, List.drop_drop]
    congr 2
    omega

def Clear (first second : Nat × List τ) : Prop :=
  first.1 + first.2.length ≤ second.1 ∨ second.1 + second.2.length ≤ first.1

variable {fields : List (Nat × List τ)}

theorem length_patches (inside : ∀ field ∈ fields, field.1 + field.2.length ≤ buffer.length) :
    (patches buffer fields).length = buffer.length := by
  induction fields generalizing buffer with
  | nil => rfl
  | cons field fields ih =>
    have size := length_patch (inside field List.mem_cons_self)
    rw [patches, List.foldl_cons, ← patches, ih, size]
    intro other member
    rw [size]
    exact inside other (List.mem_cons_of_mem _ member)

theorem slice_patches_apart (inside : ∀ field ∈ fields, field.1 + field.2.length ≤ buffer.length)
    (apart : ∀ field ∈ fields, offset + count ≤ field.1 ∨ field.1 + field.2.length ≤ offset) :
    slice (patches buffer fields) offset count = slice buffer offset count := by
  induction fields generalizing buffer with
  | nil => rfl
  | cons field fields ih =>
    have size := length_patch (inside field List.mem_cons_self)
    rw [patches, List.foldl_cons, ← patches, ih,
      slice_patch_apart (inside field List.mem_cons_self) (apart field List.mem_cons_self)]
    · intro other member
      rw [size]
      exact inside other (List.mem_cons_of_mem _ member)
    · exact fun other member => apart other (List.mem_cons_of_mem _ member)

/-- What was written as a field is found there. -/
theorem slice_patches {field : Nat × List τ} (inside : ∀ field ∈ fields, field.1 + field.2.length ≤ buffer.length)
    (clear : fields.Pairwise Clear) (member : field ∈ fields) :
    slice (patches buffer fields) field.1 field.2.length = field.2 := by
  induction fields generalizing buffer with
  | nil => contradiction
  | cons first fields ih =>
    obtain ⟨clearFirst, clear⟩ := List.pairwise_cons.mp clear
    have size := length_patch (inside first List.mem_cons_self)
    have inside' : ∀ other ∈ fields, other.1 + other.2.length ≤ (patch buffer first.1 first.2).length := by
      intro other later
      rw [size]
      exact inside other (List.mem_cons_of_mem _ later)
    rw [patches, List.foldl_cons, ← patches]
    rcases List.mem_cons.mp member with rfl | later
    · rw [slice_patches_apart inside' clearFirst, slice_patch_self (inside _ List.mem_cons_self)]
    · exact ih inside' clear later

end Ranges

end Banlieue.Data
