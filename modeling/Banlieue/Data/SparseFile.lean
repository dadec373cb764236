import Mathlib.Data.List.Basic

namespace Banlieue.Data

/-! # Files with holes

What was skipped and not written later reads as zeros.
-/

structure SparseFile (τ : Type) where
  contents : List τ
  position : Nat
deriving DecidableEq

section

variable {τ : Type} (zero : τ)

/-- The first `length` items, with zeros after the last one that was written. -/
def resize (contents : List τ) (length : Nat) : List τ :=
  contents.take length ++ List.replicate (length - contents.length) zero

theorem resize_append_replicate (contents : List τ) {length : Nat} (short : contents.length ≤ length) (count : Nat) :
    resize zero contents (length + count) = resize zero contents length ++ List.replicate count zero := by
  rw [resize, resize, List.take_of_length_le short, List.take_of_length_le (by omega), List.append_assoc,
    List.replicate_append_replicate]
  congr 2
  omega

theorem resize_self (contents : List τ) : resize zero contents contents.length = contents := by
  rw [resize, List.take_length, Nat.sub_self, List.replicate_zero, List.append_nil]

namespace SparseFile

def new : SparseFile τ := ⟨[], 0⟩

def seek (file : SparseFile τ) (count : Nat) : SparseFile τ :=
  { file with position := file.position + count }

def write (file : SparseFile τ) (items : List τ) : SparseFile τ where
  contents := resize zero file.contents file.position ++ items ++
    file.contents.drop (file.position + items.length)
  position := file.position + items.length

def setLength (file : SparseFile τ) (length : Nat) : SparseFile τ :=
  { file with contents := resize zero file.contents length }

/-- The file reads as `items` up to its position once its length is set, and has
nothing beyond. -/
structure Reads (file : SparseFile τ) (items : List τ) : Prop where
  position : file.position = items.length
  short : file.contents.length ≤ items.length
  resized : resize zero file.contents items.length = items

variable {zero} {file : SparseFile τ} {items : List τ}

theorem reads_new : (new : SparseFile τ).Reads zero [] := ⟨rfl, Nat.le_refl _, rfl⟩

theorem Reads.seek (reads : file.Reads zero items) (count : Nat) :
    (file.seek count).Reads zero (items ++ List.replicate count zero) where
  position := by rw [SparseFile.seek, reads.position, List.length_append, List.length_replicate]
  short := by
    rw [List.length_append]
    exact Nat.le_trans reads.short (Nat.le_add_right ..)
  resized := by
    rw [List.length_append, List.length_replicate]
    exact (resize_append_replicate zero _ reads.short count).trans (by rw [reads.resized])

theorem Reads.write (reads : file.Reads zero items) (more : List τ) :
    (file.write zero more).Reads zero (items ++ more) := by
  have contents : (file.write zero more).contents = items ++ more := by
    have beyond : file.contents.drop (items.length + more.length) = [] :=
      List.drop_eq_nil_of_le (Nat.le_trans reads.short (Nat.le_add_right ..))
    rw [SparseFile.write, reads.position, reads.resized, beyond, List.append_nil]
  refine ⟨?_, ?_, ?_⟩
  · rw [SparseFile.write, reads.position, List.length_append]
  · exact Nat.le_of_eq (congrArg List.length contents)
  · rw [contents, resize_self]

theorem Reads.setLength (reads : file.Reads zero items) : (file.setLength zero items.length).contents = items :=
  reads.resized

end SparseFile

end

end Banlieue.Data
