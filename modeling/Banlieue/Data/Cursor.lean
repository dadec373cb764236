import Mathlib.Data.List.Basic

namespace Banlieue.Data

/-! # Readers over a buffer

A reader moves a cursor over a buffer it does not change.  When it fails, the
cursor stays where the failure was found.
-/

structure Cursor (τ : Type) where
  buf : List τ
  pos : Nat

namespace Cursor

variable {τ : Type}

def rest (cursor : Cursor τ) : List τ := cursor.buf.drop cursor.pos

def remaining (cursor : Cursor τ) : Nat := cursor.buf.length - cursor.pos

def advance (cursor : Cursor τ) (count : Nat) : Cursor τ :=
  { cursor with pos := cursor.pos + count }

def Within (cursor : Cursor τ) : Prop := cursor.pos ≤ cursor.buf.length

@[simp] theorem advance_advance (cursor : Cursor τ) (first second : Nat) :
    (cursor.advance first).advance second = cursor.advance (first + second) := by
  simp only [advance, Nat.add_assoc]

@[simp] theorem length_rest (cursor : Cursor τ) : cursor.rest.length = cursor.remaining :=
  List.length_drop

@[simp] theorem rest_advance (cursor : Cursor τ) (count : Nat) :
    (cursor.advance count).rest = cursor.rest.drop count := by
  simp only [rest, advance, List.drop_drop]

theorem within_advance {cursor : Cursor τ} {count : Nat} (within : cursor.Within)
    (enough : count ≤ cursor.remaining) : (cursor.advance count).Within := by
  simp only [Within, remaining, advance] at *
  omega

end Cursor

abbrev Reader (τ ε : Type) := EStateM ε (Cursor τ)

namespace Reader

variable {τ ε α β : Type}

/-- Where a reader leaves the cursor, whether it succeeds or fails. -/
def after (read : Reader τ ε α) (cursor : Cursor τ) : Cursor τ :=
  match read cursor with
  | .ok _ next => next
  | .error _ next => next

theorem bind_apply (first : Reader τ ε α) (second : α → Reader τ ε β) (cursor : Cursor τ) :
    (first >>= second) cursor =
      match first cursor with
      | .ok value next => second value next
      | .error reason next => .error reason next := by
  simp only [bind, EStateM.bind]
  cases first cursor <;> rfl

theorem get_apply (cursor : Cursor τ) : (get : Reader τ ε (Cursor τ)) cursor = .ok cursor cursor := rfl

/-- A reader that keeps the buffer and does not move the cursor past its end. -/
def Bounded (read : Reader τ ε α) : Prop :=
  ∀ cursor, (after read cursor).buf = cursor.buf ∧ (cursor.Within → (after read cursor).Within)

namespace Bounded

theorem pure (value : α) : Bounded (Pure.pure value : Reader τ ε α) := fun _ => ⟨rfl, id⟩

theorem throw (reason : ε) : Bounded (throw reason : Reader τ ε α) := fun _ => ⟨rfl, id⟩

theorem bind {first : Reader τ ε α} {second : α → Reader τ ε β} (bounded : Bounded first)
    (bounded' : ∀ value, Bounded (second value)) : Bounded (first >>= second) := by
  intro cursor
  have kept := bounded cursor
  simp only [after, bind_apply] at kept ⊢
  cases read : first cursor with
  | error reason next => simpa only [read] using kept
  | ok value next =>
    rw [read] at kept
    have kept' := bounded' value next
    exact ⟨kept'.1.trans kept.1, fun within => kept'.2 (kept.2 within)⟩

end Bounded

/-- A reader and an encoder of the same format: what is encoded is read back, and
what is read is the encoding of what it is read as.  `valid` are the values that
the format has an encoding for. -/
structure Codes (read : Reader τ ε α) (encode : α → List τ) (valid : α → Prop) : Prop where
  reads : ∀ {cursor value rest}, valid value → cursor.rest = encode value ++ rest →
    read cursor = .ok value (cursor.advance (encode value).length)
  canonical : ∀ {cursor value next}, read cursor = .ok value next →
    valid value ∧ cursor.rest = encode value ++ next.rest

namespace Codes

variable {read : Reader τ ε α} {encode : α → List τ} {valid : α → Prop}

theorem congr (codes : Codes read encode valid) {encode' : α → List τ} {valid' : α → Prop}
    (sameValid : ∀ value, valid' value ↔ valid value)
    (sameBytes : ∀ value, valid value → encode' value = encode value) : Codes read encode' valid' where
  reads := by
    intro cursor value rest isValid starts
    have isValid := (sameValid value).mp isValid
    rw [sameBytes value isValid] at starts ⊢
    exact codes.reads isValid starts
  canonical := by
    intro cursor value next result
    obtain ⟨isValid, starts⟩ := codes.canonical result
    exact ⟨(sameValid value).mpr isValid, by rw [sameBytes value isValid, starts]⟩

theorem pure {value : α} (only : ∀ other, valid other ↔ other = value) :
    Codes (Pure.pure value : Reader τ ε α) (fun _ => []) valid where
  reads := by
    intro cursor other rest isValid _
    rw [(only other).mp isValid]
    rfl
  canonical := by
    intro cursor other next result
    cases result
    exact ⟨(only value).mpr rfl, rfl⟩

theorem throw {reason : ε} (never : ∀ value, ¬ valid value) :
    Codes (throw reason : Reader τ ε α) encode valid where
  reads := fun isValid => absurd isValid (never _)
  canonical := nofun

variable {encode' : β → List τ} {valid' : β → Prop}

/-- One item after another.  How the second is read depends on the first, which
is recovered from the whole by `tag`. -/
theorem bind {second : α → Reader τ ε β} {tag : β → α} (codes : Codes read encode valid)
    (codes' : ∀ value, valid value → Codes (second value) encode' fun whole => tag whole = value ∧ valid' whole) :
    Codes (read >>= second) (fun whole => encode (tag whole) ++ encode' whole)
      (fun whole => valid (tag whole) ∧ valid' whole) where
  reads := by
    rintro cursor whole rest ⟨isValid, isValid'⟩ starts
    rw [List.append_assoc] at starts
    have starts' : (cursor.advance (encode (tag whole)).length).rest = encode' whole ++ rest := by
      rw [Cursor.rest_advance, starts, List.drop_left]
    rw [bind_apply, codes.reads isValid starts]
    simp only [(codes' _ isValid).reads ⟨rfl, isValid'⟩ starts', Cursor.advance_advance, List.length_append]
  canonical := by
    intro cursor whole next result
    rw [bind_apply] at result
    cases first : read cursor with
    | error reason middle => simp only [first, reduceCtorEq] at result
    | ok value middle =>
      simp only [first] at result
      obtain ⟨isValid, starts⟩ := codes.canonical first
      obtain ⟨⟨rfl, isValid'⟩, starts'⟩ := (codes' value isValid).canonical result
      exact ⟨⟨isValid, isValid'⟩, by rw [starts, starts', List.append_assoc]⟩

theorem map {change : α → β} (codes : Codes read encode valid)
    (values : ∀ whole, valid' whole ↔ ∃ value, valid value ∧ change value = whole)
    (sameBytes : ∀ value, valid value → encode' (change value) = encode value) :
    Codes (read >>= fun value => Pure.pure (change value)) encode' valid' where
  reads := by
    intro cursor whole rest isValid' starts
    obtain ⟨value, isValid, rfl⟩ := (values whole).mp isValid'
    rw [sameBytes value isValid] at starts ⊢
    rw [bind_apply, codes.reads isValid starts]
    rfl
  canonical := by
    intro cursor whole next result
    rw [bind_apply] at result
    cases first : read cursor with
    | error reason middle => simp only [first, reduceCtorEq] at result
    | ok value middle =>
      simp only [first] at result
      cases result
      obtain ⟨isValid, starts⟩ := codes.canonical first
      exact ⟨(values _).mpr ⟨value, isValid, rfl⟩, by rw [sameBytes value isValid, starts]⟩

end Codes

end Reader

end Banlieue.Data
