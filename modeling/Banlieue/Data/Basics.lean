import Mathlib.Data.String.Basic

namespace Banlieue.Data

variable {ε α β : Type} {separator text before after : List Char}

/-- A sequence of fallible steps succeeds only if each of them does. -/
theorem exists_of_bind_eq_ok {first : Except ε α} {next : α → Except ε β} {value : β}
    (succeeded : (first >>= next) = .ok value) : ∃ middle, first = .ok middle ∧ next middle = .ok value := by
  cases first with
  | error reason => cases succeeded
  | ok middle => exact ⟨middle, rfl, succeeded⟩

theorem exists_of_map_eq_ok {first : Except ε α} {change : α → β} {value : β}
    (succeeded : first.map change = .ok value) : ∃ middle, first = .ok middle ∧ change middle = value := by
  cases first with
  | error reason => cases succeeded
  | ok middle =>
    cases succeeded
    exact ⟨middle, rfl, rfl⟩

theorem ok_of_mapError {ε' : Type} {result : Except ε α} {wrap : ε → ε'} {value : α}
    (succeeded : result.mapError wrap = .ok value) : result = .ok value := by
  cases result with
  | error why => cases succeeded
  | ok found => exact congrArg Except.ok (Except.ok.inj succeeded)

/-- Rust's quoted form of a text, for the characters such entries are made of. -/
def debugText (text : List Char) : String :=
  let escape : Char → List Char
    | '"' => ['\\', '"']
    | '\\' => ['\\', '\\']
    | '\n' => ['\\', 'n']
    | '\t' => ['\\', 't']
    | '\r' => ['\\', 'r']
    | character => [character]
  String.ofList ('"' :: text.flatMap escape ++ ['"'])

/-! # Reading a text -/

def splitOnce (separator : Char) (text : List Char) : Option (List Char × List Char) :=
  match text.span (· != separator) with
  | (before, _ :: after) => some (before, after)
  | (_, []) => none

/-- The same at the last separator. -/
def rsplitOnce (separator : Char) (text : List Char) : Option (List Char × List Char) :=
  (splitOnce separator text.reverse).map fun (after, before) => (before.reverse, after.reverse)

/-- The same at a separator of several characters. -/
def splitOnceText (separator : List Char) : List Char → Option (List Char × List Char)
  | [] => none
  | first :: rest =>
    if separator.isPrefixOf (first :: rest) then some ([], (first :: rest).drop separator.length)
    else (splitOnceText separator rest).map fun (before, after) => (first :: before, after)

theorem eq_of_splitOnceText
    (split : splitOnceText separator text = some (before, after)) : text = before ++ separator ++ after := by
  induction text generalizing before with
  | nil => cases split
  | cons first text ih =>
    rw [splitOnceText] at split
    split at split
    · rename_i found
      obtain ⟨rfl, rfl⟩ := Prod.mk.inj (Option.some.inj split)
      exact (List.prefix_iff_eq_append.mp (List.isPrefixOf_iff_prefix.mp found)).symm
    · obtain ⟨⟨head, tail⟩, later, same⟩ := Option.map_eq_some_iff.mp split
      cases same
      rw [ih later]
      rfl

theorem splitOnceText_append (rest : List Char) (split : splitOnceText separator text = some (before, after)) :
    splitOnceText separator (text ++ rest) = some (before, after ++ rest) := by
  induction text generalizing before with
  | nil => cases split
  | cons first text ih =>
    have long : separator.length ≤ (first :: text).length := by
      rw [eq_of_splitOnceText split, List.length_append, List.length_append]
      omega
    have longer : separator.isPrefixOf (first :: text ++ rest) = separator.isPrefixOf (first :: text) := by
      rw [Bool.eq_iff_iff, List.isPrefixOf_iff_prefix, List.isPrefixOf_iff_prefix]
      exact ⟨fun found => List.prefix_of_prefix_length_le found (List.prefix_append _ rest) long,
        fun found => found.trans (List.prefix_append _ rest)⟩
    rw [splitOnceText] at split
    rw [List.cons_append, splitOnceText, ← List.cons_append, longer]
    split at split
    · rename_i found
      obtain ⟨rfl, rfl⟩ := Prod.mk.inj (Option.some.inj split)
      rw [if_pos found, List.drop_append_of_le_length long]
    · rename_i missing
      obtain ⟨⟨head, tail⟩, later, same⟩ := Option.map_eq_some_iff.mp split
      cases same
      rw [if_neg missing, ih later]
      rfl

/-- An optional plus sign and at least one digit, below the bound. -/
def parseUnsigned (bound : Nat) (text : String) : Option Nat :=
  let digits :=
    match text.toList with
    | '+' :: rest => rest
    | all => all
  if digits.isEmpty || !digits.all Char.isDigit then none
  else
    let value := digits.foldl (fun total digit => 10 * total + (digit.toNat - '0'.toNat)) 0
    if value < bound then some value else none

/-! # Texts joined at a separator -/

/-- Two lists joined at a separator are the same when their parts are, or when a part
with its own separator has moved from one side to the other. -/
theorem append_cons_eq_append_cons_iff {τ : Type} {separator : τ} {first second first' second' : List τ} :
    first ++ separator :: second = first' ++ separator :: second' ↔ (first = first' ∧ second = second') ∨
      (∃ part, first = first' ++ separator :: part ∧ second' = part ++ separator :: second) ∨
      ∃ part, first' = first ++ separator :: part ∧ second = part ++ separator :: second' := by
  constructor
  · intro same
    rcases List.append_eq_append_iff.mp same with ⟨part, rfl, rest⟩ | ⟨part, rfl, rest⟩
    · cases part with
      | nil => exact .inl ⟨(List.append_nil _).symm, (List.cons.inj rest).2⟩
      | cons head part =>
        obtain ⟨rfl, moved⟩ := List.cons.inj rest
        exact .inr (.inr ⟨part, rfl, moved⟩)
    · cases part with
      | nil => exact .inl ⟨List.append_nil _, (List.cons.inj rest).2.symm⟩
      | cons head part =>
        obtain ⟨rfl, moved⟩ := List.cons.inj rest
        exact .inr (.inl ⟨part, rfl, moved⟩)
  · rintro (⟨rfl, rfl⟩ | ⟨part, rfl, rfl⟩ | ⟨part, rfl, rfl⟩) <;> simp

/-- A part stands before the last hyphen in one pair of texts, and after it in the
other. -/
def Shifted (first second first' second' : String) : Prop :=
  ∃ part, first = first' ++ "-" ++ part ∧ second' = part ++ "-" ++ second

theorem hyphenated_eq_iff {first second first' second' : String} :
    first ++ "-" ++ second = first' ++ "-" ++ second' ↔
      (first = first' ∧ second = second') ∨ Shifted first second first' second' ∨
        Shifted first' second' first second := by
  have listed (left right : String) : (left ++ "-" ++ right).toList = left.toList ++ '-' :: right.toList := by
    simp
  have shifted (first second first' second' : String) : Shifted first second first' second' ↔
      ∃ part, first.toList = first'.toList ++ '-' :: part ∧ second'.toList = part ++ '-' :: second.toList := by
    constructor
    · rintro ⟨part, rfl, rfl⟩
      exact ⟨part.toList, listed _ _, listed _ _⟩
    · rintro ⟨part, left, right⟩
      refine ⟨String.ofList part, String.toList_inj.mp ?_, String.toList_inj.mp ?_⟩
      · rw [left, listed, String.toList_ofList]
      · rw [right, listed, String.toList_ofList]
  rw [← String.toList_inj, listed, listed, append_cons_eq_append_cons_iff, shifted, shifted,
    String.toList_inj, String.toList_inj]

end Banlieue.Data
