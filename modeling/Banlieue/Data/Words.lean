import Mathlib.Data.List.TakeWhile

namespace Banlieue.Data

/-! # Words and lines -/

section Words

variable {α : Type} (separates : α → Bool)

/-- The non-empty runs of elements that do not separate. -/
def words (text : List α) : List (List α) := (text.splitOnP separates).filter (!·.isEmpty)

def trim (text : List α) : List α := ((text.dropWhile separates).reverse.dropWhile separates).reverse

variable {separates} {blank : α}

theorem words_append_cons (before after : List α) (separated : separates blank = true) :
    words separates (before ++ blank :: after) = words separates before ++ words separates after := by
  simp [words, List.splitOnP_append_cons _ _ separated]

variable (text : List α)

theorem words_append_blanks {blanks : List α} (separated : ∀ blank ∈ blanks, separates blank = true) :
    words separates (text ++ blanks) = words separates text := by
  induction blanks generalizing text with
  | nil => rw [List.append_nil]
  | cons blank rest ih =>
    obtain ⟨first, later⟩ := List.forall_mem_cons.mp separated
    have nothing : words separates rest = [] := (ih [] later).trans rfl
    rw [words_append_cons _ _ first, nothing, List.append_nil]

theorem words_dropWhile : words separates (text.dropWhile separates) = words separates text := by
  induction text with
  | nil => rfl
  | cons first rest ih =>
    cases separated : separates first with
    | true =>
      rw [List.dropWhile_cons_of_pos separated, ih]
      exact (words_append_cons [] rest separated).symm
    | false => rw [List.dropWhile_cons_of_neg (by simp [separated])]

theorem words_trim : words separates (trim separates text) = words separates text := by
  rw [← words_dropWhile text, trim]
  generalize text.dropWhile separates = text
  have split := congrArg List.reverse (List.takeWhile_append_dropWhile (p := separates) (l := text.reverse))
  rw [List.reverse_append, List.reverse_reverse] at split
  refine (words_append_blanks _ fun blank member => ?_).symm.trans (congrArg _ split)
  exact List.all_eq_true.mp List.all_takeWhile blank (List.mem_reverse.mp member)

theorem splitOnP_eq_cons : ∃ rest, text.splitOnP separates = text.takeWhile (!separates ·) :: rest := by
  induction text with
  | nil => exact ⟨[], rfl⟩
  | cons first text ih =>
    obtain ⟨rest, split⟩ := ih
    rw [List.splitOnP_cons_eq_if_modifyHead, split]
    cases separated : separates first with
    | true => exact ⟨_, by simp [separated]; rfl⟩
    | false => exact ⟨rest, by simp [separated]⟩

theorem headD_words : (words separates text).headD [] = (text.dropWhile separates).takeWhile (!separates ·) := by
  rw [← words_dropWhile]
  cases started : text.dropWhile separates with
  | nil => rfl
  | cons first rest =>
    have inside : separates first = false := by
      simpa [started] using List.head_dropWhile_not separates (l := text) (by simp [started])
    obtain ⟨others, split⟩ := @splitOnP_eq_cons _ separates (first :: rest)
    simp [words, split, inside]

end Words

def lines (text : List Char) : List (List Char) :=
  let pieces := text.splitOnP (· == '\n')
  let ended := if pieces.getLast? = some [] then pieces.dropLast else pieces
  ended.map fun line => if line.getLast? = some '\r' then line.dropLast else line

theorem splitOnP_unlines {texts : List (List Char)} (unbroken : ∀ text ∈ texts, '\n' ∉ text) :
    (texts.flatMap (· ++ ['\n'])).splitOnP (· == '\n') = texts ++ [[]] := by
  induction texts with
  | nil => rfl
  | cons text rest ih =>
    obtain ⟨first, later⟩ := List.forall_mem_cons.mp unbroken
    rw [List.flatMap_cons, List.append_assoc, List.singleton_append,
      List.splitOnP_append_cons_of_forall_mem _ _ (by rfl), ih later, List.cons_append]
    intro char member
    simpa using fun equal : char = '\n' => first (equal ▸ member)

/-- The characters that Unicode counts as white space. -/
def isWhitespace (char : Char) : Bool :=
  let code := char.toNat
  (9 ≤ code && code ≤ 13) || code == 0x20 || code == 0x85 || code == 0xA0 || code == 0x1680 ||
    (0x2000 ≤ code && code ≤ 0x200A) || code == 0x2028 || code == 0x2029 || code == 0x202F || code == 0x205F ||
    code == 0x3000

end Banlieue.Data
