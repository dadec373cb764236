import Mathlib.Data.List.Induction
import Banlieue.Imagebuilder.FirstBootSealing

namespace Banlieue.Imagebuilder

open Banlieue.Data

/-! # Laws of the merge

What layering should keep, and that an empty document, which is read as null, replaces
all that was merged before it.
-/

def valueAt (document : Value) (path : List String) : Option Value := path.foldlM Value.get document

/-- The document says something about the path: it sets it, or it sets something that is
no mapping on the way there. -/
def Mentions (document : Value) (path : List String) : Prop :=
  ∃ shorter value, shorter ≠ [] ∧ shorter <+: path ∧ valueAt document shorter = some value ∧
    (shorter = path ∨ ∀ fields, value ≠ .object fields)

/-- The documents' lists at a path, one after the other. -/
def listsAt (yaml : Yaml) (sources : List String) (path : List String) : List Value :=
  sources.flatMap fun source =>
    (((yaml.fromStr source).toOption.bind (valueAt · path)).bind Value.asArray).getD []

/-- The laws, for sources that give `merged`; `blank` is read as null. -/
structure Lawful (yaml : Yaml) (blank : String) (sources : List String) (merged : Value) : Prop where
  neutral : ∀ earlier later, sources = earlier ++ later →
    mergeCloudConfigs yaml (earlier ++ blank :: later) = mergeCloudConfigs yaml sources
  kept : ∀ earlier later start path value, sources = earlier ++ later →
    mergeSources yaml (.object []) 0 earlier = .ok start → path ≠ [] → valueAt start path = some value →
    (∀ source ∈ later, ∀ document, yaml.fromStr source = .ok document → ¬ Mentions document path) →
    valueAt merged path = some value
  joined : ∀ path entries, valueAt merged path = some (.array entries) → entries = listsAt yaml sources path

def SetsNothing (document : Value) : Prop := ∀ key, document.get key = none

section Layers

variable {yaml : Yaml} {base merged next document value : Value} {sources : List String}

/-- The sources, layered over the base, give the result. -/
def Gives (yaml : Yaml) (base : Value) : List String → Value → Prop
  | [], merged => base = merged
  | source :: rest, merged => ∃ document next, yaml.fromStr source = .ok document ∧
      deepMerge base "" document = .ok next ∧ Gives yaml next rest merged

theorem mergeSources_eq_ok_iff {index : Nat} :
    mergeSources yaml base index sources = .ok merged ↔ Gives yaml base sources merged := by
  induction sources generalizing base index with
  | nil => simp [mergeSources, Gives]
  | cons source rest ih =>
    constructor
    · intro succeeded
      obtain ⟨document, read, later⟩ := exists_of_bind_eq_ok succeeded
      obtain ⟨next, laid, later⟩ := exists_of_bind_eq_ok later
      exact ⟨document, next, ok_of_mapError read, laid, ih.mp later⟩
    · rintro ⟨document, next, read, laid, later⟩
      rw [mergeSources_cons read laid]
      exact ih.mpr later

theorem gives_append {first second : List String} : Gives yaml base (first ++ second) merged ↔
      ∃ start, Gives yaml base first start ∧ Gives yaml start second merged := by
  induction first generalizing base with
  | nil => simp [Gives]
  | cons source rest ih =>
    simp only [List.cons_append, Gives, ih]
    constructor
    · rintro ⟨document, next, read, laid, start, earlier, later⟩
      exact ⟨start, ⟨document, next, read, laid, earlier⟩, later⟩
    · rintro ⟨start, ⟨document, next, read, laid, earlier⟩, later⟩
      exact ⟨document, next, read, laid, start, earlier, later⟩

/-- What is laid over something decides the kind of the result. -/
theorem kind_laid (laid : deepMerge base "" document = .ok next) : yamlTypeName next = yamlTypeName document := by
  cases document with
  | object fields =>
    cases base with
    | object earlier =>
      obtain ⟨_, -, rfl⟩ := exists_of_map_eq_ok (by simpa only [deepMerge] using laid)
      rfl
    | _ => simp [deepMerge] at laid <;> subst laid <;> rfl
  | _ => cases base <;> simp [deepMerge] at laid <;> subst laid <;> rfl

theorem eq_null_of_kind (same : yamlTypeName value = yamlTypeName .null) : value = .null := by
  cases value <;> first | rfl | simp [yamlTypeName] at same

theorem fields_of_setsNothing {fields : List (String × Value)} (empty : SetsNothing (.object fields)) :
    fields = [] := by
  cases fields with
  | nil => rfl
  | cons field rest => simpa [Value.get, List.lookup_cons] using empty field.1

/-- A document that sets nothing goes over everything of the kind it went over before. -/
theorem laid_of_kind (empty : SetsNothing document) (same : yamlTypeName value = yamlTypeName base)
    (laid : deepMerge base "" document = .ok next) : ∃ after, deepMerge value "" document = .ok after := by
  cases document with
  | object fields =>
    cases fields_of_setsNothing empty
    cases base <;> cases value <;> simp_all [deepMerge, mergeFields, yamlTypeName, Except.map]
  | _ => cases base <;> cases value <;> simp_all [deepMerge, yamlTypeName]

theorem setsNothing_laid (good : document.WellFormed) (empty : SetsNothing document) (bare : SetsNothing base)
    (laid : deepMerge base "" document = .ok next) : SetsNothing next := by
  intro key
  have overlaid : Overlaid (some base) document next := .inr ⟨base, "", rfl, laid⟩
  by_cases null : document = .null
  · subst null
    rw [overlaid.eq_null]
    rfl
  · rw [overlaid.get_none good null (empty key)]
    exact bare key

variable (empty : ∀ source ∈ sources, ∀ document, yaml.fromStr source = .ok document → SetsNothing document)

include empty

theorem Gives.setsNothing (gives : Gives yaml base sources merged) (bare : SetsNothing base) : SetsNothing merged := by
  induction sources generalizing base with
  | nil => exact gives ▸ bare
  | cons source rest ih =>
    obtain ⟨document, next, read, laid, later⟩ := gives
    have first := empty source List.mem_cons_self document read
    exact ih (fun other member => empty other (List.mem_cons_of_mem _ member)) later
      (setsNothing_laid (yaml.wellFormed read) first bare laid)

theorem Gives.of_kind (gives : Gives yaml base sources merged) (same : yamlTypeName value = yamlTypeName base) :
    ∃ after, Gives yaml value sources after := by
  induction sources generalizing base value with
  | nil => exact ⟨value, rfl⟩
  | cons source rest ih =>
    obtain ⟨document, next, read, laid, later⟩ := gives
    obtain ⟨after, onto⟩ := laid_of_kind (empty source List.mem_cons_self document read) same laid
    obtain ⟨last, rest⟩ := ih (fun other member => empty other (List.mem_cons_of_mem _ member)) later
      ((kind_laid onto).trans (kind_laid laid).symm)
    exact ⟨last, document, after, read, onto, rest⟩

/-- After an empty document everything goes on as well. -/
theorem Gives.of_null (gives : Gives yaml base sources merged) : ∃ after, Gives yaml .null sources after := by
  cases sources with
  | nil => exact ⟨.null, rfl⟩
  | cons source rest =>
    obtain ⟨document, next, read, laid, later⟩ := gives
    have onto : deepMerge .null "" document = .ok document := by cases document <;> simp [deepMerge]
    obtain ⟨last, rest⟩ := Gives.of_kind (fun other member => empty other (List.mem_cons_of_mem _ member)) later
      (kind_laid laid).symm
    exact ⟨last, document, document, read, onto, rest⟩

end Layers

/-! ## When the laws hold -/

section Laws

variable {yaml : Yaml} {blank last : String} {base merged : Value} {sources : List String}

theorem gives_concat_null (read : yaml.fromStr last = .ok .null) (gives : Gives yaml base (sources ++ [last]) merged) :
    merged = .null := by
  obtain ⟨start, -, document, next, parsed, laid, rfl⟩ := gives_append.mp gives
  cases parsed.symm.trans read
  exact eq_null_of_kind (kind_laid laid)

theorem not_mentions {document : Value} {path : List String} (empty : SetsNothing document) : ¬ Mentions document path := by
  rintro ⟨shorter, value, nonempty, -, found, -⟩
  cases shorter with
  | nil => exact nonempty rfl
  | cons key rest => simp [valueAt, empty key] at found

theorem mergeCloudConfigs_eq (gives : Gives yaml (.object []) sources merged) :
    mergeCloudConfigs yaml sources = .ok (cloudConfigHeader ++ "\n" ++ yaml.body merged) := by
  simp only [mergeCloudConfigs, mergeSources_eq_ok_iff.mpr gives]
  rfl

/-- An empty document at the end leaves null, so what is lawful is null already. -/
theorem eq_null_of_lawful (faithful : yaml.Faithful) (read : yaml.fromStr blank = .ok .null)
    (lawful : Lawful yaml blank sources merged) (succeeded : mergeSources yaml (.object []) 0 sources = .ok merged) :
    merged = .null := by
  have gives := mergeSources_eq_ok_iff.mp succeeded
  have ending : Gives yaml (.object []) (sources ++ [blank]) .null :=
    gives_append.mpr ⟨merged, gives, .null, .null, read, by simp [deepMerge], rfl⟩
  have same := lawful.neutral sources [] (by simp)
  rw [mergeCloudConfigs_eq ending, mergeCloudConfigs_eq gives, Except.ok.injEq, String.append_right_inj] at same
  have parsed := (faithful merged (wellFormed_mergeSources wellFormed_empty succeeded)).1
  rw [← same, (faithful .null trivial).1] at parsed
  exact (Except.ok.inj parsed).symm

theorem mergeSources_numberedYaml {document : Value} (good : document.WellFormed)
    (laid : deepMerge (.object []) "" document = .ok merged) :
    mergeSources numberedYaml (.object []) 0 [numberedYaml.body document] = .ok merged :=
  mergeSources_cons (faithful_numberedYaml document good).1 laid

def named : Value := .object [("hostname", .string "edge")]

end Laws

end Banlieue.Imagebuilder
