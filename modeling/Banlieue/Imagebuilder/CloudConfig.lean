import Banlieue.Data.Value

namespace Banlieue.Imagebuilder

open Banlieue.Data

/-! # Merging cloud-config documents -/

def cloudConfigHeader : String := "#cloud-config"

/-- The YAML printer and parser: what is read never has one key twice. -/
structure Yaml where
  toString : Value → String
  fromStr : String → Except String Value
  wellFormed : ∀ {text : String} {value : Value}, fromStr text = .ok value → value.WellFormed

/-- The printed document without a leading document marker. -/
def Yaml.body (yaml : Yaml) (value : Value) : String :=
  let text := yaml.toString value
  if "---\n".toList.isPrefixOf text.toList then String.ofList (text.toList.drop 4) else text

/-- A printed document is read back, also after the comment that is put before it. -/
def Yaml.Faithful (yaml : Yaml) : Prop :=
  ∀ value : Value, value.WellFormed →
    yaml.fromStr (yaml.body value) = .ok value ∧
      yaml.fromStr (cloudConfigHeader ++ "\n" ++ yaml.body value) = .ok value

inductive MergeError where
  | parse (index : Nat) (source : String)
  | typeMismatch (key detail : String)
deriving DecidableEq

def MergeError.message : MergeError → String
  | .parse index source => "cloud-config parse error (source index " ++ toString index ++ "): " ++ source
  | .typeMismatch key detail => "cloud-config merge conflict at key " ++ debugText key.toList ++ ": " ++ detail

def yamlTypeName : Value → String
  | .null => "null"
  | .bool _ => "bool"
  | .number _ => "number"
  | .string _ => "string"
  | .array _ => "sequence"
  | .object _ => "mapping"

def childPath (path key : String) : String := if path = "" then key else path ++ "." ++ key

def mismatch (base overlay : Value) (path : String) : MergeError :=
  .typeMismatch path ("base is " ++ yamlTypeName base ++ ", overlay is " ++ yamlTypeName overlay)

mutual

/-- The overlay on top of the base: mappings field by field, sequences one after the
other, scalars replaced. -/
def deepMerge (base : Value) (path : String) : Value → Except MergeError Value
  | .object overlayFields =>
    match base with
    | .object baseFields => (mergeFields baseFields path overlayFields).map .object
    | .null => .ok (.object overlayFields)
    | base => .error (mismatch base (.object overlayFields) path)
  | .array overlayEntries =>
    match base with
    | .array baseEntries => .ok (.array (baseEntries ++ overlayEntries))
    | .null => .ok (.array overlayEntries)
    | base => .error (mismatch base (.array overlayEntries) path)
  | .null => .ok .null
  | overlay =>
    match base with
    | .object fields => .error (mismatch (.object fields) overlay path)
    | .array entries => .error (mismatch (.array entries) overlay path)
    | _ => .ok overlay
termination_by structural overlay => overlay

def mergeFields (base : List (String × Value)) (path : String) :
    List (String × Value) → Except MergeError (List (String × Value))
  | [] => .ok base
  | (key, overlay) :: rest =>
    match base.lookup key with
    | some old => do
      let merged ← deepMerge old (childPath path key) overlay
      mergeFields (setField key merged base) path rest
    | none => mergeFields (setField key overlay base) path rest
termination_by structural overlay => overlay

end

/-- The documents from the one at `index` on, layered over what the earlier ones gave. -/
def mergeSources (yaml : Yaml) (merged : Value) (index : Nat) : List String → Except MergeError Value
  | [] => .ok merged
  | source :: rest => do
    let document ← (yaml.fromStr source).mapError (.parse index)
    let merged ← deepMerge merged "" document
    mergeSources yaml merged (index + 1) rest

def mergeCloudConfigs (yaml : Yaml) (sources : List String) : Except MergeError String := do
  let merged ← mergeSources yaml (.object []) 0 sources
  .ok (cloudConfigHeader ++ "\n" ++ yaml.body merged)

/-! ## What a merge leaves at a key -/

/-- The result of laying `value` over what `base` holds, if it holds something. -/
def Overlaid (base : Option Value) (value result : Value) : Prop :=
  base = none ∧ result = value ∨
    ∃ before path, base = some before ∧ deepMerge before path value = .ok result

theorem lookup_mergeFields {fields : List (String × Value)} (distinct : (fields.map Prod.fst).Nodup)
    {base merged : List (String × Value)} {path : String} (succeeded : mergeFields base path fields = .ok merged)
    (key : String) : (fields.lookup key = none → merged.lookup key = base.lookup key) ∧
      ∀ value, fields.lookup key = some value →
        ∃ result, merged.lookup key = some result ∧ Overlaid (base.lookup key) value result := by
  induction fields generalizing base with
  | nil =>
    cases succeeded
    exact ⟨fun _ => rfl, fun _ found => by cases found⟩
  | cons field rest ih =>
    obtain ⟨name, overlay⟩ := field
    simp only [List.map_cons, List.nodup_cons] at distinct
    -- Either way the rest is merged over the base with one field set.
    obtain ⟨result, overlaid, later⟩ : ∃ result, Overlaid (base.lookup name) overlay result ∧
        mergeFields (setField name result base) path rest = .ok merged := by
      cases found : base.lookup name with
      | none =>
        simp only [mergeFields, found] at succeeded
        exact ⟨overlay, .inl ⟨rfl, rfl⟩, succeeded⟩
      | some old =>
        simp only [mergeFields, found] at succeeded
        obtain ⟨result, first, later⟩ := exists_of_bind_eq_ok succeeded
        exact ⟨result, .inr ⟨old, _, rfl, first⟩, later⟩
    have next := ih distinct.2 later
    by_cases same : key = name
    · subst same
      have kept := next.1 (lookup_eq_none_of_notMem distinct.1)
      rw [lookup_setField_self] at kept
      refine ⟨fun absent => by simp [List.lookup_cons] at absent, fun value found => ?_⟩
      simp only [List.lookup_cons, beq_self_eq_true, Option.some.injEq] at found
      exact ⟨result, kept, found ▸ overlaid⟩
    · have other : (key == name) = false := beq_false_of_ne same
      rw [lookup_setField_ne same] at next
      simp only [List.lookup_cons, other]
      exact next

section Overlaid

variable {base : Option Value} {value found result : Value} {key : String}

theorem Overlaid.get_some (overlaid : Overlaid base value result) (wellFormed : value.WellFormed)
    (field : value.get key = some found) :
    ∃ after, result.get key = some after ∧ Overlaid (base.bind (·.get key)) found after := by
  cases value with
  | object fields =>
    rcases overlaid with ⟨rfl, rfl⟩ | ⟨before, path, rfl, merged⟩
    · exact ⟨found, field, .inl ⟨rfl, rfl⟩⟩
    · cases before with
      | null =>
        simp only [deepMerge, Except.ok.injEq] at merged
        subst merged
        exact ⟨found, field, .inl ⟨rfl, rfl⟩⟩
      | object earlier =>
        obtain ⟨after, fieldwise, rfl⟩ := exists_of_map_eq_ok (by simpa only [deepMerge] using merged)
        exact (lookup_mergeFields (Value.wellFormed_object.mp wellFormed).1 fieldwise key).2 found field
      | _ => simp [deepMerge] at merged
  | _ => cases field

theorem Overlaid.get_none (overlaid : Overlaid base value result) (wellFormed : value.WellFormed)
    (something : value ≠ .null) (field : value.get key = none) : result.get key = base.bind (·.get key) := by
  rcases overlaid with ⟨rfl, rfl⟩ | ⟨before, path, rfl, merged⟩
  · exact field
  · cases value with
    | null => exact absurd rfl something
    | object fields =>
      cases before with
      | null =>
        simp only [deepMerge, Except.ok.injEq] at merged
        subst merged
        exact field
      | object earlier =>
        obtain ⟨after, fieldwise, rfl⟩ := exists_of_map_eq_ok (by simpa only [deepMerge] using merged)
        exact (lookup_mergeFields (Value.wellFormed_object.mp wellFormed).1 fieldwise key).1 field
      | _ => simp [deepMerge] at merged
    | _ =>
      -- Nothing that is not a mapping is laid over a mapping.
      cases before <;> simp [deepMerge] at merged <;> subst merged <;> rfl

theorem Overlaid.eq_null (overlaid : Overlaid base .null result) : result = .null := by
  rcases overlaid with ⟨-, rfl⟩ | ⟨before, path, -, merged⟩
  · rfl
  · simpa [deepMerge] using merged.symm

theorem Overlaid.eq_bool {flag : Bool} (overlaid : Overlaid base (.bool flag) result) : result = .bool flag := by
  rcases overlaid with ⟨-, rfl⟩ | ⟨before, path, -, merged⟩
  · rfl
  · cases before <;> simp [deepMerge] at merged <;> exact merged.symm

theorem Overlaid.eq_array {entries : List Value} (overlaid : Overlaid base (.array entries) result) :
    result = .array ((base.bind Value.asArray).getD [] ++ entries) := by
  rcases overlaid with ⟨rfl, rfl⟩ | ⟨before, path, rfl, merged⟩
  · rfl
  · cases before <;> simp [deepMerge] at merged <;> subst merged <;> rfl

end Overlaid

/-! ## Well-formed documents -/

mutual

theorem wellFormed_deepMerge : ∀ (overlay base merged : Value) (path : String), base.WellFormed → overlay.WellFormed →
    deepMerge base path overlay = .ok merged → merged.WellFormed
  | .object fields, base, merged, path, wellFormed, overlaid, succeeded => by
    cases base with
    | null =>
      simp only [deepMerge, Except.ok.injEq] at succeeded
      exact succeeded ▸ overlaid
    | object earlier =>
      obtain ⟨after, fieldwise, rfl⟩ := exists_of_map_eq_ok (by simpa only [deepMerge] using succeeded)
      rw [Value.wellFormed_object] at wellFormed overlaid ⊢
      exact wellFormed_mergeFields fields earlier after path wellFormed overlaid.2 fieldwise
    | _ => simp [deepMerge] at succeeded
  | .array entries, base, merged, path, wellFormed, overlaid, succeeded => by
    cases base with
    | null =>
      simp only [deepMerge, Except.ok.injEq] at succeeded
      exact succeeded ▸ overlaid
    | array earlier =>
      simp only [deepMerge, Except.ok.injEq] at succeeded
      subst succeeded
      rw [Value.wellFormed_array] at wellFormed overlaid ⊢
      intro entry member
      exact (List.mem_append.mp member).elim (wellFormed entry) (overlaid entry)
    | _ => simp [deepMerge] at succeeded
  | .null, base, merged, path, _, overlaid, succeeded => by
    simp only [deepMerge, Except.ok.injEq] at succeeded
    exact succeeded ▸ overlaid
  | .bool flag, base, merged, path, _, overlaid, succeeded => by
    cases base <;> simp [deepMerge] at succeeded <;> exact succeeded ▸ overlaid
  | .number digits, base, merged, path, _, overlaid, succeeded => by
    cases base <;> simp [deepMerge] at succeeded <;> exact succeeded ▸ overlaid
  | .string text, base, merged, path, _, overlaid, succeeded => by
    cases base <;> simp [deepMerge] at succeeded <;> exact succeeded ▸ overlaid

theorem wellFormed_mergeFields : ∀ (fields base merged : List (String × Value)) (path : String),
    ((base.map Prod.fst).Nodup ∧ ∀ field ∈ base, field.2.WellFormed) → (∀ field ∈ fields, field.2.WellFormed) →
    mergeFields base path fields = .ok merged →
    (merged.map Prod.fst).Nodup ∧ ∀ field ∈ merged, field.2.WellFormed
  | [], base, merged, path, wellFormed, _, succeeded => by
    simp only [mergeFields, Except.ok.injEq] at succeeded
    exact succeeded ▸ wellFormed
  | (key, overlay) :: rest, base, merged, path, wellFormed, overlaid, succeeded => by
    have setting : ∀ value : Value, value.WellFormed →
        (((setField key value base).map Prod.fst).Nodup ∧ ∀ field ∈ setField key value base, field.2.WellFormed) :=
      fun value good => ⟨nodup_setField wellFormed.1, fun field member =>
        (mem_setField member).elim (fun same => same ▸ good) (wellFormed.2 field)⟩
    have first : overlay.WellFormed := overlaid _ List.mem_cons_self
    have others : ∀ field ∈ rest, field.2.WellFormed := fun field member =>
      overlaid field (List.mem_cons_of_mem _ member)
    cases found : base.lookup key with
    | none =>
      simp only [mergeFields, found] at succeeded
      exact wellFormed_mergeFields rest _ merged path (setting overlay first) others succeeded
    | some old =>
      simp only [mergeFields, found] at succeeded
      obtain ⟨result, one, later⟩ := exists_of_bind_eq_ok succeeded
      have good := wellFormed_deepMerge overlay old result _ (wellFormed.2 _ (mem_of_lookup found)) first one
      exact wellFormed_mergeFields rest _ merged path (setting result good) others later

end

theorem wellFormed_empty : (Value.object []).WellFormed := Value.wellFormed_object.mpr ⟨List.nodup_nil, nofun⟩

theorem wellFormed_mergeSources {yaml : Yaml} {sources : List String} {base merged : Value} {index : Nat}
    (wellFormed : base.WellFormed) (succeeded : mergeSources yaml base index sources = .ok merged) :
    merged.WellFormed := by
  induction sources generalizing base index with
  | nil =>
    cases succeeded
    exact wellFormed
  | cons source rest ih =>
    obtain ⟨document, read, later⟩ := exists_of_bind_eq_ok succeeded
    obtain ⟨next, first, later⟩ := exists_of_bind_eq_ok later
    exact ih (wellFormed_deepMerge _ _ _ _ wellFormed (yaml.wellFormed (ok_of_mapError read)) first) later

theorem mergeCloudConfigs_pair {yaml : Yaml} {lower upper text : String} {base overlay : Value}
    (first : yaml.fromStr lower = .ok base) (second : yaml.fromStr upper = .ok overlay)
    (succeeded : mergeCloudConfigs yaml [lower, upper] = .ok text) :
    ∃ start merged, Overlaid (some (.object [])) base start ∧ Overlaid (some start) overlay merged ∧
      merged.WellFormed ∧ text = cloudConfigHeader ++ "\n" ++ yaml.body merged := by
  obtain ⟨merged, sources, rest⟩ := exists_of_bind_eq_ok succeeded
  have wellFormed := wellFormed_mergeSources wellFormed_empty sources
  obtain ⟨document, read, sources⟩ := exists_of_bind_eq_ok sources
  obtain ⟨start, started, sources⟩ := exists_of_bind_eq_ok sources
  obtain ⟨document', read', sources⟩ := exists_of_bind_eq_ok sources
  obtain ⟨next, layered, sources⟩ := exists_of_bind_eq_ok sources
  cases sources
  cases (ok_of_mapError read).symm.trans first
  cases (ok_of_mapError read').symm.trans second
  exact ⟨start, _, .inr ⟨_, _, rfl, started⟩, .inr ⟨_, _, rfl, layered⟩, wellFormed, (Except.ok.inj rest).symm⟩

end Banlieue.Imagebuilder
