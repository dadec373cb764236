import Banlieue.Data.SortedMap
import Banlieue.Data.Words

namespace Banlieue.Vex

open Banlieue.Data

/-! # Statements derived from the symbols a binary imports -/

/-! ## The symbols -/

/-- A token that can be the type column. -/
def isTypeColumn : List Char → Bool
  | [char] => char.isAlpha
  | _ => false

/-- The symbol a line tells of, without its version. -/
def parseNmLine (line : List Char) : Option (List Char) :=
  let trimmed := trim isWhitespace line
  if trimmed.isEmpty || trimmed.head? == some '#' then none
  else
    let tokens := words isWhitespace trimmed
    match tokens.findIdx? isTypeColumn with
    | none => none
    | some typeCharIdx =>
      if tokens[typeCharIdx]? ≠ some ['U'] then none
      else
        match tokens[typeCharIdx + 1]? with
        | none => none
        | some name =>
          let bare := name.takeWhile (· != '@')
          if bare.isEmpty then none else some bare

def parseNmOutput (input : String) : List String :=
  ((lines input.toList).filterMap parseNmLine).map String.ofList

/-! ### What there is to parse -/

inductive SymbolKind where
  | strong | weak | weakObject
deriving DecidableEq

def SymbolKind.letter : SymbolKind → Char
  | .strong => 'U'
  | .weak => 'w'
  | .weakObject => 'v'

/-- An undefined dynamic symbol, which is written on one line. -/
structure DynamicSymbol where
  name : String
  version : Option String
  kind : SymbolKind
  oneLine : '\n' ∉ name.toList ∧ ∀ text ∈ version, '\n' ∉ text.toList

namespace DynamicSymbol

variable (symbol : DynamicSymbol)

def text : List Char := symbol.name.toList ++ symbol.version.elim [] ('@' :: ·.toList)

/-- The line of `nm -D --undefined-only`, with that many blanks in place of the address. -/
def line (width : Nat) : List Char := List.replicate width ' ' ++ symbol.kind.letter :: ' ' :: symbol.text

/-- What comes first in the text: up to the next blank or `@`. -/
def leading : List Char :=
  (symbol.text.dropWhile isWhitespace).takeWhile fun char => !isWhitespace char && char != '@'

/-- The symbol is a strong one, and its text begins with that name. -/
def Shows (function : String) : Prop :=
  symbol.kind = .strong ∧ function ≠ "" ∧ symbol.leading = function.toList

end DynamicSymbol

def nmOutput (width : Nat) (symbols : List DynamicSymbol) : String :=
  String.ofList ((symbols.map (·.line width)).flatMap (· ++ ['\n']))

variable {symbol : DynamicSymbol} {symbols : List DynamicSymbol} {width : Nat}

theorem DynamicSymbol.line_unbroken : '\n' ∉ symbol.line width := by
  have text : '\n' ∉ symbol.text := by
    simp only [DynamicSymbol.text]
    cases given : symbol.version with
    | none => simpa using symbol.oneLine.1
    | some version => simp [symbol.oneLine.1, symbol.oneLine.2 version given]
  cases kind : symbol.kind <;> simp [line, kind, SymbolKind.letter, text]

theorem DynamicSymbol.leading_eq :
    symbol.leading = ((words isWhitespace symbol.text).headD []).takeWhile (· != '@') := by
  rw [headD_words, List.takeWhile_takeWhile, leading]
  congr 1
  funext char
  simp only [Bool.decide_and, Bool.decide_coe, Bool.and_comm]

theorem words_line : words isWhitespace (symbol.line width) = [symbol.kind.letter] :: words isWhitespace symbol.text := by
  have word : words isWhitespace [symbol.kind.letter] = [[symbol.kind.letter]] := by cases symbol.kind <;> decide
  have separated : ∀ blank ∈ List.replicate width ' ', isWhitespace blank = true := by
    intro blank member
    rw [List.eq_of_mem_replicate member]
    rfl
  rw [← words_dropWhile, DynamicSymbol.line, List.dropWhile_append_of_pos separated, words_dropWhile]
  exact (words_append_cons [_] symbol.text rfl).trans (congrArg (· ++ _) word)

theorem parseNmLine_line {line : List Char}
    (same : words isWhitespace line = words isWhitespace (symbol.line width)) :
    parseNmLine line = if symbol.kind = .strong ∧ symbol.leading ≠ [] then some symbol.leading else none := by
  have tokens := (words_trim line).trans (same.trans words_line)
  have started : ((trim isWhitespace line).isEmpty || (trim isWhitespace line).head? == some '#') = false := by
    cases trimmed : trim isWhitespace line with
    | nil => simp [trimmed, words] at tokens
    | cons first rest =>
      have head := @headD_words _ isWhitespace (first :: rest)
      rw [← trimmed, tokens, trimmed] at head
      suffices first ≠ '#' by simpa
      rintro rfl
      cases kind : symbol.kind <;> simp [kind, SymbolKind.letter, isWhitespace] at head
  simp only [parseNmLine, started, tokens, DynamicSymbol.leading_eq]
  cases kind : symbol.kind with
  | strong =>
    cases words isWhitespace symbol.text <;>
      simp [List.findIdx?_cons, isTypeColumn, SymbolKind.letter, -List.takeWhile_eq_nil_iff]
  | weak | weakObject => simp [List.findIdx?_cons, isTypeColumn, SymbolKind.letter]

theorem mem_parseNmOutput {function : String} : function ∈ parseNmOutput (nmOutput width symbols) ↔
    ∃ symbol ∈ symbols, symbol.Shows function := by
  have unbroken : ∀ text ∈ symbols.map (·.line width), '\n' ∉ text := by
    simp [DynamicSymbol.line_unbroken]
  have parsed : ∀ symbol : DynamicSymbol, parseNmLine
      (if (symbol.line width).getLast? = some '\r' then (symbol.line width).dropLast else symbol.line width) =
        if symbol.kind = .strong ∧ symbol.leading ≠ [] then some symbol.leading else none := by
    intro symbol
    refine @parseNmLine_line symbol width _ ?_
    split
    · rename_i returned
      obtain ⟨start, ended⟩ := List.getLast?_eq_some_iff.mp returned
      rw [ended, List.dropLast_concat]
      exact (words_append_blanks start (by simp; rfl)).symm
    · rfl
  simp only [parseNmOutput, nmOutput, String.toList_ofList, lines, splitOnP_unlines unbroken]
  simp only [List.getLast?_concat, if_true, List.dropLast_concat, List.map_map, List.filterMap_map, List.mem_map,
    List.mem_filterMap, Function.comp_apply, parsed, DynamicSymbol.Shows]
  constructor
  · rintro ⟨_, ⟨symbol, member, told⟩, rfl⟩
    obtain ⟨⟨strong, filled⟩, rfl⟩ := (Option.ite_none_right_eq_some.mp told).imp_right Option.some.inj
    exact ⟨symbol, member, strong, by simpa using filled, by simp⟩
  · rintro ⟨symbol, member, strong, filled, shown⟩
    refine ⟨symbol.leading, ⟨symbol, member, if_pos ⟨strong, ?_⟩⟩, by simp [shown]⟩
    simpa [shown] using filled

/-! ## The statements -/

structure GrypeMatch where
  /-- The id of the vulnerability. -/
  vulnerability : String

structure GrypeReport where
  found : List GrypeMatch

structure Statement where
  /-- The name of the vulnerability. -/
  vulnerability : String
  /-- The ids of the products. -/
  products : List String
  status : String
  justification : Option String
  impactStatement : Option String
  timestamp : String
deriving DecidableEq

def autoImpactPrefix : String :=
  "Auto-derived by auto-vex-reachability: the banlieue binary's dynamic symbol-import table contains none of the " ++
    "documented entry points for this CVE"

structure Derived where
  emitted : List String := []
  statements : SortedMap String Statement := .empty

section Derivation

variable (importedSymbols : List String) (affectedFunctions : SortedMap String (List String))
  (alreadyTriaged : List String) (productPurl statementTimestamp : String)

def unreachable (cve : String) (functions : List String) : Statement where
  vulnerability := cve
  products := [productPurl]
  status := "not_affected"
  justification := some "vulnerable_code_not_in_execute_path"
  impactStatement := some (autoImpactPrefix ++ " (" ++ ", ".intercalate functions ++
    "). The dynamic symbol-import table was inspected via `nm -D --undefined-only` against the release artifact; " ++
    "none of the listed entry points were found.")
  timestamp := statementTimestamp

/-- One round of the loop over the report. -/
def derive (derived : Derived) (reported : GrypeMatch) : Derived :=
  let cve := reported.vulnerability
  if alreadyTriaged.contains cve then derived
  else if derived.emitted.contains cve then derived
  else
    match affectedFunctions.get cve with
    | some functions =>
      if functions.isEmpty then derived
      else if functions.any importedSymbols.contains then derived
      else
        { emitted := cve :: derived.emitted
          statements := derived.statements.insert cve (unreachable productPurl statementTimestamp cve functions) }
    | none => derived

def computeReachabilityVex (grype : GrypeReport) : List Statement :=
  let derived := grype.found.foldl
    (derive importedSymbols affectedFunctions alreadyTriaged productPurl statementTimestamp) {}
  derived.statements.entries.map Prod.snd

end Derivation

section Statements

variable {imported : List String} {affected : SortedMap String (List String)} {triaged : List String}
  {purl timestamp cve : String} {derived : Derived} {found : List GrypeMatch}

/-- The CVE gets a statement if it is reported. -/
def Cleared (imported : List String) (affected : SortedMap String (List String)) (triaged : List String)
    (cve : String) : Prop :=
  cve ∉ triaged ∧ ∃ functions, affected.get cve = some functions ∧ functions ≠ [] ∧
    ∀ function ∈ functions, function ∉ imported

theorem derive_cases (reported : GrypeMatch) :
    (derive imported affected triaged purl timestamp derived reported = derived ∧
      (Cleared imported affected triaged reported.vulnerability → reported.vulnerability ∈ derived.emitted)) ∨
    Cleared imported affected triaged reported.vulnerability ∧ ∃ statement,
      statement.vulnerability = reported.vulnerability ∧
      derive imported affected triaged purl timestamp derived reported =
        ⟨reported.vulnerability :: derived.emitted, derived.statements.insert reported.vulnerability statement⟩ := by
  simp only [derive, Cleared]
  split_ifs with known emitted
  · exact .inl ⟨rfl, fun cleared => absurd (List.contains_iff_mem.mp known) cleared.1⟩
  · exact .inl ⟨rfl, fun _ => List.contains_iff_mem.mp emitted⟩
  · cases affected.get reported.vulnerability with
    | none => exact .inl ⟨rfl, by simp⟩
    | some functions =>
      simp only
      split_ifs with empty used
      · exact .inl ⟨rfl, by simp_all⟩
      · exact .inl ⟨rfl, by simp_all⟩
      · exact .inr ⟨by simp_all, _, rfl, rfl⟩

/-- The statements are about the CVEs that were emitted. -/
def Derived.Consistent (derived : Derived) : Prop :=
  ∀ cve, (derived.statements.get cve).map Statement.vulnerability = if cve ∈ derived.emitted then some cve else none

theorem derive_consistent (consistent : derived.Consistent) (reported : GrypeMatch) :
    (derive imported affected triaged purl timestamp derived reported).Consistent := by
  rcases derive_cases reported with ⟨same, -⟩ | ⟨-, statement, named, next⟩
  · exact same ▸ consistent
  · rw [next]
    intro cve
    by_cases same : cve = reported.vulnerability
    · simp [same, named]
    · simp [same, SortedMap.get_insert_of_ne, consistent cve]

theorem mem_emitted_foldl : cve ∈ (found.foldl (derive imported affected triaged purl timestamp) derived).emitted ↔
    cve ∈ derived.emitted ∨ (∃ reported ∈ found, reported.vulnerability = cve) ∧ Cleared imported affected triaged cve := by
  induction found generalizing derived with
  | nil => simp
  | cons reported found ih =>
    rw [List.foldl_cons, ih]
    rcases derive_cases reported with ⟨same, known⟩ | ⟨cleared, statement, -, next⟩
    · rw [same]
      grind
    · rw [next]
      grind

theorem emitted_iff {grype : GrypeReport} :
    (∃ statement ∈ computeReachabilityVex imported affected triaged purl timestamp grype, statement.vulnerability = cve) ↔
      (∃ reported ∈ grype.found, reported.vulnerability = cve) ∧ Cleared imported affected triaged cve := by
  have consistent : (grype.found.foldl (derive imported affected triaged purl timestamp) {}).Consistent :=
    List.foldlRecOn _ _ (fun _ => rfl) fun _ kept reported _ => derive_consistent kept reported
  have emitted := @mem_emitted_foldl imported affected triaged purl timestamp cve {} grype.found
  simp only [List.not_mem_nil, false_or] at emitted
  rw [← emitted]
  simp only [computeReachabilityVex, List.mem_map, Prod.exists, exists_eq_right, ← SortedMap.get_eq_some_iff]
  constructor
  · rintro ⟨statement, ⟨key, stored⟩, rfl⟩
    have named := consistent key
    rw [stored] at named
    obtain ⟨member, same⟩ := Option.ite_none_right_eq_some.mp named.symm
    exact Option.some.inj same ▸ member
  · intro member
    have named := consistent cve
    rw [if_pos member] at named
    obtain ⟨statement, stored, named⟩ := Option.map_eq_some_iff.mp named
    exact ⟨statement, ⟨cve, stored⟩, named⟩

end Statements

/-! ## Which symbols it takes -/

/-- Exactly the CVEs none of whose functions is imported get a statement, if and only if
the functions of those that may get one are imported just when strong symbols show them. -/
theorem statements_exact_iff (width : Nat) (symbols : List DynamicSymbol) (grype : GrypeReport)
    (affected : SortedMap String (List String)) (triaged : List String) (purl timestamp : String) :
    (∀ cve, (∃ statement ∈ computeReachabilityVex (parseNmOutput (nmOutput width symbols)) affected triaged purl timestamp
        grype, statement.vulnerability = cve) ↔
      (∃ reported ∈ grype.found, reported.vulnerability = cve) ∧ cve ∉ triaged ∧
        ∃ functions, affected.get cve = some functions ∧ functions ≠ [] ∧
          ∀ function ∈ functions, ¬∃ symbol ∈ symbols, symbol.name = function) ↔
    ∀ reported ∈ grype.found, reported.vulnerability ∉ triaged →
      ∀ functions, affected.get reported.vulnerability = some functions →
        ((∃ function ∈ functions, ∃ symbol ∈ symbols, symbol.name = function) ↔
          ∃ function ∈ functions, ∃ symbol ∈ symbols, symbol.Shows function) := by
  have none_iff : ∀ {property : String → Prop} {functions : List String},
      (∀ function ∈ functions, ¬property function) ↔ ¬∃ function ∈ functions, property function := by simp
  simp only [emitted_iff, Cleared, mem_parseNmOutput, none_iff]
  constructor
  · intro exact reported member untriaged functions mapped
    by_cases empty : functions = []
    · simp [empty]
    · have decided := exact reported.vulnerability
      simp only [untriaged, mapped, not_false_eq_true, true_and, Option.some.injEq, exists_eq_left', ne_eq, empty] at decided
      exact (not_iff_not.mp (and_congr_right_iff.mp decided ⟨reported, member, rfl⟩)).symm
  · intro shown cve
    refine and_congr_right fun ⟨reported, member, same⟩ => and_congr_right fun untriaged => exists_congr fun functions =>
      and_congr_right fun mapped => and_congr_right fun _ => not_congr ?_
    exact (shown reported member (same ▸ untriaged) functions (same ▸ mapped)).symm

/-- A weak symbol is an import as well. -/
theorem weak_import_cleared :
    let symbol : DynamicSymbol := ⟨"deflate", none, .weak, by decide⟩
    (computeReachabilityVex (parseNmOutput (nmOutput 16 [symbol])) (.ofList [("CVE-1", ["deflate"])]) [] "pkg:oci/banlieue"
      "2026-01-01T00:00:00Z" ⟨[⟨"CVE-1"⟩]⟩).map Statement.vulnerability = ["CVE-1"] := by
  decide +kernel

end Banlieue.Vex
