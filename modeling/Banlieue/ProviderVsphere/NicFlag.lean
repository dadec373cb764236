import Mathlib.Data.List.TakeDrop
import Banlieue.Data.Basics
import Banlieue.Data.Numerals

namespace Banlieue.ProviderVsphere

open Banlieue.Data

/-! # The flag of a network card -/

inductive NicAdapter where
  | vmxnet3
  | vmxnet2
  | e1000
  | e1000e
deriving DecidableEq

def NicAdapter.asStr : NicAdapter → String
  | .vmxnet3 => "vmxnet3"
  | .vmxnet2 => "vmxnet2"
  | .e1000 => "e1000"
  | .e1000e => "e1000e"

def NicAdapter.fromStr (text : List Char) : Except String NicAdapter :=
  match String.ofList (text.map Char.toLower) with
  | "vmxnet3" => .ok .vmxnet3
  | "vmxnet2" => .ok .vmxnet2
  | "e1000" => .ok .e1000
  | "e1000e" => .ok .e1000e
  | other => .error ("unknown NIC adapter " ++ debugText other.toList ++
    " (expected: vmxnet3, vmxnet2, e1000, e1000e)")

structure VMImageTemplateNic where
  network : Option String := none
  adapter : Option NicAdapter := none
  pciSlot : Option Int32 := none
deriving DecidableEq

def keyNetwork : String := "network"

def keyAdapter : String := "adapter"

def keyPciSlot : String := "pciSlot"

def setting (key value : String) : List Char := key.toList ++ '=' :: value.toList

/-- The settings that are given, in this order. -/
def nicParts (nic : VMImageTemplateNic) : List (List Char) :=
  (nic.network.map (setting keyNetwork)).toList ++
    (nic.adapter.map fun adapter => setting keyAdapter adapter.asStr).toList ++
    (nic.pciSlot.map fun slot => setting keyPciSlot (toString slot.toInt)).toList

def serializeNicFlag (nic : VMImageTemplateNic) : String := String.ofList ([','].intercalate (nicParts nic))

/-- An optional sign and at least one digit, in range. -/
def parseI32 (text : List Char) : Option Int32 :=
  let digits := if text.head? = some '-' ∨ text.head? = some '+' then text.tail else text
  let value : Int := (if text.head? = some '-' then -1 else 1) * Nat.ofDigitChars 10 digits 0
  if digits.isEmpty || !digits.all Char.isDigit then none
  else if -2147483648 ≤ value ∧ value < 2147483648 then some (.ofInt value) else none

def parseNicSegment (nic : VMImageTemplateNic) (segment : List Char) : Except String VMImageTemplateNic :=
  let expected := "(expected one of " ++ keyNetwork ++ ", " ++ keyAdapter ++ ", " ++ keyPciSlot ++ ")"
  match splitOnce '=' segment with
  | none => .error ("--nic segment " ++ debugText segment ++ " must be key=value " ++ expected)
  | some (key, value) =>
    if key = keyNetwork.toList then .ok { nic with network := some (String.ofList value) }
    else if key = keyAdapter.toList then
      match NicAdapter.fromStr value with
      | .ok adapter => .ok { nic with adapter := some adapter }
      | .error reason => .error ("--nic adapter=" ++ debugText value ++ ": " ++ reason)
    else if key = keyPciSlot.toList then
      match parseI32 value with
      | some slot => .ok { nic with pciSlot := some slot }
      | none => .error ("--nic pciSlot=" ++ debugText value ++ " is not a valid integer")
    else .error ("--nic key " ++ debugText key ++ " not recognized " ++ expected)

def parseNicFlag (text : String) : Except String VMImageTemplateNic :=
  if text.isEmpty then .ok {} else (text.toList.splitOn ',').foldlM parseNicSegment {}

/-- The network has no comma. -/
def VMImageTemplateNic.Plain (nic : VMImageTemplateNic) : Prop :=
  ∀ network, nic.network = some network → ',' ∉ network.toList

/-! ## Reading back what was written -/

theorem toList_toString_int (number : Int) :
    (toString number).toList = (if number < 0 then ['-'] else []) ++ (toString number.natAbs).toList := by
  cases number with
  | ofNat number => rfl
  | negSucc number =>
    change ("-" ++ toString (number + 1)).toList = _
    rw [String.toList_append, if_pos (Int.negSucc_lt_zero number)]
    rfl

theorem parseI32_toString (slot : Int32) : parseI32 (toString slot.toInt).toList = some slot := by
  have range : -2147483648 ≤ slot.toInt ∧ slot.toInt < 2147483648 := ⟨slot.le_toInt, slot.toInt_lt⟩
  rw [toList_toString_int]
  generalize size : slot.toInt.natAbs = number
  have value : Nat.ofDigitChars 10 (toString number).toList 0 = number := by
    rw [toList_toString, Nat.ofDigitChars_toDigits (by decide) (by decide)]
  have filled : (toString number).toList ≠ [] := by simp
  have digits : ∀ digit ∈ (toString number).toList, digit.isDigit = true := fun _ => isDigit_of_mem_toString
  have unsigned : ∀ sign : Char, sign.isDigit = false → (toString number).toList.head? ≠ some sign := by
    intro sign other same
    rw [digits sign (List.mem_of_mem_head? same)] at other
    cases other
  generalize (toString number).toList = text at *
  by_cases negative : slot.toInt < 0
  · have whole : -(number : Int) = slot.toInt := by omega
    simpa [parseI32, negative, filled, value, whole, range] using digits
  · have whole : (number : Int) = slot.toInt := by omega
    simpa [parseI32, negative, unsigned '-' rfl, unsigned '+' rfl, filled, value, whole, range] using digits

theorem parse_nicParts (nic : VMImageTemplateNic) : (nicParts nic).foldlM parseNicSegment {} = .ok nic := by
  have named (nic : VMImageTemplateNic) (network : String) :
      parseNicSegment nic (setting keyNetwork network) = .ok { nic with network := some network } := by
    change Except.ok { nic with network := some (String.ofList network.toList) } = _
    rw [String.ofList_toList]
  have adapted (nic : VMImageTemplateNic) (adapter : NicAdapter) :
      parseNicSegment nic (setting keyAdapter adapter.asStr) = .ok { nic with adapter := some adapter } := by
    cases adapter <;> rfl
  have slotted (nic : VMImageTemplateNic) (slot : Int32) :
      parseNicSegment nic (setting keyPciSlot (toString slot.toInt)) = .ok { nic with pciSlot := some slot } := by
    have split : splitOnce '=' (setting keyPciSlot (toString slot.toInt)) =
      some (keyPciSlot.toList, (toString slot.toInt).toList) := rfl
    simp only [parseNicSegment, split, parseI32_toString]
    rfl
  obtain ⟨network, adapter, pciSlot⟩ := nic
  cases network <;> cases adapter <;> cases pciSlot <;>
    simp only [nicParts, Option.map_none, Option.map_some, Option.toList_none, Option.toList_some, List.nil_append,
      List.cons_append, List.foldlM_cons, named, adapted, slotted] <;> rfl

theorem not_mem_of_mem_splitOn {separator : Char} {text part : List Char} (member : part ∈ text.splitOn separator) :
    separator ∉ part := by
  induction text generalizing part with
  | nil => simp_all
  | cons first rest ih =>
    rw [List.splitOn_cons_eq_if_modifyHead] at member
    split at member
    · rcases List.mem_cons.mp member with rfl | member
      · exact List.not_mem_nil
      · exact ih member
    · rename_i other
      cases parts : rest.splitOn separator with
      | nil => exact absurd parts (List.splitOn_ne_nil _ _)
      | cons head tail =>
        rw [parts, List.modifyHead_cons] at member
        rcases List.mem_cons.mp member with rfl | member
        · refine List.not_mem_cons_of_ne_of_not_mem (fun same => other ?_) (ih (parts ▸ List.mem_cons_self))
          exact beq_of_eq same.symm
        · exact ih (parts ▸ List.mem_cons_of_mem _ member)

theorem subset_of_splitOnce {separator : Char} {text key value : List Char}
    (found : splitOnce separator text = some (key, value)) : value ⊆ text := by
  rw [splitOnce, List.span_eq_takeWhile_dropWhile] at found
  cases rest : text.dropWhile (· != separator) with
  | nil => simp [rest] at found
  | cons _ after =>
    simp only [rest, Option.some.injEq, Prod.mk.injEq] at found
    have inside := (List.dropWhile_suffix (l := text) (· != separator)).subset
    rw [rest, found.2] at inside
    exact fun _ member => inside (List.mem_cons_of_mem _ member)

theorem plain_parseNicSegment {nic next : VMImageTemplateNic} {segment : List Char} (plain : ',' ∉ segment)
    (before : nic.Plain) (parsed : parseNicSegment nic segment = .ok next) : next.Plain := by
  rw [parseNicSegment] at parsed
  split at parsed
  · cases parsed
  · rename_i key value found
    split at parsed
    · cases parsed
      rintro _ ⟨⟩
      rw [String.toList_ofList]
      exact fun comma => plain (subset_of_splitOnce found comma)
    -- Every other setting leaves the network as it was.
    · repeat' split at parsed
      all_goals cases parsed
      all_goals exact before

theorem plain_of_parse {segments : List (List Char)} {nic result : VMImageTemplateNic}
    (plain : ∀ segment ∈ segments, ',' ∉ segment) (before : nic.Plain)
    (parsed : segments.foldlM parseNicSegment nic = .ok result) : result.Plain := by
  induction segments generalizing nic with
  | nil =>
    cases parsed
    exact before
  | cons segment rest ih =>
    obtain ⟨next, first, later⟩ := exists_of_bind_eq_ok parsed
    obtain ⟨this, others⟩ := List.forall_mem_cons.mp plain
    exact ih others (plain_parseNicSegment this before first) later

theorem not_comma_mem_nicParts {nic : VMImageTemplateNic} (plain : nic.Plain) : ∀ part ∈ nicParts nic, ',' ∉ part := by
  intro part member
  simp only [nicParts, List.mem_append, Option.mem_toList, Option.map_eq_some_iff] at member
  obtain (⟨network, given, rfl⟩ | ⟨adapter, -, rfl⟩) | ⟨slot, -, rfl⟩ := member
  · simpa [setting, keyNetwork] using plain network given
  · cases adapter <;> decide
  · have digits : ',' ∉ (toString slot.toInt.natAbs).toList := fun comma => by cases isDigit_of_mem_toString comma
    rw [setting, toList_toString_int]
    split <;> simpa [keyPciSlot] using digits

/-- A card is read back just if its network has no comma. -/
theorem nic_flag_read_back_iff (nic : VMImageTemplateNic) :
    parseNicFlag (serializeNicFlag nic) = .ok nic ↔ ∀ network, nic.network = some network → ',' ∉ network.toList := by
  constructor
  · intro parsed
    have unset : VMImageTemplateNic.Plain {} := fun _ never => by cases never
    rw [parseNicFlag] at parsed
    split at parsed
    · cases parsed
      exact unset
    · exact plain_of_parse (fun _ => not_mem_of_mem_splitOn) unset parsed
  · intro plain
    have parsed := parse_nicParts nic
    rw [parseNicFlag, serializeNicFlag, String.toList_ofList]
    by_cases unset : nicParts nic = []
    · rw [unset] at parsed ⊢
      exact parsed
    · have split := List.splitOn_intercalate ',' (not_comma_mem_nicParts plain) unset
      have filled : [','].intercalate (nicParts nic) ≠ [] := by
        intro nothing
        rw [← split, nothing] at parsed
        cases parsed
      rw [split, parsed, if_neg (by simpa using filled)]

/-- The rest of such a name is taken for a setting of its own, or for no setting. -/
theorem network_with_comma :
    parseNicFlag (serializeNicFlag { network := some "lan,adapter=e1000" }) =
        .ok { network := some "lan", adapter := some .e1000 } ∧
      (parseNicFlag (serializeNicFlag { network := some "a,b" })).toOption = none := by
  decide +kernel

end Banlieue.ProviderVsphere
