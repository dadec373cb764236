import Banlieue.Data.Numerals
import Banlieue.Imagebuilder.Artifact
import Banlieue.Imagebuilder.CloudConfig

namespace Banlieue.Imagebuilder

open Banlieue.Api Banlieue.Data

/-! # The cloud-config layer for first-boot sealing

An image that seals itself gets one more layer, merged after every layer of the
operator.  An ISO gets its policy as a file written by the install, a cloud image as
keys of its own cloud-config.
-/

def policyFile : String := "/oem/91_banlieue_first_boot_sealing.yaml"

def policyStepName : String := "banlieue-first-boot-sealing-policy"

def reportStepName : String := "banlieue-first-boot-sealing-report"

def guestinfoSealedKey : String := "guestinfo.banlieue.sealed"

def runSealedPath : String := "/run/banlieue/sealed"

def vsockNotifySocket : String := "vsock-stream:2:1024"

def reasonFirstBootSealingConflict : String := "FirstBootSealingConflict"

def reasonFirstBootSealingInvalid : String := "FirstBootSealingInvalid"

def systemPartitions : List String := ["COS_OEM", "COS_STATE", "COS_RECOVERY", "COS_GRUB"]

def installedSystemGuard : String := "[ -f /run/cos/active_mode ] || [ -f /run/cos/passive_mode ]"

/-- 0644 -/
def policyFileMode : String := "420"

inductive SealingLayerError where
  | conflict (message : String)
  | invalid (message : String)
  | parse (message : String)
deriving DecidableEq

def SealingLayerError.reason : SealingLayerError → String
  | .conflict _ => reasonFirstBootSealingConflict
  | .invalid _ | .parse _ => reasonFirstBootSealingInvalid

def SealingLayerError.text : SealingLayerError → String
  | .conflict message | .invalid message | .parse message => message

def isPlainLabel (name : String) : Bool :=
  name != "" && name.toList.all fun char => char.isUpper || char.isDigit || char == '_'

def checkPartition (partition : String) : Except SealingLayerError Unit :=
  if isPlainLabel partition = false then
    .error (.invalid ("firstBootSealing.partitions entry " ++ debugText partition.toList ++
      " is not a partition label ([A-Z0-9_]+)"))
  else if partition ∈ systemPartitions then
    .error (.invalid ("firstBootSealing cannot seal " ++ partition ++
      ": the running system depends on it (ADR-0088)"))
  else .ok ()

def validate (sealing : FirstBootSealing) : Except SealingLayerError Unit :=
  if sealing.partitions.isEmpty then
    .error (.invalid "firstBootSealing.partitions is empty: nothing would be sealed (ADR-0088)")
  else sealing.partitions.forM checkPartition

/-- What a document has at `install.encrypted_partitions`. -/
def encryptedPartitions (document : Value) : Option Value :=
  (document.get "install").bind (·.get "encrypted_partitions")

/-- Only the texts of a list are seen. -/
def listedPartitions (document : Value) : List String :=
  (((encryptedPartitions document).bind Value.asArray).map (·.filterMap Value.asStr)).getD []

def operatorEncryptedPartitions (yaml : Yaml) (operatorMerged : String) : Except SealingLayerError (List String) :=
  if operatorMerged.toList.all Char.isWhitespace then .ok []
  else
    match yaml.fromStr operatorMerged with
    | .error why => .error (.parse ("operator cloud-config is not YAML: " ++ why))
    | .ok document => .ok (listedPartitions document)

def reportScript (partitions : List String) : String :=
  let list := " ".intercalate partitions
  "sealed=\"\"\n" ++
  "luks=\"$(blkid -t TYPE=crypto_LUKS -o value -s LABEL 2>/dev/null)\"\n" ++
  "for p in " ++ list ++ "; do\n" ++
  "  if printf '%s\\n' \"$luks\" | grep -qx -e \"$p\" -e \"$\x7bp\x7d_LUKS\"; then\n" ++
  "    sealed=\"$\x7bsealed:+$sealed,\x7d$p\"\n" ++
  "  fi\n" ++
  "done\n" ++
  "if command -v vmware-rpctool >/dev/null 2>&1; then\n" ++
  "  vmware-rpctool \"info-set " ++ guestinfoSealedKey ++ " $sealed\" || true\n" ++
  "fi\n" ++
  "mkdir -p \"$(dirname " ++ runSealedPath ++ ")\"\n" ++
  "printf '%s\\n' \"$sealed\" > " ++ runSealedPath ++ "\n" ++
  "if [ -e /dev/vsock ]; then\n" ++
  "  NOTIFY_SOCKET=" ++ vsockNotifySocket ++ " systemd-notify \"sealed=$sealed\" || true\n" ++
  "fi\n"

def reportStep (partitions : List String) : Value :=
  .object [("name", .string reportStepName), ("if", .string installedSystemGuard),
    ("commands", .array [.string (reportScript partitions)])]

def policy (partitions : List String) : Value :=
  .object [("kcrypt", .object [("encrypt_on_boot", .bool true)]),
    ("install", .object [("encrypted_partitions", .array (partitions.map .string))])]

def policyYaml (yaml : Yaml) (partitions : List String) : String :=
  cloudConfigHeader ++ "\n" ++ yaml.body (policy partitions)

def policyStep (yaml : Yaml) (partitions : List String) : Value :=
  .object [("name", .string policyStepName),
    ("files", .array [.object [("path", .string policyFile), ("permissions", .number policyFileMode),
      ("content", .string (policyYaml yaml partitions))]])]

def isoLayer (yaml : Yaml) (partitions : List String) : Value :=
  .object [("stages", .object [("after-install-chroot", .array [policyStep yaml partitions]),
    ("boot", .array [reportStep partitions])])]

/-- Lists are concatenated, so only what the operator has not listed is added. -/
def cloudImageLayer (partitions operatorListed : List String) : Value :=
  let missing := partitions.filter fun partition => !operatorListed.contains partition
  .object [("kcrypt", .object [("encrypt_on_boot", .bool true)]),
    ("install", .object [("encrypted_partitions", .array (missing.map .string))]),
    ("stages", .object [("boot", .array [reportStep partitions])])]

def sealingLayer (yaml : Yaml) (sealing : FirstBootSealing) (kind : BuildArtifactKind) (installMode : InstallMode)
    (operatorMerged : String) : Except SealingLayerError String := do
  validate sealing
  let operatorListed ← operatorEncryptedPartitions yaml operatorMerged
  match kind with
  | .iso =>
    if installMode = .immediate ∧ operatorListed ≠ [] then
      .error (.conflict ("an operator cloud-config sets install.encrypted_partitions (" ++
        ", ".intercalate operatorListed ++ ") on an Immediate image with firstBootSealing: the template " ++
        "installs once with no vTPM, so install-time encryption fails. Remove it; banlieue writes the " ++
        "policy into COS_OEM for first boot instead (ADR-0088)"))
    else .ok (yaml.body (isoLayer yaml sealing.partitions))
  | .cloudImage => .ok (yaml.body (cloudImageLayer sealing.partitions operatorListed))

/-! ## The merged cloud-config of a build -/

structure SealingRequest where
  sealing : FirstBootSealing
  kind : BuildArtifactKind
  installMode : InstallMode
deriving DecidableEq

inductive MergedCloudConfig where
  | ready (yaml : String) (sealingLayer : Bool)
  | sealingRefused (error : SealingLayerError)
deriving DecidableEq

def mergeWithSealing (yaml : Yaml) (operatorDocs : List String) (sealing : Option SealingRequest) :
    Except MergeError MergedCloudConfig := do
  let operator ← mergeCloudConfigs yaml operatorDocs
  match sealing with
  | none => .ok (.ready operator false)
  | some request =>
    match sealingLayer yaml request.sealing request.kind request.installMode operator with
    | .error why => .ok (.sealingRefused why)
    | .ok layer => do
      let merged ← mergeCloudConfigs yaml [operator, layer]
      .ok (.ready merged true)

/-! ## What the policy asks of the document -/

/-- Encryption on first boot, of at least those partitions. -/
def SealsOnBoot (document : Value) (partitions : List String) : Prop :=
  (document.get "kcrypt").bind (·.get "encrypt_on_boot") = some (.bool true) ∧
    ∃ entries, encryptedPartitions document = some (.array entries) ∧
      ∀ partition ∈ partitions, Value.string partition ∈ entries

def HasStep (document : Value) (stage : String) (step : Value) : Prop :=
  ∃ steps, (document.get "stages").bind (·.get stage) = some (.array steps) ∧ step ∈ steps

/-- A text or a number: a label of digits only is a number to YAML. -/
def namesPartition : Value → Bool
  | .string text => text != ""
  | .number _ => true
  | _ => false

/-- A value of `install.encrypted_partitions` that names a partition, in a list or alone. -/
def asksToEncrypt : Value → Bool
  | .array entries => entries.any namesPartition
  | value => namesPartition value

def Enforces (yaml : Yaml) (request : SealingRequest) (document : Value) : Prop :=
  match request.kind with
  | .cloudImage => SealsOnBoot document request.sealing.partitions
  | .iso =>
    HasStep document "after-install-chroot" (policyStep yaml request.sealing.partitions) ∧
      (∃ written, yaml.fromStr (policyYaml yaml request.sealing.partitions) = .ok written ∧
        SealsOnBoot written request.sealing.partitions) ∧
      HasStep document "boot" (reportStep request.sealing.partitions) ∧
      (request.installMode = .immediate → (encryptedPartitions document).any asksToEncrypt = false)

/-! ## What the operator's documents ask for -/

/-- A mapping is as good as the empty one here: it names no partition. -/
def outline : Value → Value
  | .object _ => .object []
  | value => value

/-- A value on top of what earlier documents gave. -/
def layOver (previous : Option Value) : Value → Value
  | .array entries => .array ((previous.bind Value.asArray).getD [] ++ entries)
  | value => outline value

/-- What a document makes of the partitions that the ones before it ask the install to
encrypt. -/
def requestStep (previous : Option Value) (document : Value) : Option Value :=
  if document.isNull then none
  else
    match document.get "install" with
    | none => previous
    | some install =>
      if install.isNull then none
      else
        match install.get "encrypted_partitions" with
        | none => previous
        | some value => some (layOver previous value)

def documents (yaml : Yaml) (sources : List String) : List Value :=
  sources.filterMap fun source => (yaml.fromStr source).toOption

def operatorRequest (yaml : Yaml) (sources : List String) : Option Value :=
  (documents yaml sources).foldl requestStep none

/-- The shapes in which the check sees every partition that is named: a list without
bare numbers, and nothing that stands alone. -/
def readable : Value → Bool
  | .array entries => entries.all fun
    | .number _ => false
    | _ => true
  | value => !namesPartition value

variable {value : Value} {result base merged : Value} {index : Nat} {request : SealingRequest}

theorem outline_layOver {base : Option Value} (overlaid : Overlaid base value result) :
    outline result = layOver (base.map outline) value := by
  cases value with
  | array entries =>
    rw [overlaid.eq_array]
    cases base with
    | none => rfl
    | some before => cases before <;> rfl
  | object fields =>
    -- A mapping stays a mapping, whatever it is laid over.
    rcases overlaid with ⟨-, rfl⟩ | ⟨before, path, -, merged⟩
    · rfl
    · cases before with
      | null =>
        simp only [deepMerge, Except.ok.injEq] at merged
        exact merged ▸ rfl
      | object earlier =>
        obtain ⟨after, -, rfl⟩ := exists_of_map_eq_ok (by simpa only [deepMerge] using merged)
        rfl
      | _ => simp [deepMerge] at merged
  | _ =>
    rcases overlaid with ⟨-, rfl⟩ | ⟨before, path, -, merged⟩
    · rfl
    · cases before <;> simp [deepMerge] at merged <;> exact merged ▸ rfl

variable {document : Value}

theorem request_overlaid (wellFormed : document.WellFormed) (overlaid : Overlaid (some base) document result) :
    (encryptedPartitions result).map outline = requestStep ((encryptedPartitions base).map outline) document := by
  unfold requestStep
  split
  · rename_i null
    cases Value.eq_null_of_isNull null
    rw [overlaid.eq_null]
    rfl
  · rename_i something
    have filled := Value.ne_null_of_isNull something
    cases found : document.get "install" with
    | none => rw [encryptedPartitions, overlaid.get_none wellFormed filled found]; rfl
    | some install =>
      obtain ⟨after, got, inner⟩ := overlaid.get_some wellFormed found
      have good := Value.wellFormed_get wellFormed found
      have after_of : encryptedPartitions result = after.get "encrypted_partitions" := by
        rw [encryptedPartitions, got]
        rfl
      rw [after_of]
      dsimp only
      split
      · rename_i null
        cases Value.eq_null_of_isNull null
        rw [inner.eq_null]
        rfl
      · rename_i something
        have filled := Value.ne_null_of_isNull something
        cases listed : install.get "encrypted_partitions" with
        | none => exact congrArg (Option.map outline) (inner.get_none good filled listed)
        | some value =>
          obtain ⟨last, gotLast, leaf⟩ := inner.get_some good listed
          rw [gotLast]
          exact congrArg some (outline_layOver leaf)

variable {yaml : Yaml}

theorem request_mergeSources {sources : List String} (succeeded : mergeSources yaml base index sources = .ok merged) :
    (encryptedPartitions merged).map outline =
      (documents yaml sources).foldl requestStep ((encryptedPartitions base).map outline) := by
  induction sources generalizing base index with
  | nil =>
    cases succeeded
    rfl
  | cons source rest ih =>
    obtain ⟨document, read, later⟩ := exists_of_bind_eq_ok succeeded
    obtain ⟨next, first, later⟩ := exists_of_bind_eq_ok later
    have parsed := ok_of_mapError read
    have split : documents yaml (source :: rest) = document :: documents yaml rest := by
      simp [documents, parsed, Except.toOption]
    rw [ih later, split, List.foldl_cons, request_overlaid (yaml.wellFormed parsed) (.inr ⟨_, _, rfl, first⟩)]

/-! ## The layers in the merged document -/

theorem Overlaid.get_path {base : Option Value} {middle found : Value}
    (overlaid : Overlaid base value result) (wellFormed : value.WellFormed) (outer inner : String)
    (first : value.get outer = some middle) (second : middle.get inner = some found) :
    ∃ after, (result.get outer).bind (·.get inner) = some after ∧
      Overlaid ((base.bind (·.get outer)).bind (·.get inner)) found after := by
  obtain ⟨between, got, overlaid⟩ := overlaid.get_some wellFormed first
  obtain ⟨after, gotLast, overlaid⟩ := overlaid.get_some (Value.wellFormed_get wellFormed first) second
  exact ⟨after, by rw [got]; exact gotLast, overlaid⟩

theorem get_of_overlaid_empty {start : Value} (wellFormed : document.WellFormed)
    (overlaid : Overlaid (some (.object [])) document start) (key : String) : start.get key = document.get key := by
  by_cases null : document = .null
  · subst null
    rw [overlaid.eq_null]
  · cases found : document.get key with
    | none => exact overlaid.get_none wellFormed null found
    | some value =>
      obtain ⟨after, got, inner⟩ := overlaid.get_some wellFormed found
      rcases inner with ⟨-, rfl⟩ | ⟨before, path, absent, -⟩
      · exact got
      · cases absent

theorem wellFormed_strings (texts : List String) : (Value.array (texts.map .string)).WellFormed := by
  rw [Value.wellFormed_array]
  intro entry member
  obtain ⟨text, -, rfl⟩ := List.mem_map.mp member
  trivial

theorem wellFormed_isoLayer (yaml : Yaml) (partitions : List String) : (isoLayer yaml partitions).WellFormed := by
  simp [isoLayer, policyStep, reportStep, Value.WellFormed, Value.FieldsWellFormed, Value.AllWellFormed]

theorem wellFormed_policy (partitions : List String) : (policy partitions).WellFormed := by
  have listed := wellFormed_strings partitions
  simp only [Value.WellFormed] at listed
  simp [policy, Value.WellFormed, Value.FieldsWellFormed, listed]

theorem wellFormed_cloudImageLayer (partitions operatorListed : List String) :
    (cloudImageLayer partitions operatorListed).WellFormed := by
  have listed := wellFormed_strings (partitions.filter fun partition => !operatorListed.contains partition)
  simp only [Value.WellFormed] at listed
  simpa [cloudImageLayer, reportStep, Value.WellFormed, Value.FieldsWellFormed, Value.AllWellFormed] using listed

theorem sealsOnBoot_policy (partitions : List String) : SealsOnBoot (policy partitions) partitions :=
  ⟨rfl, _, rfl, fun _ member => List.mem_map_of_mem member⟩

/-- What a successful merge is made of: the operator's document, and over it the layer
for the build. -/
structure Layered (yaml : Yaml) (operatorDocs : List String) (request : SealingRequest) (operator merged : Value) :
    Prop where
  operatorMerged : mergeSources yaml (.object []) 0 operatorDocs = .ok operator
  wellFormed : operator.WellFormed
  layer : ∃ start layer, Overlaid (some (.object [])) operator start ∧ Overlaid (some start) layer merged ∧
    match request.kind with
    | .iso => layer = isoLayer yaml request.sealing.partitions ∧
        (request.installMode = .immediate → listedPartitions operator = [])
    | .cloudImage => layer = cloudImageLayer request.sealing.partitions (listedPartitions operator)

theorem operatorEncryptedPartitions_printed (faithful : yaml.Faithful) (wellFormed : document.WellFormed) :
    operatorEncryptedPartitions yaml (cloudConfigHeader ++ "\n" ++ yaml.body document) =
      .ok (listedPartitions document) := by
  have header : cloudConfigHeader.toList.all Char.isWhitespace = false := by decide
  have filled : (cloudConfigHeader ++ "\n" ++ yaml.body document).toList.all Char.isWhitespace = false := by
    simp only [String.toList_append, List.all_append, header, Bool.false_and]
  rw [operatorEncryptedPartitions, filled, if_neg Bool.false_ne_true, (faithful document wellFormed).2]

theorem exists_layered_of_ready (faithful : yaml.Faithful) {operatorDocs : List String} {text : String}
    (ready : mergeWithSealing yaml operatorDocs (some request) = .ok (.ready text true)) :
    ∃ operator merged, Layered yaml operatorDocs request operator merged ∧ yaml.fromStr text = .ok merged := by
  obtain ⟨printed, first, rest⟩ := exists_of_bind_eq_ok ready
  obtain ⟨operator, sources, same⟩ := exists_of_bind_eq_ok first
  cases same
  have wellFormed := wellFormed_mergeSources wellFormed_empty sources
  have parsed := (faithful operator wellFormed).2
  cases layered : sealingLayer yaml request.sealing request.kind request.installMode
      (cloudConfigHeader ++ "\n" ++ yaml.body operator) with
  | error why => simp [layered] at rest
  | ok layerText =>
    simp only [layered] at rest
    obtain ⟨written, second, same⟩ := exists_of_bind_eq_ok rest
    cases same
    obtain ⟨-, -, layered⟩ := exists_of_bind_eq_ok layered
    rw [operatorEncryptedPartitions_printed faithful wellFormed] at layered
    change (match request.kind with | .iso => _ | .cloudImage => _) = Except.ok layerText at layered
    -- The layer that was printed is read back before it is merged.
    have merging : ∀ layer : Value, layer.WellFormed → yaml.body layer = layerText →
        ∃ start merged, Overlaid (some (.object [])) operator start ∧ Overlaid (some start) layer merged ∧
          yaml.fromStr text = .ok merged := by
      intro layer good same
      obtain ⟨start, merged, started, laid, fine, rfl⟩ :=
        mergeCloudConfigs_pair parsed (same ▸ (faithful layer good).1) second
      exact ⟨start, merged, started, laid, (faithful merged fine).2⟩
    obtain ⟨sealing, kind, installMode⟩ := request
    cases kind with
    | iso =>
      dsimp only at layered
      split at layered
      · cases layered
      · rename_i unseen
        obtain ⟨start, merged, started, laid, read⟩ :=
          merging _ (wellFormed_isoLayer yaml sealing.partitions) (Except.ok.inj layered)
        exact ⟨operator, merged, ⟨sources, wellFormed, start, _, started, laid, rfl, fun immediate =>
          not_not.mp fun listed => unseen ⟨immediate, listed⟩⟩, read⟩
    | cloudImage =>
      obtain ⟨start, merged, started, laid, read⟩ :=
        merging _ (wellFormed_cloudImageLayer sealing.partitions (listedPartitions operator)) (Except.ok.inj layered)
      exact ⟨operator, merged, ⟨sources, wellFormed, start, _, started, laid, rfl⟩, read⟩

section Layered

variable {yaml : Yaml} {operatorDocs : List String} {request : SealingRequest} {operator merged : Value}

theorem encryptedPartitions_start {start : Value} (wellFormed : operator.WellFormed)
    (started : Overlaid (some (.object [])) operator start) :
    encryptedPartitions start = encryptedPartitions operator := by
  rw [encryptedPartitions, get_of_overlaid_empty wellFormed started]
  rfl

variable (layered : Layered yaml operatorDocs request operator merged)

include layered

theorem Layered.sealsOnBoot (cloudImage : request.kind = .cloudImage) : SealsOnBoot merged request.sealing.partitions := by
  obtain ⟨-, wellFormed, start, layer, started, laid, kind⟩ := layered
  rw [cloudImage] at kind
  have good : layer.WellFormed := kind ▸ wellFormed_cloudImageLayer _ _
  obtain ⟨flag, gotFlag, overFlag⟩ := laid.get_path good "kcrypt" "encrypt_on_boot" (congrArg (·.get "kcrypt") kind) rfl
  obtain ⟨list, gotList, overList⟩ := laid.get_path good "install" "encrypted_partitions" (congrArg (·.get "install") kind) rfl
  rw [overFlag.eq_bool] at gotFlag
  rw [overList.eq_array] at gotList
  have before : ((some start).bind (·.get "install")).bind (·.get "encrypted_partitions") =
      encryptedPartitions operator := encryptedPartitions_start wellFormed started
  rw [before] at gotList
  refine ⟨gotFlag, _, gotList, fun partition member => List.mem_append.mpr ?_⟩
  by_cases listed : partition ∈ listedPartitions operator
  · -- The operator has listed it as a text.
    left
    cases array : (encryptedPartitions operator).bind Value.asArray with
    | none => simp [listedPartitions, array] at listed
    | some entries =>
      simp only [listedPartitions, array, Option.map_some, Option.getD_some] at listed ⊢
      obtain ⟨entry, inside, text⟩ := List.mem_filterMap.mp listed
      cases entry with
      | string found =>
        cases text
        exact inside
      | _ => cases text
  · right
    exact List.mem_map_of_mem (List.mem_filter.mpr ⟨member, by simpa using listed⟩)

theorem Layered.hasStep (iso : request.kind = .iso) :
    HasStep merged "after-install-chroot" (policyStep yaml request.sealing.partitions) ∧
      HasStep merged "boot" (reportStep request.sealing.partitions) := by
  obtain ⟨-, wellFormed, start, layer, started, laid, kind⟩ := layered
  rw [iso] at kind
  have good : layer.WellFormed := kind.1 ▸ wellFormed_isoLayer _ _
  obtain ⟨install, gotInstall, overInstall⟩ := laid.get_path good "stages" "after-install-chroot"
    (congrArg (·.get "stages") kind.1) rfl
  obtain ⟨boot, gotBoot, overBoot⟩ := laid.get_path good "stages" "boot"
    (congrArg (·.get "stages") kind.1) rfl
  rw [overInstall.eq_array] at gotInstall
  rw [overBoot.eq_array] at gotBoot
  exact ⟨⟨_, gotInstall, by simp⟩, ⟨_, gotBoot, by simp⟩⟩

theorem Layered.request_kept (iso : request.kind = .iso) : encryptedPartitions merged = encryptedPartitions operator := by
  obtain ⟨-, wellFormed, start, layer, started, laid, kind⟩ := layered
  rw [iso] at kind
  have good : layer.WellFormed := kind.1 ▸ wellFormed_isoLayer _ _
  have filled : layer ≠ .null := by
    rw [kind.1]
    nofun
  rw [← encryptedPartitions_start wellFormed started, encryptedPartitions,
    laid.get_none good filled (congrArg (·.get "install") kind.1)]
  rfl

omit layered

end Layered

theorem asksToEncrypt_eq_false_iff (unseen : listedPartitions document = []) :
    (encryptedPartitions document).any asksToEncrypt = false ↔
      ((encryptedPartitions document).map outline).all readable = true := by
  unfold listedPartitions at unseen
  generalize encryptedPartitions document = found at unseen
  cases found with
  | none => simp
  | some value =>
    cases value with
    | array entries =>
      have texts : ∀ entry ∈ entries, entry.asStr = none := List.filterMap_eq_nil_iff.mp unseen
      simp only [Option.any_some, asksToEncrypt, Option.map_some, outline, Option.all_some, readable,
        List.any_eq_false, List.all_eq_true]
      refine forall₂_congr fun entry member => ?_
      have text := texts entry member
      cases entry <;> simp [namesPartition, Value.asStr] at text ⊢
    | _ => simp [asksToEncrypt, namesPartition, outline, readable]

/-- The merged document enforces the policy for every build but an Immediate ISO whose
operator layers name partitions in a shape that the conflict check does not read. -/
theorem sealed_document_enforces_iff (yaml : Yaml) (faithful : yaml.Faithful) (operatorDocs : List String)
    (request : SealingRequest) (text : String)
    (ready : mergeWithSealing yaml operatorDocs (some request) = .ok (.ready text true)) :
    (∃ document, yaml.fromStr text = .ok document ∧ Enforces yaml request document) ↔
      (request.kind = .iso → request.installMode = .immediate →
        (operatorRequest yaml operatorDocs).all readable = true) := by
  obtain ⟨operator, merged, layered, read⟩ := exists_layered_of_ready faithful ready
  have only : (∃ document, yaml.fromStr text = .ok document ∧ Enforces yaml request document) ↔
      Enforces yaml request merged := by
    refine ⟨fun ⟨document, found, enforces⟩ => ?_, fun enforces => ⟨merged, read, enforces⟩⟩
    cases found.symm.trans read
    exact enforces
  rw [only, Enforces]
  cases kind : request.kind with
  | cloudImage => exact ⟨fun _ => nofun, fun _ => layered.sealsOnBoot kind⟩
  | iso =>
    have written := (faithful _ (wellFormed_policy request.sealing.partitions)).2
    have steps := layered.hasStep kind
    have quiet : request.installMode = .immediate → listedPartitions operator = [] := by
      obtain ⟨_, _, _, _, _, _, checked⟩ := layered
      rw [kind] at checked
      exact checked.2
    have same : request.installMode = .immediate →
        ((encryptedPartitions merged).any asksToEncrypt = false ↔
          (operatorRequest yaml operatorDocs).all readable = true) := by
      intro immediate
      have asked : _ = operatorRequest yaml operatorDocs := request_mergeSources layered.operatorMerged
      rw [layered.request_kept kind, ← asked]
      exact asksToEncrypt_eq_false_iff (quiet immediate)
    exact ⟨fun enforces _ immediate => (same immediate).mp (enforces.2.2.2 immediate),
      fun shape => ⟨steps.1, ⟨_, written, sealsOnBoot_policy _⟩, steps.2,
        fun immediate => (same immediate).mpr (shape rfl immediate)⟩⟩

/-! ## A printer that numbers its documents -/

open Classical in
/-- Every document is printed as its number. -/
noncomputable def numberedYaml : Yaml where
  toString value := toString value.code
  fromStr text :=
    if known : ∃ value : Value, value.WellFormed ∧
        (text = toString value.code ∨ text = cloudConfigHeader ++ "\n" ++ toString value.code) then .ok known.choose
    else .error "no document has this number"
  wellFormed := by
    intro text value read
    split at read
    · rename_i known
      cases read
      exact known.choose_spec.1
    · cases read

theorem body_numberedYaml (value : Value) : numberedYaml.body value = toString value.code := by
  have unmarked : "---\n".toList.isPrefixOf (toString value.code).toList = false := by
    refine Bool.eq_false_iff.mpr fun marked => ?_
    obtain ⟨rest, same⟩ := List.isPrefixOf_iff_prefix.mp marked
    exact toString_ne_of_head (by decide) same.symm
  exact if_neg (by rw [show numberedYaml.toString value = toString value.code from rfl, unmarked]; decide)

theorem header_ne_number (text : String) (number : Nat) : cloudConfigHeader ++ "\n" ++ text ≠ toString number := by
  intro same
  have chars := congrArg String.toList same
  simp only [String.toList_append] at chars
  exact toString_ne_of_head (by decide) chars.symm

theorem faithful_numberedYaml : numberedYaml.Faithful := by
  intro value wellFormed
  rw [body_numberedYaml]
  -- Whatever document is chosen for a text, it has the number of the one printed.
  have reading : ∀ text : String, (text = toString value.code ∨ text = cloudConfigHeader ++ "\n" ++ toString value.code) →
      numberedYaml.fromStr text = .ok value := by
    intro text printed
    have known : ∃ other : Value, other.WellFormed ∧
        (text = toString other.code ∨ text = cloudConfigHeader ++ "\n" ++ toString other.code) :=
      ⟨value, wellFormed, printed⟩
    have chosen : numberedYaml.fromStr text = .ok known.choose := dif_pos known
    rw [chosen]
    refine congrArg Except.ok (Value.code_inj _ _ (toString_inj.mp ?_))
    rcases printed with rfl | rfl <;> rcases known.choose_spec.2 with same | same
    · exact same.symm
    · exact absurd same.symm (header_ne_number _ _)
    · exact absurd same (header_ne_number _ _)
    · exact (String.append_right_inj _ |>.mp same).symm
  exact ⟨reading _ (.inl rfl), reading _ (.inr rfl)⟩

theorem mergeSources_cons {source : String} {rest : List String} {next : Value}
    (read : yaml.fromStr source = .ok document) (laid : deepMerge base "" document = .ok next) :
    mergeSources yaml base index (source :: rest) = mergeSources yaml next (index + 1) rest := by
  simp only [mergeSources, read, Except.mapError, bind, Except.bind, laid]

theorem mergeWithSealing_printed (faithful : yaml.Faithful) {layer : Value}
    (wellFormed : document.WellFormed) (good : layer.WellFormed)
    (alone : deepMerge (.object []) "" document = .ok document)
    (layered : sealingLayer yaml request.sealing request.kind request.installMode
      (cloudConfigHeader ++ "\n" ++ yaml.body document) = .ok (yaml.body layer))
    (laid : deepMerge document "" layer = .ok merged) :
    mergeWithSealing yaml [yaml.body document] (some request) =
      .ok (.ready (cloudConfigHeader ++ "\n" ++ yaml.body merged) true) := by
  have first : mergeCloudConfigs yaml [yaml.body document] = .ok (cloudConfigHeader ++ "\n" ++ yaml.body document) := by
    rw [mergeCloudConfigs, mergeSources_cons (faithful document wellFormed).1 alone]
    rfl
  have second : mergeCloudConfigs yaml [cloudConfigHeader ++ "\n" ++ yaml.body document, yaml.body layer] =
      .ok (cloudConfigHeader ++ "\n" ++ yaml.body merged) := by
    rw [mergeCloudConfigs, mergeSources_cons (faithful document wellFormed).2 alone,
      mergeSources_cons (faithful layer good).1 laid]
    rfl
  simp only [mergeWithSealing, first, bind, Except.bind, layered, second]

/-- An operator's document that sets `install.encrypted_partitions`. -/
def asking (value : Value) : Value := .object [("install", .object [("encrypted_partitions", value)])]

def persistentIso : SealingRequest := ⟨⟨["COS_PERSISTENT"], 600⟩, .iso, .immediate⟩

/-- The merged document for the ISO: the operator's install section is as it was. -/
def askingIso (yaml : Yaml) (value : Value) : Value :=
  .object [("install", .object [("encrypted_partitions", value)]),
    ("stages", .object [("after-install-chroot", .array [policyStep yaml ["COS_PERSISTENT"]]),
      ("boot", .array [reportStep ["COS_PERSISTENT"]])])]

theorem mergeWithSealing_asking (wellFormed : value.WellFormed) (unseen : listedPartitions (asking value) = []) :
    mergeWithSealing numberedYaml [numberedYaml.body (asking value)] (some persistentIso) =
      .ok (.ready (cloudConfigHeader ++ "\n" ++ numberedYaml.body (askingIso numberedYaml value)) true) := by
  have good : (asking value).WellFormed := by
    simpa [asking, Value.WellFormed, Value.FieldsWellFormed] using wellFormed
  refine mergeWithSealing_printed faithful_numberedYaml good (wellFormed_isoLayer _ _) rfl ?_ rfl
  have valid : validate persistentIso.sealing = .ok () := by decide
  simp only [sealingLayer, valid, operatorEncryptedPartitions_printed faithful_numberedYaml good, unseen, bind,
    Except.bind]
  rfl

/-- The build is accepted with the layer, and its document still asks the install of the
template to encrypt a partition. -/
def EncryptsTemplate (value : Value) : Prop :=
  ∃ text document,
    mergeWithSealing numberedYaml [numberedYaml.body (asking value)] (some persistentIso) = .ok (.ready text true) ∧
      numberedYaml.fromStr text = .ok document ∧ (encryptedPartitions document).any asksToEncrypt = true

theorem encryptsTemplate_of_unseen (wellFormed : value.WellFormed)
    (unseen : listedPartitions (asking value) = []) (asks : asksToEncrypt value = true) : EncryptsTemplate value := by
  have good : (askingIso numberedYaml value).WellFormed := by
    simpa [askingIso, policyStep, reportStep, Value.WellFormed, Value.FieldsWellFormed, Value.AllWellFormed]
      using wellFormed
  exact ⟨_, _, mergeWithSealing_asking wellFormed unseen, (faithful_numberedYaml _ good).2, asks⟩

/-- A partition that stands alone, and one whose label is a number. -/
theorem partitions_unseen_by_check :
    EncryptsTemplate (.string "COS_PERSISTENT") ∧ EncryptsTemplate (.array [.number "2024"]) :=
  ⟨encryptsTemplate_of_unseen trivial rfl rfl,
    encryptsTemplate_of_unseen (by simp [Value.WellFormed, Value.AllWellFormed]) rfl rfl⟩

theorem sealed_document_enforces_iff_empty_list :
    ∃ text document,
      mergeWithSealing numberedYaml [numberedYaml.body (asking (.array []))] (some persistentIso) =
          .ok (.ready text true) ∧
        numberedYaml.fromStr text = .ok document ∧ Enforces numberedYaml persistentIso document := by
  have ready := mergeWithSealing_asking (show (Value.array []).WellFormed by simp [Value.WellFormed, Value.AllWellFormed]) rfl
  obtain ⟨document, read, enforces⟩ :=
    (sealed_document_enforces_iff numberedYaml faithful_numberedYaml _ persistentIso _ ready).mpr fun _ _ => by
      have read : numberedYaml.fromStr (numberedYaml.body (asking (.array []))) = .ok (asking (.array [])) :=
        (faithful_numberedYaml _ (by simp [asking, Value.WellFormed, Value.FieldsWellFormed, Value.AllWellFormed])).1
      simp only [operatorRequest, documents, List.filterMap_cons, read, Except.toOption, List.filterMap_nil]
      rfl
  exact ⟨_, document, ready, read, enforces⟩

end Banlieue.Imagebuilder
