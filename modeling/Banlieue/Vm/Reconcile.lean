import Banlieue.Controller.Server
import Banlieue.Sdk.GuestData
import Banlieue.Vm.Cluster
import Banlieue.Vm.Migration
import Banlieue.Vm.StatusMirror

namespace Banlieue.Vm

open Banlieue.Api Banlieue.Data Banlieue.Infra Banlieue.Sdk Banlieue.Scheduler
open Banlieue.Controller (Error Action)

/-! # A reconcile pass of a virtual machine -/

def vmFinalizer : String := "banlieue.io/virtualmachine"

def conditionPaused : String := "Paused"

def reasonPaused : String := "Paused"

/-- What the controller is started with, and how its client prints an error. -/
structure Context where
  text : AddressText
  firstBootSealing : Bool
  describe : KubeError → String

abbrev Pass := ExceptT Error (Program Call Reply)

namespace Pass

def ask (call : Call) : Pass (Reply call) := ExceptT.lift (.request call)

def require {α : Type} (wrap : KubeError → Error) (call : Call)
    (reply : Reply call → Except KubeError α) : Pass α := do
  match reply (← ask call) with
  | .ok value => return value
  | .error reason => throw (wrap reason)

/-- A part of the pass whose error is looked at. -/
def attempt {α : Type} (part : Pass α) : Pass (Except Error α) := ExceptT.lift part.run

def timestampNow : Pass Timestamp := ask .now

def applyStatus (vm : VmKey) (status : VirtualMachineStatus) : Pass Unit :=
  require .kube (.applyStatus vm status) id

/-- Patch the finalizers if the cached copy asks for it. -/
def patchFinalizers (vm : VirtualMachine) (next : Option (List String)) : Pass Unit :=
  match next with
  | none => return ()
  | some finalizers => require .sdk (.patchFinalizers (key vm) finalizers) id

def ensureFinalizer (vm : VirtualMachine) (finalizer : String) : Pass Unit :=
  patchFinalizers vm (finalizerListWith vm.metadata.finalizers finalizer)

def removeFinalizer (vm : VirtualMachine) (finalizer : String) : Pass Unit :=
  patchFinalizers vm (finalizerListWithout vm.metadata.finalizers finalizer)

end Pass

open Pass

/-- The text of an error, as it is put into a condition. -/
def errorText (context : Context) : Error → String
  | .sdk reason => "sdk: " ++ context.describe reason
  | .kube reason => "kube api: " ++ context.describe reason
  | .missing field => "missing required field: " ++ field

def requeueOnError : Action := .requeue 5

def generationOf (vm : VirtualMachine) : Int := vm.metadata.generation.getD 0

/-! ## Status writes -/

/-- Resuming needs no path of its own: every write but the paused one drops the
condition. -/
def clearPaused (conditions : List Condition) : List Condition :=
  conditions.filter (·.type ≠ conditionPaused)

def patchStatus (vm : VirtualMachine) (status : VirtualMachineStatus) : Pass Unit :=
  applyStatus (key vm) { status with conditions := clearPaused status.conditions }

/-- The current status with some conditions set, for this generation. -/
def withConditions (current : VirtualMachineStatus) (generation : Int)
    (set : List Condition → List Condition) : VirtualMachineStatus :=
  { current with conditions := set current.conditions, observedGeneration := some generation }

def pausedStatus (current : Option VirtualMachineStatus) (generation : Int) (now : Timestamp) :
    VirtualMachineStatus :=
  withConditions (current.getD {}) generation fun conditions =>
    setCondition
      (setCondition conditions conditionPaused ConditionStatus.true reasonPaused
        "reconciliation paused via spec.paused" generation now)
      ConditionTypes.ready ConditionStatus.false reasonPaused "reconciliation paused" generation now

/-- Patch the status the pass started from, with `Ready` false for that reason. -/
def patchNotReady (vm : VirtualMachine) (current : VirtualMachineStatus)
    (set : Timestamp → List Condition → List Condition) (reason message : String) : Pass Unit := do
  let now ← timestampNow
  patchStatus vm <| withConditions current (generationOf vm) fun conditions =>
    setCondition (set now conditions) ConditionTypes.ready ConditionStatus.false reason message
      (generationOf vm) now

def patchSchedulingFailure (vm : VirtualMachine) (failure : ScheduleError) : Pass Unit :=
  patchNotReady vm (vm.status.getD {})
    (fun now conditions => setCondition conditions ConditionTypes.scheduled ConditionStatus.false
      failure.reason failure.message (generationOf vm) now)
    "Scheduling" "scheduling not yet successful"

def patchInfraBuildFailure (vm : VirtualMachine) (detail : String) : Pass Unit :=
  patchNotReady vm (vm.status.getD {})
    (fun now conditions => setCondition conditions ConditionTypes.scheduled ConditionStatus.false
      "InfraBuildFailed" detail (generationOf vm) now)
    "InfraBuildFailed" "could not construct provider infrastructure CR"

/-- The recorded placement is left as it is. -/
def patchPlacementInvalid (vm : VirtualMachine) (drift : PlacementDriftReason) : Pass Unit :=
  patchNotReady vm (vm.status.getD {})
    (fun now conditions => setCondition conditions ConditionTypes.placementValid
      ConditionStatus.false drift.reason drift.message (generationOf vm) now)
    "PlacementInvalid" "current placement no longer satisfies the spec"

/-! ## The class and the image -/

def reasonImageClassMismatch : String := "ImageClassMismatch"

def reasonFirstBootSealingDisabled : String := "FirstBootSealingDisabled"

structure PairingRefusal where
  reason : String
  message : String
deriving DecidableEq

def messageTpmImmediate : String :=
  "VMClass.tpmEnabled requires a VMImage with installMode: Deferred, or an Immediate image that " ++
  "declares spec.firstBootSealing; an Immediate (pre-installed) template is otherwise not " ++
  "encrypted per VM, because its disk was installed before any per-VM vTPM existed (ADR-0040, " ++
  "ADR-0048, ADR-0088)"

def messageSealingWithoutTpm : String :=
  "VMImage.spec.firstBootSealing requires a VMClass with tpmEnabled: true; a clone with no vTPM " ++
  "cannot seal and halts on every boot (ADR-0088)"

def messageSealingDisabled : String :=
  "VMImage.spec.firstBootSealing is declared but banlieue-controller runs with " ++
  "--enable-first-boot-sealing=false (BANLIEUE_ENABLE_FIRST_BOOT_SEALING), so the pairing is " ++
  "refused rather than ignored (ADR-0088)"

def imageClassMismatch (tpmEnabled : Bool) (mode : InstallMode)
    (firstBootSealing sealingEnabled : Bool) : Option PairingRefusal :=
  if firstBootSealing && !sealingEnabled then
    some ⟨reasonFirstBootSealingDisabled, messageSealingDisabled⟩
  else if firstBootSealing && !tpmEnabled then
    some ⟨reasonImageClassMismatch, messageSealingWithoutTpm⟩
  else if tpmEnabled && mode == .immediate && !firstBootSealing then
    some ⟨reasonImageClassMismatch, messageTpmImmediate⟩
  else none

/-- An image without a template was built beforehand, like an immediate one. -/
def pairingRefusal (context : Context) (vmClass : VMClass) (image : VMImage) : Option PairingRefusal :=
  imageClassMismatch vmClass.spec.tpmEnabled
    ((image.spec.template.map VMImageTemplate.installMode).getD .immediate)
    image.spec.firstBootSealing.isSome context.firstBootSealing

/-- `Scheduled` is not touched: the machine never reached the scheduler. -/
def patchImageClassMismatch (vm : VirtualMachine) (refusal : PairingRefusal) : Pass Unit :=
  patchNotReady vm (vm.status.getD {}) (fun _ conditions => conditions) refusal.reason refusal.message

/-! ## Infra machines -/

/-- An infra machine that is already gone counts as deleted. -/
def deleteExistingInfra (kind : InfraKind) (vm : VirtualMachine) : Pass Unit := do
  match ← ask (.deleteInfra kind (key vm)) with
  | .ok () => return ()
  | .error reason => if reason = .notFound then return () else throw (.kube reason)

def getInfra (kind : InfraKind) (vm : VirtualMachine) : Pass (Option InfraObject) :=
  require .kube (.getInfra kind (key vm)) id

/-- The first kind of which there is an infra machine. -/
def existingInfra (vm : VirtualMachine) : List InfraKind → Pass (Option (InfraKind × InfraObject))
  | [] => return none
  | kind :: rest => do
    match ← getInfra kind vm with
    | some object => return some (kind, object)
    | none => existingInfra vm rest

/-! ## Contested addresses -/

def sortedNames (names : List String) : List String :=
  (names.insertionSort (· ≤ ·)).dedup

/-- The classes that still exist, in order. -/
def getClasses : List String → Pass (List VMClass)
  | [] => return []
  | name :: rest => do
    let first ← require .kube (.getClassOpt name) id
    let others ← getClasses rest
    return first.toList ++ others

/-- The store is read once; a class is looked up for the contenders only. -/
def duplicateAddress (context : Context) (vm : VirtualMachine) (vmClass : VMClass) :
    Pass (Option DuplicateAddress) := do
  let state ← require (fun _ => .missing "VirtualMachine store (writer dropped)") (.storeState vm) id
  let contenders := contendingVms context.text vm state
  if contenders.isEmpty then return none
  else
    let wanted := (contenders.map fun other => other.spec.classRef.name).filter (· ≠ vmClass.name)
    let others ← getClasses (sortedNames wanted)
    return findDuplicateAddress context.text vm contenders (vmClass :: others)

def withheldNote : String :=
  " This VM is already provisioned: its guest is unchanged, and spec changes other than " ++
  "desiredPowerState are withheld until the conflict is resolved."

/-- A provisioned machine is not frozen: its power state is still applied and its
status mirrored, but its infra machine is not applied again. -/
def blockOnDuplicateAddress (vm : VirtualMachine) (duplicate : DuplicateAddress) : Pass Unit := do
  match ← existingInfra vm InfraKind.all with
  | none =>
    patchNotReady vm (vm.status.getD {}) (fun _ conditions => conditions) reasonDuplicateAddress
      duplicate.message
  | some (kind, infra) =>
    if infra.machine.desiredPowerState ≠ vm.spec.desiredPowerState then
      require .kube (.patchInfraPower kind (key vm) vm.spec.desiredPowerState) id
    let now ← timestampNow
    patchNotReady vm (mirrorOntoVm vm infra now) (fun _ conditions => conditions)
      reasonDuplicateAddress (duplicate.message ++ withheldNote)

/-! ## Guest bootstrap data -/

def missingOr (field : String) (reason : KubeError) : Error :=
  if reason = .notFound then .missing field else .kube reason

def resolveSecretData (namespaceName : String) (selector : KeySelector) : Pass String := do
  let secret ← require (missingOr "VirtualMachine.spec.userData.secretRef")
    (.getSecret namespaceName selector.name) id
  match secret.data.lookup (selector.keyOr defaultUserDataKey) with
  | none => throw (.missing "userData secret.data[key]")
  | some bytes =>
    match String.fromUTF8? ⟨bytes.toArray⟩ with
    | some raw => return raw
    | none => throw (.missing "userData secret.data[key] (not utf-8)")

def resolveConfigMapData (namespaceName : String) (selector : KeySelector) : Pass String := do
  let configMap ← require (missingOr "VirtualMachine.spec.userData.configMapRef")
    (.getConfigMap namespaceName selector.name) id
  match configMap.data.lookup (selector.keyOr defaultUserDataKey) with
  | none => throw (.missing "userData configMap.data[key]")
  | some raw => return raw

/-- The static settings of the first override fill the placeholders. -/
def resolveRenderedUserData (namespaceName : String) (vm : VirtualMachine) : Pass (Option String) := do
  match vm.spec.userData with
  | none => return none
  | some source =>
    match source.validate with
    | .error message => throw (.missing message)
    | .ok () =>
      let raw ←
        match source.secretRef, source.configMapRef with
        | some selector, _ => resolveSecretData namespaceName selector
        | none, some selector => resolveConfigMapData namespaceName selector
        | none, none =>
          throw (.missing "userData: exactly one of secretRef, configMapRef must be set")
      return some (renderPlaceholders raw
        { vmName := vm.name
          static := vm.spec.networkOverrides.head?.map NetworkInterfaceOverride.static })

/-! ## Placement -/

/-- Drift the machine puts up with: the infra machine stays, its status is mirrored. -/
def mirrorOnlyPath (kind : InfraKind) (vm : VirtualMachine) : Pass Action := do
  match ← getInfra kind vm with
  | none => return requeueOnError
  | some infra =>
    let now ← timestampNow
    patchStatus vm (mirrorOntoVm vm infra now)
    return .requeueDefault

/-- The status published with an infra machine that was just applied: scheduled, as
mirrored, and with the addresses it holds from now on. -/
def appliedStatus (context : Context) (vm : VirtualMachine) (vmClass : VMClass) (decision : Decision)
    (kind : InfraKind) (namespaceName : String) (infra : InfraObject) (now : Timestamp) :
    VirtualMachineStatus :=
  let current := vm.status.getD {}
  let scheduled :=
    setCondition current.conditions ConditionTypes.scheduled ConditionStatus.true "Scheduled"
      "VirtualMachine scheduled successfully" (generationOf vm) now
  { mirrorStatusFromInfra { current with conditions := scheduled } infra (generationOf vm) now with
    scheduled := some (decision.toScheduledPlacement now)
    heldAddresses := heldAddresses context.text vm vmClass
    infrastructureRef := some
      { apiGroup := "infrastructure.banlieue.io"
        kind := kind.kindName
        name := vm.name
        namespaceName := some namespaceName } }

/-- Build the infra machine, apply it and record the placement. -/
def applyPlacement (context : Context) (namespaceName : String) (vm : VirtualMachine)
    (vmClass : VMClass) (image : VMImage) (decision : Decision) (provider : Provider)
    (kind : InfraKind) : Pass Action := do
  match ← attempt (resolveRenderedUserData namespaceName vm) with
  | .error reason =>
    patchInfraBuildFailure vm (errorText context reason)
    return requeueOnError
  | .ok userData =>
    match buildInfraMachine kind vm vmClass image decision provider userData with
    | .error reason =>
      patchInfraBuildFailure vm reason.message
      return requeueOnError
    | .ok machine =>
      let applied ← require .sdk
        (.applyInfra machine (vmClass.spec.network.interfaces.map NetworkInterfaceSpec.networkClass))
        id
      let now ← timestampNow
      patchStatus vm (appliedStatus context vm vmClass decision kind namespaceName applied now)
      return .requeueDefault

/-- Act on the decision, by what became of the recorded placement. -/
def settlePlacement (context : Context) (namespaceName : String) (vm : VirtualMachine)
    (vmClass : VMClass) (image : VMImage) (decision : Decision) (provider : Provider)
    (kind : InfraKind) : Pass Action := do
  match evaluate vm decision with
  | .inPlace => applyPlacement context namespaceName vm vmClass image decision provider kind
  | .stickToOld => mirrorOnlyPath kind vm
  | .surfaceOnly drift =>
    patchPlacementInvalid vm drift
    return .requeueDefault
  | .recreate drift =>
    -- the kind is the new decision's, also when the old machine is of another
    deleteExistingInfra kind vm
    patchPlacementInvalid vm drift
    return .requeueDefault

def noBuilderText (providerClass : String) : String :=
  "provider class '" ++ providerClass ++ "' has no infrastructure builder in banlieue-controller"

/-- Schedule the machine, and act on the decision if there is a builder for it. -/
def placeVm (context : Context) (namespaceName : String) (vm : VirtualMachine) (vmClass : VMClass)
    (image : VMImage) (providers : List Provider) (siblings : List VirtualMachine) : Pass Action := do
  let classes ← require .kube .listClasses id
  match schedule ⟨vm, vmClass, image, providers, siblings, classes⟩ with
  | .error failure =>
    patchSchedulingFailure vm failure
    return .requeueDefault
  | .ok decision =>
    match providers.find? fun provider => provider.name == decision.providerName with
    | none => throw (.missing "chosen provider not found in listing")
    | some provider =>
      match InfraKind.fromProviderClass decision.providerClass with
      | none =>
        patchInfraBuildFailure vm (noBuilderText decision.providerClass)
        return .requeueLong
      | some kind => settlePlacement context namespaceName vm vmClass image decision provider kind

/-- A machine without overrides did not choose its address and is not checked. -/
def contestedAddress (context : Context) (vm : VirtualMachine) (vmClass : VMClass) :
    Pass (Option DuplicateAddress) :=
  if vm.spec.networkOverrides.isEmpty then return none else duplicateAddress context vm vmClass

/-! ## Deletion -/

inductive InfraState where
  | absent | present | terminating
  /-- The lookup failed: neither present nor absent. -/
  | unknown
deriving DecidableEq

def infraState (kind : InfraKind) (vm : VirtualMachine) : Pass InfraState := do
  match ← ask (.getInfra kind (key vm)) with
  | .ok none => return .absent
  | .ok (some object) => return if object.deleting then .terminating else .present
  | .error _ => return .unknown

structure FinalizePlan where
  delete : List InfraKind
  removeFinalizer : Bool
deriving DecidableEq

def planFinalize (states : List (InfraKind × InfraState)) : FinalizePlan where
  delete := (states.filter fun entry => entry.2 == .present).map Prod.fst
  removeFinalizer := states.all fun entry => entry.2 == .absent

def infraStates (vm : VirtualMachine) : List InfraKind → Pass (List (InfraKind × InfraState))
  | [] => return []
  | kind :: rest => do
    let state ← infraState kind vm
    let others ← infraStates vm rest
    return (kind, state) :: others

/-- Every kind is tried; the result says whether one of the deletes failed. -/
def deleteAll (vm : VirtualMachine) : List InfraKind → Pass Bool
  | [] => return false
  | kind :: rest => do
    let deleted ← attempt (deleteExistingInfra kind vm)
    let failed ← deleteAll vm rest
    return failed || match deleted with
      | .ok () => false
      | .error _ => true

/-- Every kind is looked up: at deletion nothing says reliably which one it was. -/
def finalizeVm (vm : VirtualMachine) : Pass Action := do
  let plan := planFinalize (← infraStates vm InfraKind.all)
  let failed ← deleteAll vm plan.delete
  if plan.removeFinalizer && !failed then
    removeFinalizer vm vmFinalizer
    return .requeueDefault
  else return requeueOnError

/-! ## The pass -/

/-- A paused machine is not reconciled at all, deletion included. -/
def reconcile (context : Context) (vm : VirtualMachine) : Pass Action := do
  match vm.metadata.namespaceName with
  | none => throw (.missing "namespace")
  | some namespaceName =>
    if vm.spec.paused then
      let now ← timestampNow
      applyStatus (key vm) (pausedStatus vm.status (generationOf vm) now)
      return .requeueLong
    else if vm.deleting then finalizeVm vm
    else
      ensureFinalizer vm vmFinalizer
      let vmClass ← require .kube (.getClass vm.spec.classRef.name) id
      let image ← require .kube (.getImage vm.spec.imageRef.name) id
      let providers ← require .kube (.listProviders namespaceName) id
      let siblings ← require .kube (.listVms namespaceName) id
      match pairingRefusal context vmClass image with
      | some refusal =>
        patchImageClassMismatch vm refusal
        return .requeueLong
      | none =>
        match ← contestedAddress context vm vmClass with
        | some duplicate =>
          blockOnDuplicateAddress vm duplicate
          return .requeueDefault
        | none => placeVm context namespaceName vm vmClass image providers siblings

end Banlieue.Vm
