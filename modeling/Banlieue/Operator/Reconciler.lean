import Banlieue.Data.Attempt
import Banlieue.Data.Machine
import Banlieue.Operator.Workload
import Mathlib.Data.List.AList
import Mathlib.Data.List.Sort

namespace Banlieue.Operator

open Banlieue.Data Banlieue.Data.Program Banlieue.Api Banlieue.Sdk

/-! # From a provider to its workload -/

structure Provider where
  metadata : ObjectMeta
  providerClassRef : LocalObjectReference
  paused : Bool := false
  credentialsSecret : Option String := none
  caBundleConfigMap : Option String := none
  caBundleSecret : Option String := none
deriving DecidableEq

structure ProviderClass where
  name : String
  spec : ProviderClassSpec
  image : Option String := none
  paused : Bool := false
deriving DecidableEq

inductive SkipReason where
  | providerPaused | classPaused
deriving DecidableEq

/-- A paused provider is named before a paused class: it is the more specific. -/
def skipReason (provider : Provider) («class» : ProviderClass) : Option SkipReason :=
  if provider.paused then some .providerPaused
  else if «class».paused then some .classPaused
  else none

/-- A managed class needs an image to run. -/
def missingImage («class» : ProviderClass) : Option String :=
  if «class».spec.deploymentMode = .managed ∧ «class».image.isNone then
    some "ProviderClass.spec.image is required for a Managed class"
  else none

inductive Error where
  | missing (field : String)
  | kube (error : KubeError)
deriving DecidableEq

/-- Pins both the name and the namespace of the provider. -/
structure Selector where
  provider : String
  providerNamespace : String
deriving DecidableEq

def ownedBySelector (providerNamespace provider : String) : Selector := ⟨provider, providerNamespace⟩

inductive Event where
  | classNotFound (className : String)
  | reconcileSkipped (reason : SkipReason)
  | workloadApplied (name namespaceName : String)
  | workloadPruned (name : String)
  | workloadDeleted (name : String)
deriving DecidableEq

inductive Call where
  | ensureFinalizer
  | removeFinalizer
  | getClass (name : String)
  | apply (kind : ObjectKind) (metadata : ObjectMeta)
  | list (kind : ObjectKind) (selector : Selector)
  | delete (key : ObjectKey)
  | getDeployment (namespaceName name : String)
  | getLease (namespaceName name : String)
  | patchStatus
  | publish (event : Event)

abbrev Reply : Call → Type
  | .getClass _ => Except KubeError (Option ProviderClass)
  | .list _ _ => Except KubeError (List ObjectKey)
  | _ => Except KubeError Unit

abbrev Pass := ExceptT Error (Program Call Reply)

/-- An event is for diagnosis: that it is lost fails nothing. -/
def emit (event : Event) : Pass Unit := consult (.publish event) fun _ => .ok ()

def applyObject (object : ObjectKind × ObjectMeta) : Pass Unit :=
  consult (.apply object.1 object.2) (Except.mapError .kube)

def applyEach : List (ObjectKind × ObjectMeta) → Pass Unit
  | [] => pure ()
  | object :: rest => do
    applyObject object
    applyEach rest

/-- The objects of a workload, in the order in which they are applied. -/
def WorkloadSet.objects (set : WorkloadSet) : List (ObjectKind × ObjectMeta) :=
  [(.serviceAccount, set.serviceAccount.metadata), (.role, set.role.metadata),
      (.roleBinding, set.roleBinding.metadata)] ++
    (set.importRole.toList.map fun role => (.role, role.metadata)) ++
    (set.importRoleBinding.toList.map fun binding => (.roleBinding, binding.metadata)) ++
    [(.clusterRoleBinding, set.clusterRoleBinding.metadata)] ++
    (set.deployment.toList.map fun deployment => (.deployment, deployment.metadata))

def inputsOf (provider : Provider) («class» : ProviderClass) (providerNamespace : String) : WorkloadInputs :=
  workloadInputs «class».name «class».spec provider.metadata.name providerNamespace provider.metadata.uid
    provider.credentialsSecret provider.caBundleConfigMap provider.caBundleSecret

def applyWorkload (provider : Provider) («class» : ProviderClass) (providerNamespace buildNamespace : String) :
    Pass Unit :=
  applyEach (buildWorkload (inputsOf provider «class» providerNamespace) buildNamespace).objects

/-- Something that is gone already counts as deleted. -/
def deleteIgnoringMissing (key : ObjectKey) : Pass Unit :=
  consult (.delete key) fun reply =>
    match reply with
    | .ok () => .ok ()
    | .error error => if error = .notFound then .ok () else .error (.kube error)

def pruneEach (spared : ObjectKey → Bool) : List ObjectKey → Pass (List String)
  | [] => pure []
  | key :: rest =>
    if spared key then pruneEach spared rest
    else do
      deleteIgnoringMissing key
      let removed ← pruneEach spared rest
      return key.name :: removed

/-- Objects with one of the names to keep stay, in whatever namespace they are. -/
def pruneNamespaced (kind : ObjectKind) (selector : Selector) (keep : List String) : Pass (List String) := do
  let found ← consult (.list kind selector) (Except.mapError .kube)
  pruneEach (fun key => keep.contains key.name || key.namespaceName.isNone) found

def pruneClusterRoleBindings (selector : Selector) (keep : Option String) : Pass (List String) := do
  let found ← consult (.list .clusterRoleBinding selector) (Except.mapError .kube)
  pruneEach (fun key => keep == some key.name) found

namespace WorkloadInputs

/-- A Deployment left from a managed past is an orphan. -/
def keepDeployments (inputs : WorkloadInputs) : List String :=
  if inputs.isExternal then [] else [inputs.name]

def keepRbac (inputs : WorkloadInputs) : List String :=
  if inputs.isExternal then [inputs.name] else [inputs.name, inputs.importRoleName]

end WorkloadInputs

def pruneOrphans (provider : Provider) («class» : ProviderClass) (providerNamespace : String) :
    Pass (List String) := do
  let inputs := inputsOf provider «class» providerNamespace
  let selector := ownedBySelector providerNamespace provider.metadata.name
  let deployments ← pruneNamespaced .deployment selector inputs.keepDeployments
  let serviceAccounts ← pruneNamespaced .serviceAccount selector [inputs.name]
  let roles ← pruneNamespaced .role selector inputs.keepRbac
  let roleBindings ← pruneNamespaced .roleBinding selector inputs.keepRbac
  let bindings ← pruneClusterRoleBindings selector (some inputs.clusterScopedName)
  return ((deployments ++ serviceAccounts ++ roles ++ roleBindings ++ bindings).mergeSort).dedup

/-- A provider that runs elsewhere has no Deployment to report. -/
def readDeployment (inputs : WorkloadInputs) : Pass Unit :=
  if inputs.isExternal then pure ()
  else consult (.getDeployment inputs.workloadNamespace inputs.name) (Except.mapError .kube)

def publishStatus (provider : Provider) («class» : ProviderClass) (providerNamespace : String) : Pass Unit := do
  let inputs := inputsOf provider «class» providerNamespace
  let namespaceName := if inputs.isExternal then providerNamespace else inputs.workloadNamespace
  readDeployment inputs
  consult (.getLease namespaceName inputs.name) (Except.mapError .kube)
  consult .patchStatus (Except.mapError .kube)

def emitEach : List Event → Pass Unit
  | [] => pure ()
  | event :: rest => do
    emit event
    emitEach rest

/-- Labels find what a name made from the present class could not. -/
def cleanup (provider : Provider) (providerNamespace : String) : Pass Unit := do
  let selector := ownedBySelector providerNamespace provider.metadata.name
  let _ ← pruneClusterRoleBindings selector none
  let _ ← pruneNamespaced .deployment selector []
  let _ ← pruneNamespaced .serviceAccount selector []
  let _ ← pruneNamespaced .role selector []
  let _ ← pruneNamespaced .roleBinding selector []
  emit (.workloadDeleted (workloadName provider.providerClassRef.name provider.metadata.name))
  consult .removeFinalizer (Except.mapError .kube)

/-- What is done once the class is known to be complete and nothing is paused. -/
def settleWorkload (provider : Provider) («class» : ProviderClass) (providerNamespace buildNamespace : String) :
    Pass Unit := do
  applyWorkload provider «class» providerNamespace buildNamespace
  emit (.workloadApplied (workloadName «class».name provider.metadata.name)
    («class».spec.workloadNamespaceOr providerNamespace))
  let pruned ← pruneOrphans provider «class» providerNamespace
  emitEach (pruned.map .workloadPruned)
  publishStatus provider «class» providerNamespace

def reconcileWith (provider : Provider) (providerNamespace buildNamespace : String) :
    Option ProviderClass → Pass Unit
  | none => emit (.classNotFound provider.providerClassRef.name)
  | some «class» =>
    match missingImage «class», skipReason provider «class» with
    | some _, _ => pure ()
    | none, some reason => emit (.reconcileSkipped reason)
    | none, none => settleWorkload provider «class» providerNamespace buildNamespace

def reconcileIn (provider : Provider) (buildNamespace providerNamespace : String) : Pass Unit :=
  if provider.metadata.deletionTimestamp.isSome then cleanup provider providerNamespace
  else do
    consult .ensureFinalizer (Except.mapError .kube)
    let found ← consult (.getClass provider.providerClassRef.name) (Except.mapError .kube)
    reconcileWith provider providerNamespace buildNamespace found

/-- What the pass returns, apart from when it is to run again. -/
def reconcile (provider : Provider) (buildNamespace : String) : Pass Unit :=
  match provider.metadata.namespaceName with
  | none => throw (.missing "Provider.metadata.namespace")
  | some providerNamespace => reconcileIn provider buildNamespace providerNamespace

/-! # The API server -/

/-- A ClusterRoleBinding is in no namespace; everything else is in one. -/
def ObjectKey.Scoped (key : ObjectKey) : Prop :=
  key.namespaceName.isNone ↔ key.kind = .clusterRoleBinding

instance (key : ObjectKey) : Decidable key.Scoped := inferInstanceAs (Decidable (_ ↔ _))

/-- The objects of the kinds a workload is made of, with their labels, and the classes. -/
structure Cluster where
  objects : AList fun _ : ObjectKey => String → Option String
  classes : String → Option ProviderClass
  placed : ∀ key ∈ objects, key.Scoped

namespace Cluster

def Selected (selector : Selector) (labels : String → Option String) : Prop :=
  labels labelProvider = some selector.provider ∧
    labels labelProviderNamespace = some selector.providerNamespace

instance (selector : Selector) : DecidablePred (Selected selector) := fun _ => instDecidableAnd

/-- The object is there and carries the labels of the provider. -/
def Labelled (cluster : Cluster) (selector : Selector) (key : ObjectKey) : Prop :=
  ∃ labels, cluster.objects.lookup key = some labels ∧ Selected selector labels

instance (cluster : Cluster) (selector : Selector) (key : ObjectKey) :
    Decidable (cluster.Labelled selector key) :=
  match found : cluster.objects.lookup key with
  | none => .isFalse (by rintro ⟨_, present, _⟩; rw [found] at present; contradiction)
  | some labels =>
    decidable_of_iff (Selected selector labels)
      ⟨fun selected => ⟨labels, found, selected⟩, fun ⟨_, present, selected⟩ =>
        (Option.some.inj (found.symm.trans present)) ▸ selected⟩

/-- Applied labels are set; those others have set stay. -/
def merged (applied : Labels) (present : Option (String → Option String)) : String → Option String :=
  fun key => (applied.get key).or (present.bind fun labels => labels key)

def put (cluster : Cluster) (key : ObjectKey) (labels : String → Option String) (placed : key.Scoped) : Cluster where
  objects := cluster.objects.insert key labels
  classes := cluster.classes
  placed := fun other member => (AList.mem_insert _).mp member |>.elim (· ▸ placed) (cluster.placed other)

def remove (cluster : Cluster) (key : ObjectKey) : Cluster where
  objects := cluster.objects.erase key
  classes := cluster.classes
  placed := fun other member => cluster.placed other (AList.mem_erase.mp member).2

def listed (cluster : Cluster) (kind : ObjectKind) (selector : Selector) : List ObjectKey :=
  cluster.objects.keys.filter fun key => decide (key.kind = kind ∧ cluster.Labelled selector key)

def carry (cluster : Cluster) : (call : Call) → Reply call × Cluster
  | .getClass name => (.ok (cluster.classes name), cluster)
  | .list kind selector => (.ok (cluster.listed kind selector), cluster)
  | .apply kind metadata =>
    let key := keyOf kind metadata
    if placed : key.Scoped then
      (.ok (), cluster.put key (merged metadata.labels (cluster.objects.lookup key)) placed)
    else (.error (.api 422), cluster)
  | .delete key =>
    if key ∈ cluster.objects then (.ok (), cluster.remove key) else (.error .notFound, cluster)
  | .ensureFinalizer | .removeFinalizer | .getDeployment _ _ | .getLease _ _ | .patchStatus | .publish _ =>
    (.ok (), cluster)

def unreachable : (call : Call) → Reply call
  | .getClass _ | .list _ _ | .apply _ _ | .delete _ | .ensureFinalizer | .removeFinalizer
  | .getDeployment _ _ | .getLease _ _ | .patchStatus | .publish _ => .error .transport

def serve (cluster : Cluster) (delivery : Delivery) (call : Call) : Reply call × Cluster :=
  delivery.outcome cluster (unreachable call) (cluster.carry call)

end Cluster

abbrev clusterBackend : Backend Call Reply := ⟨Cluster, Delivery, Cluster.serve⟩

end Banlieue.Operator
