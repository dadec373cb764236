import Banlieue.Api.Common
import Banlieue.Sdk.Naming

namespace Banlieue.Operator

open Banlieue.Data Banlieue.Api Banlieue.Sdk

/-! # Labels -/

def labelProvider : String := "banlieue.io/provider"

def labelProviderNamespace : String := "banlieue.io/provider-namespace"

def labelProviderClass : String := "banlieue.io/provider-class"

def labelName : String := "app.kubernetes.io/name"

def labelComponent : String := "app.kubernetes.io/component"

def labelManagedBy : String := "app.kubernetes.io/managed-by"

def labelInstance : String := "app.kubernetes.io/instance"

def appName : String := "banlieue"

def managedBy : String := "banlieue-operator"

def component (backend : String) : String := "provider-" ++ backend

/-- A selector cannot be changed once its Deployment exists, so it is built from
what cannot change for a provider. -/
def selectorLabels (provider : String) : Labels :=
  .ofList [(labelName, appName), (labelProvider, provider)]

def workloadLabels (className provider backend : String) : Labels :=
  selectorLabels provider
    |>.insert labelComponent (component backend)
    |>.insert labelManagedBy managedBy
    |>.insert labelProviderClass className
    |>.insert labelInstance (workloadName className provider)

def workloadLabelsFor (className providerNamespace provider backend : String) : Labels :=
  (workloadLabels className provider backend).insert labelProviderNamespace providerNamespace

/-! # The objects of one provider -/

structure PolicyRule where
  apiGroups : List String
  resources : List String
  verbs : List String
  resourceNames : Option (List String) := none
deriving DecidableEq

inductive ProviderDeployment where
  | managed | external
deriving DecidableEq

structure ProviderClassSpec where
  backend : String
  deployment : Option ProviderDeployment := none
  workloadNamespace : Option String := none
  replicas : Option Int := none
  additionalRules : List PolicyRule := []
deriving DecidableEq

def defaultProviderReplicas : Int := 1

namespace ProviderClassSpec

def deploymentMode (spec : ProviderClassSpec) : ProviderDeployment := spec.deployment.getD .managed

def replicasOrDefault (spec : ProviderClassSpec) : Int :=
  match spec.replicas with
  | some count => if 0 < count then count else defaultProviderReplicas
  | none => defaultProviderReplicas

def workloadNamespaceOr (spec : ProviderClassSpec) (default : String) : String :=
  spec.workloadNamespace.getD default

end ProviderClassSpec

/-- The Deployment and the ServiceAccount live in the namespace of the workload,
the Role and its binding next to the credentials they grant. -/
structure WorkloadInputs where
  className : String
  «class» : ProviderClassSpec
  providerName : String
  providerNamespace : String
  workloadNamespace : String
  credentialsSecret : Option String := none
  caBundleConfigMap : Option String := none
  caBundleSecret : Option String := none
  owner : Option OwnerReference := none
deriving DecidableEq

namespace WorkloadInputs

def name (inputs : WorkloadInputs) : String := workloadName inputs.className inputs.providerName

def clusterScopedName (inputs : WorkloadInputs) : String :=
  Sdk.clusterScopedName inputs.className inputs.providerNamespace inputs.providerName

def labels (inputs : WorkloadInputs) : Labels :=
  workloadLabelsFor inputs.className inputs.providerNamespace inputs.providerName inputs.class.backend

def isExternal (inputs : WorkloadInputs) : Bool := inputs.class.deploymentMode == .external

/-- A provider that runs elsewhere has its identity next to its Role. -/
def serviceAccountNamespace (inputs : WorkloadInputs) : String :=
  if inputs.isExternal then inputs.providerNamespace else inputs.workloadNamespace

def workloadIsOwned (inputs : WorkloadInputs) : Bool :=
  inputs.serviceAccountNamespace == inputs.providerNamespace

/-- An owner in another namespace would be taken for one that is gone. -/
def ownerFor (inputs : WorkloadInputs) (owned : Bool) : List OwnerReference :=
  if owned then inputs.owner.toList else []

def importRoleName (inputs : WorkloadInputs) : String := inputs.name ++ "-import"

def metadata (inputs : WorkloadInputs) (name : String) (namespaceName : Option String) (owned : Bool) :
    ObjectMeta :=
  { name := name
    namespaceName := namespaceName
    labels := inputs.labels
    ownerReferences := inputs.ownerFor owned }

end WorkloadInputs

def ownerReference (providerName uid : String) : OwnerReference where
  apiVersion := "banlieue.io/v1alpha1"
  kind := "Provider"
  name := providerName
  uid := uid
  controller := some true
  blockOwnerDeletion := some true

def workloadInputs (className : String) («class» : ProviderClassSpec)
    (providerName providerNamespace : String) (uid : Option String)
    (credentialsSecret caBundleConfigMap caBundleSecret : Option String) : WorkloadInputs where
  className := className
  «class» := «class»
  providerName := providerName
  providerNamespace := providerNamespace
  workloadNamespace := «class».workloadNamespaceOr providerNamespace
  credentialsSecret := credentialsSecret
  caBundleConfigMap := caBundleConfigMap
  caBundleSecret := caBundleSecret
  owner := uid.map (ownerReference providerName)

structure Subject where
  kind : String
  name : String
  namespaceName : String
deriving DecidableEq

structure RoleRef where
  apiGroup : String := "rbac.authorization.k8s.io"
  kind : String
  name : String
deriving DecidableEq

structure ServiceAccount where
  metadata : ObjectMeta
deriving DecidableEq

structure Role where
  metadata : ObjectMeta
  rules : List PolicyRule
deriving DecidableEq

structure RoleBinding where
  metadata : ObjectMeta
  roleRef : RoleRef
  subjects : List Subject
deriving DecidableEq

structure Deployment where
  metadata : ObjectMeta
  replicas : Int
  selector : Labels
  templateLabels : Labels
deriving DecidableEq

structure WorkloadSet where
  serviceAccount : ServiceAccount
  role : Role
  roleBinding : RoleBinding
  clusterRoleBinding : RoleBinding
  importRole : Option Role
  importRoleBinding : Option RoleBinding
  deployment : Option Deployment
deriving DecidableEq

def namedRule (group resource : String) (verbs names : List String) : PolicyRule :=
  { apiGroups := [group], resources := [resource], verbs := verbs, resourceNames := some names }

def serviceAccountSubject (inputs : WorkloadInputs) : Subject :=
  { kind := "ServiceAccount", name := inputs.name, namespaceName := inputs.serviceAccountNamespace }

def importServiceAccount : String := "banlieue-import"

/-- A rule with no names would grant every object of the namespace, so there is
one only for what the provider names. -/
def buildImportRole (inputs : WorkloadInputs) : Role where
  metadata := inputs.metadata inputs.importRoleName (some inputs.providerNamespace) true
  rules :=
    namedRule "banlieue.io" "providers" ["get"] [inputs.providerName] ::
      ((inputs.credentialsSecret.toList.map fun secret => namedRule "" "secrets" ["get"] [secret]) ++
        (inputs.caBundleConfigMap.toList.map fun map => namedRule "" "configmaps" ["get"] [map]) ++
        ((inputs.caBundleSecret.filter fun secret => some secret != inputs.credentialsSecret).toList.map
          fun secret => namedRule "" "secrets" ["get"] [secret]))

def buildImportRoleBinding (inputs : WorkloadInputs) (buildNamespace : String) : RoleBinding where
  metadata := inputs.metadata inputs.importRoleName (some inputs.providerNamespace) true
  roleRef := { kind := "Role", name := inputs.importRoleName }
  subjects :=
    [{ kind := "ServiceAccount", name := importServiceAccount, namespaceName := buildNamespace }]

def buildServiceAccount (inputs : WorkloadInputs) : ServiceAccount where
  metadata := inputs.metadata inputs.name (some inputs.serviceAccountNamespace) inputs.workloadIsOwned

def externalRules (inputs : WorkloadInputs) : List PolicyRule :=
  [namedRule "banlieue.io" "providers" ["get", "list", "watch"] [inputs.providerName],
    namedRule "banlieue.io" "providers/status" ["get", "update", "patch"] [inputs.providerName],
    namedRule "" "serviceaccounts/token" ["create"] [inputs.name]]

def eventsRule (group : String) : PolicyRule :=
  { apiGroups := [group], resources := ["events"], verbs := ["create", "patch"] }

def buildRole (inputs : WorkloadInputs) : Role where
  metadata := inputs.metadata inputs.name (some inputs.providerNamespace) true
  rules :=
    let secretNames := inputs.credentialsSecret.toList ++ inputs.caBundleSecret.toList
    (if secretNames.isEmpty then [] else [namedRule "" "secrets" ["get"] secretNames]) ++
      (inputs.caBundleConfigMap.toList.map fun map => namedRule "" "configmaps" ["get"] [map]) ++
      [{ apiGroups := ["coordination.k8s.io"], resources := ["leases"], verbs := ["create"] },
        namedRule "coordination.k8s.io" "leases" ["get", "update", "patch"] [inputs.name],
        eventsRule "", eventsRule "events.k8s.io"] ++
      (if inputs.isExternal then externalRules inputs else []) ++
      inputs.class.additionalRules

def buildRoleBinding (inputs : WorkloadInputs) : RoleBinding where
  metadata := inputs.metadata inputs.name (some inputs.providerNamespace) true
  roleRef := { kind := "Role", name := inputs.name }
  subjects := [serviceAccountSubject inputs]

def sharedClusterRoleName (backend : String) : String := "banlieue-" ++ component backend

def buildClusterRoleBinding (inputs : WorkloadInputs) : RoleBinding where
  metadata := inputs.metadata inputs.clusterScopedName none false
  roleRef := { kind := "ClusterRole", name := sharedClusterRoleName inputs.class.backend }
  subjects := [serviceAccountSubject inputs]

def buildDeployment (inputs : WorkloadInputs) : Deployment where
  metadata := inputs.metadata inputs.name (some inputs.workloadNamespace) inputs.workloadIsOwned
  replicas := inputs.class.replicasOrDefault
  selector := selectorLabels inputs.providerName
  templateLabels := inputs.labels

def buildWorkload (inputs : WorkloadInputs) (buildNamespace : String) : WorkloadSet :=
  let managed := !inputs.isExternal
  { serviceAccount := buildServiceAccount inputs
    role := buildRole inputs
    roleBinding := buildRoleBinding inputs
    clusterRoleBinding := buildClusterRoleBinding inputs
    importRole := if managed then some (buildImportRole inputs) else none
    importRoleBinding := if managed then some (buildImportRoleBinding inputs buildNamespace) else none
    deployment := if managed then some (buildDeployment inputs) else none }

inductive ObjectKind where
  | serviceAccount | role | roleBinding | clusterRoleBinding | deployment
deriving DecidableEq

structure ObjectKey where
  kind : ObjectKind
  namespaceName : Option String
  name : String
deriving DecidableEq

def keyOf (kind : ObjectKind) (metadata : ObjectMeta) : ObjectKey :=
  ⟨kind, metadata.namespaceName, metadata.name⟩

/-- The identity and its permissions are applied before the workload that uses
them. -/
def WorkloadSet.applied (set : WorkloadSet) : List ObjectKey :=
  [keyOf .serviceAccount set.serviceAccount.metadata, keyOf .role set.role.metadata,
      keyOf .roleBinding set.roleBinding.metadata] ++
    (set.importRole.toList.map fun role => keyOf .role role.metadata) ++
    (set.importRoleBinding.toList.map fun binding => keyOf .roleBinding binding.metadata) ++
    [keyOf .clusterRoleBinding set.clusterRoleBinding.metadata] ++
    (set.deployment.toList.map fun deployment => keyOf .deployment deployment.metadata)

/-- A Deployment takes the pods of its own namespace that carry its labels. -/
def Deployment.selects (deployment other : Deployment) : Prop :=
  deployment.metadata.namespaceName = other.metadata.namespaceName ∧
    ∀ entry ∈ deployment.selector.entries, other.templateLabels.get entry.1 = some entry.2

end Banlieue.Operator
