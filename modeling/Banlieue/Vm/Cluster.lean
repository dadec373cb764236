import Banlieue.Data.Machine
import Banlieue.Infra.Machine
import Banlieue.Sdk.Finalizer
import Banlieue.Vm.Admission

namespace Banlieue.Vm

open Banlieue.Api Banlieue.Data Banlieue.Infra Banlieue.Sdk

/-! # The cluster as the virtual machine controller uses it -/

/-- An infra machine that was applied for a virtual machine. -/
structure AppliedInfra where
  object : InfraObject
  /-- The network class each interface was built for, which no backend's object shows. -/
  networkClasses : List String
deriving DecidableEq

namespace AppliedInfra

/-- An infra machine that nobody has reported on yet. -/
def fresh (machine : InfraMachine) (networkClasses : List String) : AppliedInfra where
  object := { machine := machine }
  networkClasses := networkClasses

/-- An infra machine has the name and namespace of its virtual machine. -/
def key (applied : AppliedInfra) : VmKey :=
  (applied.object.machine.metadata.namespaceName.getD "", applied.object.machine.metadata.name)

def kind (applied : AppliedInfra) : InfraKind := applied.object.machine.kind

/-- The static addresses the infra machine carries, each on the network it is for. -/
def claims (text : AddressText) (applied : AppliedInfra) : List AddressClaim :=
  (applied.object.machine.staticAddresses.zip applied.networkClasses).filterMap
    fun ((interface, address), networkClass) =>
      address.map fun given =>
        { interface := interface
          networkClass := some networkClass
          address := normalize text given }

def isFor (kind : InfraKind) (vm : VmKey) (applied : AppliedInfra) : Bool :=
  applied.kind == kind && applied.key == vm

end AppliedInfra

/-- A Secret or a ConfigMap. -/
structure KeyedData (β : Type) where
  namespaceName : String
  name : String
  data : List (String × β)
deriving DecidableEq

structure Cluster where
  now : Timestamp
  vms : Snapshot
  /-- The earlier states of the machines, latest first: a cache may still show any. -/
  past : List Snapshot := []
  infra : List AppliedInfra := []
  classes : List VMClass := []
  images : List VMImage := []
  providers : List Provider := []
  secrets : List (KeyedData (List UInt8)) := []
  configMaps : List (KeyedData String) := []
deriving DecidableEq

/-! ## Calls -/

inductive Call where
  | now
  | patchFinalizers (vm : VmKey) (finalizers : List String)
  | getClass (name : String)
  | getClassOpt (name : String)
  | listClasses
  | getImage (name : String)
  | listProviders (namespaceName : String)
  | listVms (namespaceName : String)
  /-- All machines in the store, read on behalf of one. -/
  | storeState (reader : VirtualMachine)
  | getInfra (kind : InfraKind) (vm : VmKey)
  | applyInfra (machine : InfraMachine) (networkClasses : List String)
  | deleteInfra (kind : InfraKind) (vm : VmKey)
  | patchInfraPower (kind : InfraKind) (vm : VmKey) (power : PowerState)
  | applyStatus (vm : VmKey) (status : VirtualMachineStatus)
  | getSecret (namespaceName name : String)
  | getConfigMap (namespaceName name : String)
deriving DecidableEq

abbrev Reply : Call → Type
  | .now => Timestamp
  | .getClass _ => Except KubeError VMClass
  | .getClassOpt _ => Except KubeError (Option VMClass)
  | .listClasses => Except KubeError (List VMClass)
  | .getImage _ => Except KubeError VMImage
  | .listProviders _ => Except KubeError (List Provider)
  | .listVms _ | .storeState _ => Except KubeError (List VirtualMachine)
  | .getInfra _ _ => Except KubeError (Option InfraObject)
  | .applyInfra _ _ => Except KubeError InfraObject
  | .getSecret _ _ => Except KubeError (KeyedData (List UInt8))
  | .getConfigMap _ _ => Except KubeError (KeyedData String)
  | .patchFinalizers _ _ | .deleteInfra _ _ | .patchInfraPower _ _ _ | .applyStatus _ _ =>
    Except KubeError Unit

/-! ## Machines -/

namespace Snapshot

def find (snapshot : Snapshot) (vm : VmKey) : Option VirtualMachine :=
  snapshot.vms.find? fun stored => key stored == vm

/-- The machine under that key as `change` makes it. -/
def update (snapshot : Snapshot) (vm : VmKey) (change : VirtualMachine → VirtualMachine)
    (keepsKey : ∀ stored, key (change stored) = key stored) : Snapshot where
  vms := snapshot.vms.map fun stored => if key stored = vm then change stored else stored
  distinct := by
    have keys : (snapshot.vms.map fun stored => if key stored = vm then change stored else stored).map
        key = snapshot.vms.map key := by
      rw [List.map_map]
      refine List.map_congr_left fun stored _ => ?_
      simp only [Function.comp_apply]
      split
      · exact keepsKey stored
      · rfl
    rw [keys]
    exact snapshot.distinct

theorem find_key {snapshot : Snapshot} {vm : VmKey} {stored : VirtualMachine}
    (found : snapshot.find vm = some stored) : key stored = vm :=
  beq_iff_eq.mp (List.find?_some (p := fun stored => key stored == vm) found)

theorem find_update (snapshot : Snapshot) (vm : VmKey) (change : VirtualMachine → VirtualMachine)
    (keepsKey : ∀ stored, key (change stored) = key stored) :
    (snapshot.update vm change keepsKey).find vm = (snapshot.find vm).map change := by
  simp only [find, update]
  induction snapshot.vms with
  | nil => rfl
  | cons first rest ih =>
    rw [List.map_cons, List.find?_cons, List.find?_cons, ih]
    by_cases here : key first = vm
    · simp [here, keepsKey]
    · simp [here, beq_false_of_ne here]

def erase (snapshot : Snapshot) (vm : VmKey) : Snapshot where
  vms := snapshot.vms.filter fun stored => key stored != vm
  distinct := (List.filter_sublist.map key).nodup snapshot.distinct

def insert (snapshot : Snapshot) (vm : VirtualMachine) : Option Snapshot :=
  if fresh : key vm ∉ snapshot.vms.map key then
    some
      { vms := snapshot.vms ++ [vm]
        distinct := by
          rw [List.map_append, List.nodup_append]
          refine ⟨snapshot.distinct, List.nodup_singleton _, ?_⟩
          intro first member second own same
          simp only [List.map_cons, List.map_nil, List.mem_singleton] at own
          exact fresh (own ▸ same ▸ member) }
  else none

end Snapshot

namespace Cluster

variable (cluster : Cluster)

/-- A write of the machines; what they were stays visible to caches. -/
def commit (vms : Snapshot) : Cluster :=
  { cluster with vms := vms, past := cluster.vms :: cluster.past }

/-- What a cache shows: the present or some earlier state. -/
def store (age : Nat) : Snapshot :=
  (cluster.vms :: cluster.past)[age]?.getD cluster.vms

def withFinalizers (finalizers : List String) (vm : VirtualMachine) : VirtualMachine :=
  { vm with metadata := { vm.metadata with finalizers := finalizers } }

def withStatus (status : VirtualMachineStatus) (vm : VirtualMachine) : VirtualMachine :=
  { vm with status := some status }

theorem key_withFinalizers (finalizers : List String) (vm : VirtualMachine) :
    key (withFinalizers finalizers vm) = key vm := rfl

theorem key_withStatus (status : VirtualMachineStatus) (vm : VirtualMachine) :
    key (withStatus status vm) = key vm := rfl

/-- A merge patch replaces the list; a machine that is being deleted takes no new
finalizer and goes with its last one. -/
def patchFinalizers (vm : VmKey) (finalizers : List String) : Except KubeError Unit × Cluster :=
  match cluster.vms.find vm with
  | none => (.error .notFound, cluster)
  | some stored =>
    if Held.accepts ⟨stored.metadata.finalizers, stored.deleting⟩ finalizers then
      if stored.deleting && finalizers.isEmpty then
        (.ok (), cluster.commit (cluster.vms.erase vm))
      else
        (.ok (), cluster.commit
          (cluster.vms.update vm (withFinalizers finalizers) (key_withFinalizers finalizers)))
    else (.error .invalid, cluster)

/-- The controller is the only manager of the status, so an apply replaces it. -/
def applyStatus (vm : VmKey) (status : VirtualMachineStatus) : Except KubeError Unit × Cluster :=
  match cluster.vms.find vm with
  | none => (.error .notFound, cluster)
  | some _ =>
    (.ok (), cluster.commit (cluster.vms.update vm (withStatus status) (key_withStatus status)))

/-! ## Infra machines -/

def infraAt (kind : InfraKind) (vm : VmKey) : Option AppliedInfra :=
  cluster.infra.find? (AppliedInfra.isFor kind vm)

/-- The infra machine of that kind as `change` makes it. -/
def changeInfra (kind : InfraKind) (vm : VmKey) (change : AppliedInfra → AppliedInfra) : Cluster :=
  { cluster with
    infra := cluster.infra.map fun applied => if applied.isFor kind vm then change applied else applied }

def eraseInfra (kind : InfraKind) (vm : VmKey) : Cluster :=
  { cluster with infra := cluster.infra.filter fun applied => !applied.isFor kind vm }

/-- Labels and owners come from the apply, the rest of the metadata and the status
stay. -/
def reapply (machine : InfraMachine) (networkClasses : List String) (applied : AppliedInfra) :
    AppliedInfra where
  object :=
    { machine := machine.withMetadata
        { applied.object.machine.metadata with
          labels := machine.metadata.labels
          ownerReferences := machine.metadata.ownerReferences }
      status := applied.object.status }
  networkClasses := networkClasses

def applyInfra (machine : InfraMachine) (networkClasses : List String) :
    Except KubeError InfraObject × Cluster :=
  let fresh := AppliedInfra.fresh machine networkClasses
  match cluster.infraAt machine.kind fresh.key with
  | some applied =>
    (.ok (reapply machine networkClasses applied).object,
      cluster.changeInfra machine.kind fresh.key (reapply machine networkClasses))
  | none => (.ok fresh.object, { cluster with infra := cluster.infra ++ [fresh] })

def markInfra (now : Timestamp) (applied : AppliedInfra) : AppliedInfra :=
  { applied with
    object.machine := applied.object.machine.withMetadata
      (applied.object.machine.metadata.markDeleted now) }

/-- An infra machine goes at once, or is marked while finalizers hold it. -/
def deleteInfra (kind : InfraKind) (vm : VmKey) : Except KubeError Unit × Cluster :=
  match cluster.infraAt kind vm with
  | none => (.error .notFound, cluster)
  | some applied =>
    if applied.object.machine.metadata.finalizers.isEmpty then (.ok (), cluster.eraseInfra kind vm)
    else (.ok (), cluster.changeInfra kind vm (markInfra cluster.now))

def powerInfra (power : PowerState) (applied : AppliedInfra) : AppliedInfra :=
  { applied with object.machine := applied.object.machine.withDesiredPowerState power }

def patchInfraPower (kind : InfraKind) (vm : VmKey) (power : PowerState) :
    Except KubeError Unit × Cluster :=
  match cluster.infraAt kind vm with
  | none => (.error .notFound, cluster)
  | some _ => (.ok (), cluster.changeInfra kind vm (powerInfra power))

/-! ## Serving a call -/

/-- What the network does with a call, and how old a state the store shows. -/
structure Choice where
  delivery : Delivery := .answered
  age : Nat := 0
deriving DecidableEq

def found {α : Type} (value : Option α) : Except KubeError α :=
  match value with
  | some present => .ok present
  | none => .error .notFound

def inNamespace (namespaceName : String) (metadata : ObjectMeta) : Bool :=
  metadata.namespaceName == some namespaceName

def providersIn (namespaceName : String) : List Provider :=
  cluster.providers.filter fun provider => inNamespace namespaceName provider.metadata

def vmsIn (namespaceName : String) : List VirtualMachine :=
  cluster.vms.vms.filter fun vm => inNamespace namespaceName vm.metadata

def classNamed (name : String) : Option VMClass :=
  cluster.classes.find? fun vmClass => vmClass.name == name

def imageNamed (name : String) : Option VMImage :=
  cluster.images.find? fun image => image.name == name

def serve (choice : Choice) : (call : Call) → Reply call × Cluster
  | .now => (cluster.now, cluster)
  | .patchFinalizers vm finalizers => request (cluster.patchFinalizers vm finalizers)
  | .getClass name => request (found (cluster.classNamed name), cluster)
  | .getClassOpt name => request (.ok (cluster.classNamed name), cluster)
  | .listClasses => request (.ok cluster.classes, cluster)
  | .getImage name => request (found (cluster.imageNamed name), cluster)
  | .listProviders namespaceName => request (.ok (cluster.providersIn namespaceName), cluster)
  | .listVms namespaceName => request (.ok (cluster.vmsIn namespaceName), cluster)
  | .storeState _ => request (.ok (cluster.store choice.age).vms, cluster)
  | .getInfra kind vm =>
    request (.ok ((cluster.infraAt kind vm).map AppliedInfra.object), cluster)
  | .applyInfra machine networkClasses =>
    request (cluster.applyInfra machine networkClasses)
  | .deleteInfra kind vm => request (cluster.deleteInfra kind vm)
  | .patchInfraPower kind vm power => request (cluster.patchInfraPower kind vm power)
  | .applyStatus vm status => request (cluster.applyStatus vm status)
  | .getSecret namespaceName name =>
    request (found (cluster.secrets.find? fun secret =>
      secret.namespaceName == namespaceName && secret.name == name), cluster)
  | .getConfigMap namespaceName name =>
    request (found (cluster.configMaps.find? fun configMap =>
      configMap.namespaceName == namespaceName && configMap.name == name), cluster)
where
  request {α : Type} (carriedOut : Except KubeError α × Cluster) : Except KubeError α × Cluster :=
    choice.delivery.outcome cluster (.error .transport) carriedOut

end Cluster

end Banlieue.Vm
