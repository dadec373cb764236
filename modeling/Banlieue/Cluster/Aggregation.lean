import Banlieue.Scheduler.Filters
import Banlieue.Sdk.Status

namespace Banlieue.Cluster

open Banlieue.Data Banlieue.Api Banlieue.Sdk Banlieue.Scheduler

/-! # Failure domains of a vSphere cluster

A cluster aggregates the failure domains its providers publish into the list the
Cluster API balances machines over.
-/

structure VSphereClusterSpec where
  controlPlaneEndpoint : Option ApiEndpoint := none
  providerSelector : LabelSelector := {}
  providerRefs : List LocalObjectReference := []
  controlPlaneFailureDomainSelector : Option LabelSelector := none
  paused : Bool := false
deriving DecidableEq

structure VSphereClusterStatus where
  initialization : InitializationStatus := {}
  controlPlaneEndpoint : Option ApiEndpoint := none
  failureDomains : List ClusterFailureDomain := []
  conditions : List Condition := []
  observedGeneration : Option Int := none
deriving DecidableEq

structure VSphereCluster where
  metadata : ObjectMeta
  spec : VSphereClusterSpec := {}
  status : Option VSphereClusterStatus := none
deriving DecidableEq

def conditionPaused : String := "Paused"

namespace Reasons

def reconciled : String := "Reconciled"

def noFailureDomains : String := "NoFailureDomains"

def paused : String := "Paused"

end Reasons

/-- Explicit references win over the selector. -/
def selectProviders (all : List Provider) (spec : VSphereClusterSpec) : List Provider :=
  if !spec.providerRefs.isEmpty then
    all.filter fun provider => (spec.providerRefs.map LocalObjectReference.name).contains provider.name
  else all.filter fun provider => selectorMatches (some spec.providerSelector) provider.labels

/-- Labels first, and what the provider resolved over them. -/
def clusterFailureDomain (selector : Option LabelSelector) (domain : FailureDomain) :
    ClusterFailureDomain where
  name := domain.name
  controlPlane := some (selectorMatches selector domain.labels)
  attributes :=
    domain.attributes.raw.entries.foldl (fun map entry => map.insert entry.1 entry.2) domain.labels

def aggregateFailureDomains (providers : List Provider) (selector : Option LabelSelector) :
    List ClusterFailureDomain :=
  providers.flatMap fun provider => provider.failureDomains.map (clusterFailureDomain selector)

def buildStatus (spec : VSphereClusterSpec) (allProviders : List Provider) (generation : Int)
    (now : Timestamp) : VSphereClusterStatus :=
  let selected := selectProviders allProviders spec
  let failureDomains := aggregateFailureDomains selected spec.controlPlaneFailureDomainSelector
  let provisioned := !failureDomains.isEmpty
  let conditions :=
    if provisioned then
      setCondition [] ConditionTypes.ready ConditionStatus.true Reasons.reconciled
        ("aggregated " ++ toString failureDomains.length ++ " failure domain(s) from " ++
          toString selected.length ++ " provider(s)") generation now
    else
      setCondition [] ConditionTypes.ready ConditionStatus.false Reasons.noFailureDomains
        "no ready failure domains from the selected providers" generation now
  { initialization := { provisioned := some provisioned }
    controlPlaneEndpoint := spec.controlPlaneEndpoint
    failureDomains := failureDomains
    conditions := conditions
    observedGeneration := some generation }

/-- The conditions of a paused cluster; each of the two reads the clock. -/
def pausedConditions (generation : Int) (pausedAt readyAt : Timestamp) : List Condition :=
  setCondition
    (setCondition [] conditionPaused ConditionStatus.true Reasons.paused
      "reconciliation paused via spec.paused" generation pausedAt)
    ConditionTypes.ready ConditionStatus.false Reasons.paused "reconciliation paused" generation readyAt

/-- The status one pass applies.  The controller is the only manager of the whole
status, so a field the patch leaves out is given up. -/
def reconcileStatus (cluster : VSphereCluster) (allProviders : List Provider)
    (now later : Timestamp) : VSphereClusterStatus :=
  let generation := cluster.metadata.generation.getD 0
  if cluster.spec.paused then
    { conditions := pausedConditions generation now later, observedGeneration := some generation }
  else buildStatus cluster.spec allProviders generation now

end Banlieue.Cluster
