import Banlieue.Operator.Isolation
import Banlieue.Operator.Reconciler

namespace Banlieue.Operator

open Banlieue.Data Banlieue.Data.Program Banlieue.Api Banlieue.Sdk

/-! # What a pass leaves of a workload -/

namespace WorkloadInputs

def selector (inputs : WorkloadInputs) : Selector := ownedBySelector inputs.providerNamespace inputs.providerName

/-- The names that are kept, kind by kind. -/
def Keeps (inputs : WorkloadInputs) (key : ObjectKey) : Prop :=
  match key.kind with
  | .deployment => key.name ∈ inputs.keepDeployments
  | .serviceAccount => key.name ∈ [inputs.name]
  | .role | .roleBinding => key.name ∈ inputs.keepRbac
  | .clusterRoleBinding => key.name = inputs.clusterScopedName

/-- Where the objects of a kind belong. -/
def place (inputs : WorkloadInputs) : ObjectKind → Option String
  | .deployment => some inputs.workloadNamespace
  | .serviceAccount => some inputs.serviceAccountNamespace
  | .role | .roleBinding => some inputs.providerNamespace
  | .clusterRoleBinding => none

theorem mem_applied_iff {inputs : WorkloadInputs} {buildNamespace : String} {key : ObjectKey} :
    key ∈ (buildWorkload inputs buildNamespace).applied ↔
      inputs.Keeps key ∧ key.namespaceName = inputs.place key.kind := by
  obtain ⟨kind, namespaceName, name⟩ := key
  rw [mem_applied]
  cases external : inputs.isExternal <;> cases kind <;>
    simp [Keeps, place, keepDeployments, keepRbac, external] <;> tauto

end WorkloadInputs

namespace Cluster

variable {cluster : Cluster} {selector : Selector}

/-- The labelled objects are those of the workload, no more and no less. -/
def Exact (cluster : Cluster) (inputs : WorkloadInputs) (buildNamespace : String) : Prop :=
  ∀ key, cluster.Labelled inputs.selector key ↔ key ∈ (buildWorkload inputs buildNamespace).applied

/-- Every labelled object with a name that is kept is where the workload has it. -/
def InPlace (cluster : Cluster) (inputs : WorkloadInputs) : Prop :=
  ∀ key, cluster.Labelled inputs.selector key → inputs.Keeps key →
    key.namespaceName = inputs.place key.kind

variable {key : ObjectKey}

theorem Labelled.mem (labelled : cluster.Labelled selector key) : key ∈ cluster.objects := by
  obtain ⟨labels, found, _⟩ := labelled
  exact AList.lookup_isSome.mp (by rw [found]; rfl)

theorem labelled_put {labels : String → Option String} (placed : key.Scoped)
    (selected : Selected selector labels) (other : ObjectKey) :
    (cluster.put key labels placed).Labelled selector other ↔ other = key ∨ cluster.Labelled selector other := by
  by_cases same : other = key
  · subst same
    simp only [true_or, iff_true]
    exact ⟨labels, AList.lookup_insert _, selected⟩
  · simp only [same, false_or, Labelled, put, AList.lookup_insert_ne same]

theorem labelled_remove (other : ObjectKey) :
    (cluster.remove key).Labelled selector other ↔ other ≠ key ∧ cluster.Labelled selector other := by
  by_cases same : other = key
  · subst same
    simp [Labelled, remove]
  · simp [same, Labelled, remove, AList.lookup_erase_ne same]

theorem mem_listed {kind : ObjectKind} :
    key ∈ cluster.listed kind selector ↔ key.kind = kind ∧ cluster.Labelled selector key := by
  rw [listed, List.mem_filter, decide_eq_true_iff]
  exact and_iff_right_of_imp fun found => AList.mem_keys.mp found.2.mem

end Cluster

/-- Whatever fails or stops it, a pass that returns leaves what `post` says. -/
abbrev Leaves {α : Type} (pass : Pass α) (cluster : Cluster) (post : α → Cluster → Prop) : Prop :=
  @Secures Call Reply α Error clusterBackend (fun _ _ _ => True) (fun _ => True) pass cluster post

section

variable {cluster : Cluster} {selector : Selector} {α : Type}

theorem leaves_consult {call : Call} {read : Reply call → Except Error α} {post : α → Cluster → Prop}
    (failed : ∀ value, read (Cluster.unreachable call) ≠ .ok value)
    (carried : ∀ value, read (cluster.carry call).1 = .ok value → post value (cluster.carry call).2) :
    Leaves (consult call read) cluster post := by
  refine Secures.consult (fun _ => trivial) fun delivery _ => either_intro (fun value succeeded => ?_) fun _ _ => trivial
  cases delivery with
  | answered => exact carried value succeeded
  | dropped => exact absurd succeeded (failed value)
  | unanswered => exact absurd succeeded (failed value)

/-- The calls that change nothing. -/
def Quiet : Call → Prop
  | .apply _ _ | .delete _ => False
  | _ => True

attribute [local simp] Quiet emit

theorem leaves_quiet {pass : Pass α} (quiet : Heeds (permitting Quiet) pass) :
    Leaves pass cluster fun _ last => last = cluster := by
  refine quiet.stays (fun call quiet => ⟨fun _ => trivial, ?_⟩) (fun _ => rfl) fun _ => trivial
  rintro _ _ ⟨delivery, -, -, rfl⟩
  cases call <;> first | exact quiet.elim | (cases delivery <;> rfl)

theorem heeds_emitEach (events : List Event) : Heeds (permitting Quiet) (emitEach events) := by
  induction events with
  | nil => rfl
  | cons event events ih => simp [emitEach, ih]

theorem leaves_applyEach (selector : Selector) (objects : List (ObjectKind × ObjectMeta))
    (selects : ∀ object ∈ objects, object.2.labels.get labelProvider = some selector.provider ∧
      object.2.labels.get labelProviderNamespace = some selector.providerNamespace) :
    Leaves (applyEach objects) cluster fun _ last => ∀ key, last.Labelled selector key ↔
      key ∈ objects.map (fun object => keyOf object.1 object.2) ∨ cluster.Labelled selector key := by
  induction objects generalizing cluster with
  | nil => exact Secures.pure fun key => by simp
  | cons object objects ih =>
    obtain ⟨provider, providerNamespace⟩ := selects object List.mem_cons_self
    have applied : Leaves (applyObject object) cluster fun _ last => ∀ key,
        last.Labelled selector key ↔ key = keyOf object.1 object.2 ∨ cluster.Labelled selector key := by
      refine leaves_consult nofun fun value succeeded => ?_
      simp only [Cluster.carry] at succeeded ⊢
      split at succeeded
      · rename_i placed
        rw [dif_pos placed]
        exact Cluster.labelled_put placed (by simp [Cluster.Selected, Cluster.merged, provider, providerNamespace])
      · cases succeeded
    refine Secures.bind applied fun _ middle first => ?_
    refine Secures.mono (ih fun object member => selects object (List.mem_cons_of_mem _ member)) ?_
    intro _ last rest key
    rw [rest, first, List.map_cons, List.mem_cons]
    tauto

theorem leaves_pruneEach (selector : Selector) (spared : ObjectKey → Bool) (found : List ObjectKey) :
    Leaves (pruneEach spared found) cluster fun _ last => ∀ key, last.Labelled selector key ↔
      cluster.Labelled selector key ∧ (key ∈ found → spared key = true) := by
  induction found generalizing cluster with
  | nil => exact Secures.pure fun key => by simp
  | cons first found ih =>
    rw [pruneEach]
    split
    · rename_i kept
      refine Secures.mono ih fun _ last rest key => ?_
      rw [rest, List.mem_cons]
      refine and_congr_right fun _ => ⟨fun spares => ?_, fun spares member => spares (.inr member)⟩
      rintro (rfl | member)
      · exact kept
      · exact spares member
    · rename_i pruned
      have deleted : Leaves (deleteIgnoringMissing first) cluster fun _ last => ∀ key,
          last.Labelled selector key ↔ key ≠ first ∧ cluster.Labelled selector key := by
        refine leaves_consult nofun fun value _ => ?_
        simp only [Cluster.carry]
        split
        · exact fun key => Cluster.labelled_remove key
        · rename_i missing
          intro key
          refine (and_iff_right_of_imp fun labelled => ?_).symm
          rintro rfl
          exact missing labelled.mem
      refine Secures.bind deleted fun _ middle first => ?_
      refine Secures.bind ih fun _ last rest => Secures.pure fun key => ?_
      rw [rest, first, List.mem_cons]
      constructor
      · rintro ⟨⟨apart, labelled⟩, spares⟩
        exact ⟨labelled, fun member => spares (member.resolve_left apart)⟩
      · rintro ⟨labelled, spares⟩
        refine ⟨⟨?_, labelled⟩, fun member => spares (.inr member)⟩
        rintro rfl
        exact pruned (spares (.inl rfl))

theorem leaves_prune (kind : ObjectKind) (spared : ObjectKey → Bool) :
    Leaves (do pruneEach spared (← consult (.list kind selector) (Except.mapError .kube))) cluster
      fun _ last => ∀ key, last.Labelled selector key ↔
        cluster.Labelled selector key ∧ (key.kind = kind → spared key = true) := by
  have listed : Leaves (consult (.list kind selector) (Except.mapError Error.kube)) cluster fun found last =>
      last = cluster ∧ found = cluster.listed kind selector :=
    leaves_consult nofun fun value succeeded => ⟨rfl, (Except.ok.inj succeeded).symm⟩
  refine Secures.bind listed ?_
  rintro _ _ ⟨rfl, rfl⟩
  refine Secures.mono (leaves_pruneEach selector _ _) fun _ last pruned key => ?_
  rw [pruned]
  refine and_congr_right fun labelled => ?_
  rw [Cluster.mem_listed]
  exact ⟨fun spares same => spares ⟨same, labelled⟩, fun spares found => spares found.1⟩

theorem leaves_pruneNamespaced (kind : ObjectKind) (namespaced : kind ≠ .clusterRoleBinding) (keep : List String) :
    Leaves (pruneNamespaced kind selector keep) cluster fun _ last => ∀ key, last.Labelled selector key ↔
      cluster.Labelled selector key ∧ (key.kind = kind → key.name ∈ keep) := by
  refine Secures.mono (leaves_prune kind _) fun _ last pruned key => ?_
  rw [pruned]
  refine and_congr_right fun labelled => forall_congr' fun same => ?_
  have inNamespace : key.namespaceName.isNone = false := by
    rw [Bool.eq_false_iff]
    intro none
    exact namespaced (same ▸ (cluster.placed key labelled.mem).mp none)
  rw [inNamespace, Bool.or_false, List.contains_iff_mem]

theorem leaves_pruneClusterRoleBindings (keep : Option String) :
    Leaves (pruneClusterRoleBindings selector keep) cluster fun _ last => ∀ key, last.Labelled selector key ↔
      cluster.Labelled selector key ∧ (key.kind = .clusterRoleBinding → keep = some key.name) := by
  refine Secures.mono (leaves_prune _ _) fun _ last pruned key => ?_
  rw [pruned, beq_iff_eq]

variable (provider : Provider) («class» : ProviderClass) (providerNamespace buildNamespace : String)

theorem leaves_pruneOrphans : Leaves (pruneOrphans provider «class» providerNamespace) cluster fun _ last => ∀ key,
      last.Labelled (inputsOf provider «class» providerNamespace).selector key ↔
        cluster.Labelled (inputsOf provider «class» providerNamespace).selector key ∧
          (inputsOf provider «class» providerNamespace).Keeps key := by
  refine Secures.bind (leaves_pruneNamespaced .deployment (by decide) _) fun _ first deployments => ?_
  refine Secures.bind (leaves_pruneNamespaced .serviceAccount (by decide) _) fun _ second accounts => ?_
  refine Secures.bind (leaves_pruneNamespaced .role (by decide) _) fun _ third roles => ?_
  refine Secures.bind (leaves_pruneNamespaced .roleBinding (by decide) _) fun _ fourth bindings => ?_
  refine Secures.bind (leaves_pruneClusterRoleBindings _) fun _ last clusterBindings => Secures.pure fun key => ?_
  change _ ↔ cluster.Labelled (ownedBySelector providerNamespace provider.metadata.name) key ∧ _
  refine (clusterBindings key).trans ?_
  rw [bindings, roles, accounts, deployments]
  obtain ⟨kind, namespaceName, name⟩ := key
  cases kind <;> simp [WorkloadInputs.Keeps, eq_comm]

variable {buildNamespace} in
theorem labels_of_objects {inputs : WorkloadInputs} {object : ObjectKind × ObjectMeta}
    (member : object ∈ (buildWorkload inputs buildNamespace).objects) : object.2.labels = inputs.labels := by
  cases external : inputs.isExternal <;>
    simp only [WorkloadSet.objects, buildWorkload, external, Bool.not_true, Bool.not_false, Bool.false_eq_true,
      if_true, if_false, Option.toList, List.map_cons, List.map_nil, List.append_nil, List.cons_append,
      List.nil_append, List.mem_cons, List.not_mem_nil, or_false] at member
  · rcases member with rfl | rfl | rfl | rfl | rfl | rfl | rfl <;> rfl
  · rcases member with rfl | rfl | rfl | rfl <;> rfl

theorem leaves_settleWorkload :
    Leaves (settleWorkload provider «class» providerNamespace buildNamespace) cluster fun _ last => ∀ key,
      last.Labelled (inputsOf provider «class» providerNamespace).selector key ↔
        (key ∈ (buildWorkload (inputsOf provider «class» providerNamespace) buildNamespace).applied ∨
            cluster.Labelled (inputsOf provider «class» providerNamespace).selector key) ∧
          (inputsOf provider «class» providerNamespace).Keeps key := by
  refine Secures.bind (leaves_applyEach (inputsOf provider «class» providerNamespace).selector _
    fun object member => ?_) fun _ middle applied => ?_
  · rw [labels_of_objects member]
    exact ⟨(WorkloadInputs.labels_get _).2, SortedMap.get_insert_self ..⟩
  · refine Secures.bind (leaves_quiet (by simp)) ?_
    rintro _ _ rfl
    refine Secures.bind (leaves_pruneOrphans provider «class» providerNamespace) fun names after pruned => ?_
    refine Secures.mono (leaves_quiet (by simp [heeds_emitEach, publishStatus, readDeployment])) ?_
    rintro _ _ rfl key
    rw [pruned, applied]
    simp [WorkloadSet.objects, WorkloadSet.applied, Function.comp_def]

/-- The labelled objects are settled once: a second pass leaves those the first one left. -/
theorem second_pass_leaves_same :
    Leaves (settleWorkload provider «class» providerNamespace buildNamespace) cluster fun _ once =>
      Leaves (settleWorkload provider «class» providerNamespace buildNamespace) once fun _ twice => ∀ key,
        twice.Labelled (inputsOf provider «class» providerNamespace).selector key ↔
          once.Labelled (inputsOf provider «class» providerNamespace).selector key := by
  refine Secures.mono (leaves_settleWorkload _ _ _ _) fun _ once first => ?_
  refine Secures.mono (leaves_settleWorkload _ _ _ _) fun _ twice second key => ?_
  rw [second, first]
  tauto

/-- Whatever fails on the way, a cleanup that succeeds, and so gives up the finalizer, leaves nothing labelled. -/
theorem cleanup_leaves_nothing : Leaves (cleanup provider providerNamespace) cluster fun _ last =>
    ∀ key, ¬ last.Labelled (ownedBySelector providerNamespace provider.metadata.name) key := by
  refine Secures.bind (leaves_pruneClusterRoleBindings none) fun _ first clusterBindings => ?_
  refine Secures.bind (leaves_pruneNamespaced .deployment (by decide) []) fun _ second deployments => ?_
  refine Secures.bind (leaves_pruneNamespaced .serviceAccount (by decide) []) fun _ third accounts => ?_
  refine Secures.bind (leaves_pruneNamespaced .role (by decide) []) fun _ fourth roles => ?_
  refine Secures.bind (leaves_pruneNamespaced .roleBinding (by decide) []) fun _ last bindings => ?_
  refine Secures.mono (leaves_quiet (by simp)) ?_
  rintro _ _ rfl key labelled
  rw [bindings, roles, accounts, deployments, clusterBindings] at labelled
  obtain ⟨kind, namespaceName, name⟩ := key
  cases kind <;> simp at labelled

theorem leaves_reconcileWith_skipped (skipped : ¬ (missingImage «class» = none ∧ skipReason provider «class» = none)) :
    Leaves (reconcileWith provider providerNamespace buildNamespace (some «class»)) cluster
      fun _ last => last = cluster := by
  rw [reconcileWith]
  split
  · exact Secures.pure rfl
  · exact leaves_quiet (by simp)
  · rename_i image unpaused
    exact absurd ⟨image, unpaused⟩ skipped

variable {provider «class» buildNamespace} in
theorem leaves_reconcileIn (present : provider.metadata.deletionTimestamp = none)
    (found : cluster.classes provider.providerClassRef.name = some «class») {post : Unit → Cluster → Prop}
    (leaves : Leaves (reconcileWith provider providerNamespace buildNamespace (some «class»)) cluster post) :
    Leaves (reconcileIn provider buildNamespace providerNamespace) cluster post := by
  rw [reconcileIn, if_neg (by rw [present]; simp)]
  have got : Leaves (consult (.getClass provider.providerClassRef.name) (Except.mapError Error.kube)) cluster
      fun reply last => last = cluster ∧ reply = some «class» := by
    refine leaves_consult nofun fun value succeeded => ⟨rfl, ?_⟩
    exact (Except.ok.inj succeeded).symm.trans found
  refine Secures.bind (leaves_quiet (by simp)) ?_
  rintro _ _ rfl
  refine Secures.bind got ?_
  rintro _ _ ⟨rfl, rfl⟩
  exact leaves

end

/-- What a pass leaves, after the deliveries it meets. -/
def afterReconcile (provider : Provider) (buildNamespace : String) (deliveries : List Delivery) (cluster : Cluster) :
    Option (Except Error Unit) × Cluster :=
  (reconcile provider buildNamespace).run.attempt clusterBackend deliveries cluster

theorem exact_iff_inPlace {before after : Cluster} {inputs : WorkloadInputs} {buildNamespace : String}
    (left : ∀ key, after.Labelled inputs.selector key ↔
      (key ∈ (buildWorkload inputs buildNamespace).applied ∨ before.Labelled inputs.selector key) ∧ inputs.Keeps key) :
    after.Exact inputs buildNamespace ↔ before.InPlace inputs := by
  constructor
  · intro exact key labelled kept
    have applied := (exact key).mp ((left key).mpr ⟨.inr labelled, kept⟩)
    exact (WorkloadInputs.mem_applied_iff.mp applied).2
  · intro inPlace key
    rw [left]
    constructor
    · rintro ⟨applied | labelled, kept⟩
      · exact applied
      · exact WorkloadInputs.mem_applied_iff.mpr ⟨kept, inPlace key labelled kept⟩
    · exact fun applied => ⟨.inl applied, (WorkloadInputs.mem_applied_iff.mp applied).1⟩

/-- After a pass that succeeds, the labelled objects are those of the workload exactly
when, before it, no labelled object with a name that is kept was in another namespace;
a pass that is to skip the provider changes nothing. -/
theorem workload_exact_iff {provider : Provider} {«class» : ProviderClass} {providerNamespace : String}
    (buildNamespace : String) {deliveries : List Delivery} {cluster : Cluster}
    (namespaced : provider.metadata.namespaceName = some providerNamespace)
    (present : provider.metadata.deletionTimestamp = none)
    (found : cluster.classes provider.providerClassRef.name = some «class»)
    (succeeded : (afterReconcile provider buildNamespace deliveries cluster).1 = some (.ok ())) :
    (afterReconcile provider buildNamespace deliveries cluster).2.Exact
        (inputsOf provider «class» providerNamespace) buildNamespace ↔
      if missingImage «class» = none ∧ skipReason provider «class» = none then
        cluster.InPlace (inputsOf provider «class» providerNamespace)
      else cluster.Exact (inputsOf provider «class» providerNamespace) buildNamespace := by
  have reached {post : Unit → Cluster → Prop}
      (leaves : Leaves (reconcileWith provider providerNamespace buildNamespace (some «class»)) cluster post) :
      post () (afterReconcile provider buildNamespace deliveries cluster).2 := by
    have whole : Leaves (reconcile provider buildNamespace) cluster post := by
      rw [reconcile, namespaced]
      exact leaves_reconcileIn providerNamespace present found leaves
    exact (whole.attempt (@within_always Call Reply _ clusterBackend _ (fun _ _ _ => trivial) _ deliveries
      cluster)).1 () succeeded
  split
  · rename_i applies
    have settled : Leaves (settleWorkload provider «class» providerNamespace buildNamespace) cluster _ :=
      leaves_settleWorkload provider «class» providerNamespace buildNamespace
    have same : reconcileWith provider providerNamespace buildNamespace (some «class») =
        settleWorkload provider «class» providerNamespace buildNamespace := by
      rw [reconcileWith, applies.1, applies.2]
    rw [← same] at settled
    exact exact_iff_inPlace (reached settled)
  · rename_i skips
    rw [reached (leaves_reconcileWith_skipped provider «class» providerNamespace buildNamespace skips)]

/-! ## A class that moves its workloads -/

def siteProvider : Provider where
  metadata := { name := "site", namespaceName := some "tenant", uid := some "p" }
  providerClassRef := ⟨"libvirt"⟩

def libvirtClass (workloadNamespace : Option String) : ProviderClass where
  name := "libvirt"
  spec := { backend := "libvirt", workloadNamespace := workloadNamespace }
  image := some "image"

/-- A cluster with the objects of a provider, and the class as it is now. -/
def withClass (cluster : Cluster) («class» : ProviderClass) : Cluster :=
  { cluster with classes := fun name => if name = «class».name then some «class» else none }

def freshCluster : Cluster := ⟨∅, fun _ => none, fun _ member => absurd member (AList.notMem_empty _)⟩

/-- A first pass in the namespace of the provider, and a second once the class has another. -/
def afterFirst : Cluster :=
  (afterReconcile siteProvider "builds" (List.replicate 30 .answered) (withClass freshCluster (libvirtClass none))).2

def afterMove : Option (Except Error Unit) × Cluster :=
  afterReconcile siteProvider "builds" (List.replicate 30 .answered)
    (withClass afterFirst (libvirtClass (some "workloads")))

theorem deployment_left_behind :
    afterMove.1 = some (.ok ()) ∧
      ¬ afterMove.2.Exact (inputsOf siteProvider (libvirtClass (some "workloads")) "tenant") "builds" := by
  have left : afterMove.1 = some (.ok ()) ∧
      afterMove.2.Labelled (ownedBySelector "tenant" "site")
        ⟨.deployment, some "tenant", "banlieue-provider-libvirt-site"⟩ := by
    decide +kernel
  refine ⟨left.1, fun exact => ?_⟩
  have member := (exact _).mp left.2
  revert member
  decide +kernel

theorem workload_exact_at_first :
    afterFirst.Exact (inputsOf siteProvider (libvirtClass none) "tenant") "builds" := by
  have succeeded : (afterReconcile siteProvider "builds" (List.replicate 30 .answered)
      (withClass freshCluster (libvirtClass none))).1 = some (.ok ()) := by
    decide +kernel
  have found : (withClass freshCluster (libvirtClass none)).classes siteProvider.providerClassRef.name =
      some (libvirtClass none) := by
    decide +kernel
  have applies : missingImage (libvirtClass none) = none ∧ skipReason siteProvider (libvirtClass none) = none := by
    decide +kernel
  have exact := workload_exact_iff "builds" rfl rfl found succeeded
  rw [if_pos applies] at exact
  refine exact.mpr fun key labelled => ?_
  exact absurd labelled.mem (AList.notMem_empty key)

end Banlieue.Operator
