import Banlieue.Operator.Workload

namespace Banlieue.Operator

open Banlieue.Data Banlieue.Api Banlieue.Sdk

/-! # When the workloads of two providers are apart -/

namespace WorkloadInputs

/-- The names of the cluster-scoped objects, and so all others, are not truncated. -/
def Short (inputs : WorkloadInputs) : Prop :=
  (workloadNamePrefix ++ "-" ++ inputs.className ++ "-" ++ inputs.providerNamespace ++ "-" ++
    inputs.providerName).utf8ByteSize ≤ maxNameLen

instance (inputs : WorkloadInputs) : Decidable inputs.Short := Nat.decLe _ _

/-- Class and provider, as they are joined in a name. -/
def joined (inputs : WorkloadInputs) : String := inputs.className ++ "-" ++ inputs.providerName

/-- Class, namespace and provider, as they are joined in a cluster-scoped name. -/
def clusterJoined (inputs : WorkloadInputs) : String :=
  inputs.className ++ "-" ++ inputs.providerNamespace ++ "-" ++ inputs.providerName

/-- The parts of the names of two providers keep their objects apart. -/
structure Apart (first second : WorkloadInputs) : Prop where
  cluster : first.clusterJoined ≠ second.clusterJoined
  named : first.joined = second.joined →
    first.providerNamespace ≠ second.providerNamespace ∧
      first.serviceAccountNamespace ≠ second.serviceAccountNamespace
  imports : first.providerNamespace = second.providerNamespace →
    (first.isExternal = false → first.joined ++ "-import" ≠ second.joined) ∧
      (second.isExternal = false → second.joined ++ "-import" ≠ first.joined)
  pods : first.isExternal = false → second.isExternal = false →
    first.workloadNamespace = second.workloadNamespace → first.providerName ≠ second.providerName

variable {first second : WorkloadInputs} (short : first.Short)

include short

theorem clusterScopedName_eq :
    first.clusterScopedName = workloadNamePrefix ++ "-" ++ first.clusterJoined := by
  rw [clusterScopedName, Sdk.clusterScopedName, truncateWithHash_of_short short, clusterJoined]
  simp only [String.append_assoc]

theorem name_eq : first.name = workloadNamePrefix ++ "-" ++ first.joined := by
  have shorter : (workloadNamePrefix ++ "-" ++ first.className ++ "-" ++ first.providerName).utf8ByteSize ≤
      maxNameLen := by
    refine Nat.le_trans ?_ short
    simp only [String.utf8ByteSize_append]
    omega
  rw [name, workloadName, truncateWithHash_of_short shorter, joined]
  simp only [String.append_assoc]

theorem clusterScopedName_eq_iff (short' : second.Short) :
    first.clusterScopedName = second.clusterScopedName ↔ first.clusterJoined = second.clusterJoined := by
  rw [clusterScopedName_eq short, clusterScopedName_eq short', String.append_right_inj]

theorem name_eq_iff (short' : second.Short) : first.name = second.name ↔ first.joined = second.joined := by
  rw [name_eq short, name_eq short', String.append_right_inj]

theorem importRoleName_eq_iff (short' : second.Short) :
    first.importRoleName = second.name ↔ first.joined ++ "-import" = second.joined := by
  rw [importRoleName, name_eq short, name_eq short', String.append_assoc, String.append_right_inj]

omit short

theorem labels_get (inputs : WorkloadInputs) : inputs.labels.get labelName = some appName ∧
      inputs.labels.get labelProvider = some inputs.providerName := by
  simp only [labels, workloadLabelsFor, workloadLabels, selectorLabels, SortedMap.ofList,
    List.foldl_cons, List.foldl_nil]
  constructor
  · repeat rw [SortedMap.get_insert_of_ne _ _ (by decide)]
    exact SortedMap.get_insert_self ..
  · repeat rw [SortedMap.get_insert_of_ne _ _ (by decide)]
    exact SortedMap.get_insert_self ..

end WorkloadInputs

theorem mem_selectorLabels {provider : String} {entry : String × String} : entry ∈ (selectorLabels provider).entries ↔
      entry = (labelName, appName) ∨ entry = (labelProvider, provider) := by
  have entries : (selectorLabels provider).entries = [(labelName, appName), (labelProvider, provider)] := by
    have after : ¬ labelProvider < labelName := by decide
    have different : labelProvider ≠ labelName := by decide
    simp only [selectorLabels, SortedMap.ofList, List.foldl_cons, List.foldl_nil, SortedMap.insert,
      SortedMap.empty, SortedMap.insertEntry, after, different, if_false]
  rw [entries, List.mem_cons, List.mem_singleton]

theorem selects_iff (first second : WorkloadInputs) : (buildDeployment first).selects (buildDeployment second) ↔
      first.workloadNamespace = second.workloadNamespace ∧ first.providerName = second.providerName := by
  simp only [Deployment.selects, buildDeployment, WorkloadInputs.metadata, Option.some.injEq,
    mem_selectorLabels, forall_eq_or_imp, forall_eq, second.labels_get, true_and]
  exact and_congr_right fun _ => eq_comm

/-- The workloads of two providers have no object in common, and neither takes the
pods of the other. -/
structure Isolated (first second : WorkloadSet) : Prop where
  disjoint : first.applied.Disjoint second.applied
  selectors : ∀ deployment ∈ first.deployment, ∀ other ∈ second.deployment,
    ¬ deployment.selects other ∧ ¬ other.selects deployment

variable {inputs : WorkloadInputs} {buildNamespace : String}

theorem mem_applied {key : ObjectKey} : key ∈ (buildWorkload inputs buildNamespace).applied ↔
      key = ⟨.serviceAccount, some inputs.serviceAccountNamespace, inputs.name⟩ ∨
      key = ⟨.role, some inputs.providerNamespace, inputs.name⟩ ∨
      key = ⟨.roleBinding, some inputs.providerNamespace, inputs.name⟩ ∨ inputs.isExternal = false ∧
        (key = ⟨.role, some inputs.providerNamespace, inputs.importRoleName⟩ ∨
          key = ⟨.roleBinding, some inputs.providerNamespace, inputs.importRoleName⟩) ∨
      key = ⟨.clusterRoleBinding, none, inputs.clusterScopedName⟩ ∨
      inputs.isExternal = false ∧ key = ⟨.deployment, some inputs.workloadNamespace, inputs.name⟩ := by
  cases external : inputs.isExternal <;>
    simp [WorkloadSet.applied, buildWorkload, external, keyOf, buildServiceAccount, buildRole,
      buildRoleBinding, buildClusterRoleBinding, buildImportRole, buildImportRoleBinding,
      buildDeployment, WorkloadInputs.metadata, or_assoc]

theorem mem_deployment {deployment : Deployment} : deployment ∈ (buildWorkload inputs buildNamespace).deployment ↔
      inputs.isExternal = false ∧ deployment = buildDeployment inputs := by
  cases external : inputs.isExternal <;> simp [buildWorkload, external, eq_comm]

section

variable {first second : WorkloadInputs} {buildNamespace : String}

theorem names_apart (short : first.Short) (short' : second.Short) (apart : first.Apart second)
    (same : first.providerNamespace = second.providerNamespace) :
    first.name ≠ second.name ∧ first.importRoleName ≠ second.importRoleName ∧
      (first.isExternal = false → first.importRoleName ≠ second.name) ∧
      (second.isExternal = false → first.name ≠ second.importRoleName) := by
  have different : first.name ≠ second.name := fun equal =>
    (apart.named ((WorkloadInputs.name_eq_iff short short').mp equal)).1 same
  refine ⟨different, fun equal => different ((String.append_left_inj "-import").mp equal),
    fun managed equal => ?_, fun managed equal => ?_⟩
  · exact (apart.imports same).1 managed ((WorkloadInputs.importRoleName_eq_iff short short').mp equal)
  · exact (apart.imports same).2 managed ((WorkloadInputs.importRoleName_eq_iff short' short).mp equal.symm)

theorem disjoint_of_apart (short : first.Short) (short' : second.Short) (apart : first.Apart second) :
    (buildWorkload first buildNamespace).applied.Disjoint (buildWorkload second buildNamespace).applied := by
  have sameName := WorkloadInputs.name_eq_iff short short'
  have names := names_apart short short' apart
  intro key inFirst inSecond
  rw [mem_applied] at inFirst inSecond
  rcases inFirst with rfl | rfl | rfl | ⟨managed, rfl | rfl⟩ | rfl | ⟨managed, rfl⟩ <;>
    simp only [ObjectKey.mk.injEq, reduceCtorEq, Option.some.injEq, false_and, and_false, or_false,
      false_or, true_and] at inSecond
  · exact (apart.named (sameName.mp inSecond.2)).2 inSecond.1
  -- a role, then its binding, of the first provider
  · rcases inSecond with ⟨same, equal⟩ | ⟨managed, same, equal⟩
    · exact (names same).1 equal
    · exact (names same).2.2.2 managed equal
  · rcases inSecond with ⟨same, equal⟩ | ⟨managed, same, equal⟩
    · exact (names same).1 equal
    · exact (names same).2.2.2 managed equal
  -- an import role, then its binding
  · rcases inSecond with ⟨same, equal⟩ | ⟨-, same, equal⟩
    · exact (names same).2.2.1 managed equal
    · exact (names same).2.1 equal
  · rcases inSecond with ⟨same, equal⟩ | ⟨-, same, equal⟩
    · exact (names same).2.2.1 managed equal
    · exact (names same).2.1 equal
  · exact apart.cluster ((WorkloadInputs.clusterScopedName_eq_iff short short').mp inSecond)
  · obtain ⟨managed', same, equal⟩ := inSecond
    apply (apart.named (sameName.mp equal)).2
    simp [WorkloadInputs.serviceAccountNamespace, managed, managed', same]

theorem apart_of_isolated (short : first.Short) (short' : second.Short)
    (isolated : Isolated (buildWorkload first buildNamespace) (buildWorkload second buildNamespace)) :
    first.Apart second := by
  have shared : ∀ key, key ∈ (buildWorkload first buildNamespace).applied →
      key ∉ (buildWorkload second buildNamespace).applied :=
    fun _ inFirst inSecond => isolated.disjoint inFirst inSecond
  simp only [mem_applied] at shared
  constructor
  · intro equal
    have equal := (WorkloadInputs.clusterScopedName_eq_iff short short').mpr equal
    exact shared ⟨.clusterRoleBinding, none, first.clusterScopedName⟩ (by simp) (by simp [equal])
  · intro equal
    have equal := (WorkloadInputs.name_eq_iff short short').mpr equal
    refine ⟨fun same => ?_, fun same => ?_⟩
    · exact shared ⟨.role, some first.providerNamespace, first.name⟩ (by simp) (by simp [equal, same])
    · exact shared ⟨.serviceAccount, some first.serviceAccountNamespace, first.name⟩ (by simp) (by simp [equal, same])
  · intro same
    refine ⟨fun managed equal => ?_, fun managed equal => ?_⟩
    · have equal := (WorkloadInputs.importRoleName_eq_iff short short').mpr equal
      exact shared ⟨.role, some first.providerNamespace, first.importRoleName⟩ (by simp [managed])
        (by simp [equal, same])
    · have equal := (WorkloadInputs.importRoleName_eq_iff short' short).mpr equal
      exact shared ⟨.role, some first.providerNamespace, first.name⟩ (by simp) (by simp [managed, equal, same])
  · intro managed managed' same equal
    have selectors := isolated.selectors _ (mem_deployment.mpr ⟨managed, rfl⟩) _ (mem_deployment.mpr ⟨managed', rfl⟩)
    exact selectors.1 ((selects_iff first second).mpr ⟨same, equal⟩)

theorem isolated_iff_apart (first second : WorkloadInputs) (buildNamespace : String)
    (short : first.Short) (short' : second.Short) :
    Isolated (buildWorkload first buildNamespace) (buildWorkload second buildNamespace) ↔
      first.Apart second := by
  refine ⟨apart_of_isolated short short', fun apart => ⟨disjoint_of_apart short short' apart, ?_⟩⟩
  intro deployment present other present'
  obtain ⟨managed, rfl⟩ := mem_deployment.mp present
  obtain ⟨managed', rfl⟩ := mem_deployment.mp present'
  refine ⟨fun selected => ?_, fun selected => ?_⟩
  · obtain ⟨same, equal⟩ := (selects_iff first second).mp selected
    exact apart.pods managed managed' same equal
  · obtain ⟨same, equal⟩ := (selects_iff second first).mp selected
    exact apart.pods managed managed' same.symm equal.symm

end

/-- Two providers of one class that pins its workloads to one namespace. -/
def pinned (providerNamespace : String) : WorkloadInputs :=
  workloadInputs "vsphere" { backend := "vsphere", workloadNamespace := some "banlieue-system" } "vc"
    providerNamespace (some "uid") (some "vc-credentials") none none

theorem pinned_providers_share_objects :
    (pinned "team-a").Short ∧ (pinned "team-b").Short ∧
      ¬ Isolated (buildWorkload (pinned "team-a") "banlieue-build")
        (buildWorkload (pinned "team-b") "banlieue-build") := by
  have short : (pinned "team-a").Short := by decide +kernel
  have short' : (pinned "team-b").Short := by decide +kernel
  refine ⟨short, short', fun isolated => ?_⟩
  have apart := apart_of_isolated short short' isolated
  exact (apart.named rfl).2 rfl

theorem isolated_in_own_namespaces :
    ∃ first second : WorkloadInputs, first.Short ∧ second.Short ∧
      Isolated (buildWorkload first "banlieue-build") (buildWorkload second "banlieue-build") := by
  refine ⟨workloadInputs "vsphere" { backend := "vsphere" } "vc" "team-a" (some "uid") none none none,
    workloadInputs "vsphere" { backend := "vsphere" } "vc" "team-b" (some "other") none none none,
    by decide +kernel, by decide +kernel, ?_⟩
  refine (isolated_iff_apart _ _ _ (by decide +kernel) (by decide +kernel)).mpr
    ⟨by decide +kernel, fun _ => by decide +kernel, ?_, ?_⟩
  · intro same
    exact absurd same (by decide)
  · intro _ _ same
    exact absurd same (by decide)

end Banlieue.Operator
