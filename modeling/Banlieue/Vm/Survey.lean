import Banlieue.Vm.Discipline

namespace Banlieue.Vm

open Banlieue.Api Banlieue.Data Banlieue.Infra Banlieue.Sdk Banlieue.Scheduler
open Banlieue.Controller (Error Action)

/-! # What a pass finds

A pass that meets no obstacle reads the class, the image, the providers and the
other machines, makes sure that no address is contested, and comes to a decision.
Below, it runs alone and every call of it is answered.
-/

/-- Every call is answered; the store shows the state of that age. -/
def Cluster.answering (age : Nat) (cluster : Cluster) (call : Call) : Reply call × Cluster :=
  cluster.serve ⟨.answered, age⟩ call

/-- A pass, or a part of it, alone on the cluster. -/
def perform {α : Type} (age : Nat) (part : Pass α) (cluster : Cluster) :
    Performance Call Cluster (Except Error α) :=
  part.run.perform (Cluster.answering age) cluster

abbrev Returns {α : Type} (age : Nat) (part : Pass α) (cluster : Cluster)
    (value : α) (last : Cluster) (calls : List Call) : Prop :=
  Program.Returns (Cluster.answering age) part cluster value last calls

section Calls

variable {α : Type} {age : Nat} {cluster : Cluster} {call : Call}

theorem perform_ask_bind (next : Reply call → Pass α) :
    perform age (Pass.ask call >>= next) cluster =
      (perform age (next (cluster.answering age call).1) (cluster.answering age call).2).after [call] := rfl

variable {view : Reply call → Except KubeError α} {wrap : KubeError → Error}
  {value : α} {last : Cluster} {calls : List Call}

theorem returns_require (answered : view (cluster.answering age call).1 = .ok value) :
    Returns age (Pass.require wrap call view) cluster value (cluster.answering age call).2 [call] := by
  change perform age (Pass.ask call >>= fun reply => _) cluster = _
  rw [perform_ask_bind, answered]
  rfl

theorem perform_bind_pure {β : Type} (part : Pass α) (value : β) :
    ∃ result, perform age (part >>= fun _ => pure value) cluster =
      ⟨result, (perform age part cluster).state, (perform age part cluster).calls⟩ := by
  change ∃ result, (part.run >>= ExceptT.bindCont fun _ => pure value).perform _ _ = _
  rw [Program.perform_bind]
  simp only [perform]
  obtain ⟨outcome, last, calls⟩ := part.run.perform (Cluster.answering age) cluster
  cases outcome with
  | ok found => exact ⟨.ok value, congrArg (Performance.mk _ _) (List.append_nil calls)⟩
  | error reason => exact ⟨.error reason, congrArg (Performance.mk _ _) (List.append_nil calls)⟩

theorem perform_require : ∃ result, perform age (Pass.require wrap call view) cluster =
      ⟨result, (cluster.answering age call).2, [call]⟩ := by
  change ∃ result, perform age (Pass.ask call >>= fun reply => _) cluster = _
  rw [perform_ask_bind]
  cases view (cluster.answering age call).1 with
  | ok found => exact ⟨.ok found, rfl⟩
  | error reason => exact ⟨.error (wrap reason), rfl⟩

variable {vm : VirtualMachine}

theorem perform_patchNotReady {current : VirtualMachineStatus}
    {set : Timestamp → List Condition → List Condition} {reason message : String} :
    ∃ result status, perform age (patchNotReady vm current set reason message) cluster =
        ⟨result, (cluster.applyStatus (key vm) status).2, [.now, .applyStatus (key vm) status]⟩ ∧
      status.scheduled = current.scheduled := by
  let status := withConditions current (generationOf vm) fun conditions =>
    setCondition (set cluster.now conditions) ConditionTypes.ready ConditionStatus.false reason message
      (generationOf vm) cluster.now
  let cleared := { status with conditions := clearPaused status.conditions }
  obtain ⟨result, written⟩ : ∃ result, perform age (Pass.applyStatus (key vm) cleared) cluster =
      ⟨result, (cluster.applyStatus (key vm) cleared).2, [.applyStatus (key vm) cleared]⟩ :=
    perform_require
  refine ⟨result, cleared, ?_, rfl⟩
  change (perform age (Pass.applyStatus (key vm) cleared) cluster).after [.now] = _
  rw [written]
  rfl

theorem returns_attempt {part : Pass α} (returned : Returns age part cluster value last calls) :
    Returns age (Pass.attempt part) cluster (.ok value) last calls := by
  change (part.run >>= fun result => Program.done (Except.ok result)).perform _ _ = _
  rw [Program.perform_bind, returned]
  simp only [Program.perform, Performance.after, List.append_nil]

theorem answered_of_returns (returned : Returns age (Pass.require wrap call view) cluster value last calls) :
    view (cluster.answering age call).1 = .ok value ∧ last = (cluster.answering age call).2 := by
  change perform age (Pass.ask call >>= fun reply => _) cluster = _ at returned
  rw [perform_ask_bind] at returned
  cases answered : view (cluster.answering age call).1 with
  | ok found =>
    rw [answered] at returned
    cases returned
    exact ⟨rfl, rfl⟩
  | error reason =>
    rw [answered] at returned
    cases returned

theorem returns_deleteExistingInfra {kind : InfraKind} :
    Returns age (deleteExistingInfra kind vm) cluster () (cluster.deleteInfra kind (key vm)).2
      [.deleteInfra kind (key vm)] := by
  have answered : (cluster.answering age (.deleteInfra kind (key vm))).1 = Except.ok () ∨
      (cluster.answering age (.deleteInfra kind (key vm))).1 = Except.error .notFound := by
    change (cluster.deleteInfra kind (key vm)).1 = .ok () ∨ (cluster.deleteInfra kind (key vm)).1 = .error .notFound
    unfold Cluster.deleteInfra
    split
    · exact .inr rfl
    · split <;> exact .inl rfl
  change perform age (Pass.ask (.deleteInfra kind (key vm)) >>= fun reply => _) cluster = _
  rw [perform_ask_bind]
  rcases answered with deleted | missing
  · rw [deleted]
    rfl
  · rw [missing]
    rfl

theorem answering_plain {reader : VirtualMachine} (plain : call.plain = true ∨ call = .storeState reader) :
    (cluster.answering age call).2 = cluster := by
  rcases plain with plain | rfl
  · cases call with
    | now | getClassOpt | listClasses | getImage | listVms | getInfra | getSecret | getConfigMap => rfl
    | patchFinalizers | getClass | listProviders | storeState | applyInfra | deleteInfra
    | patchInfraPower | applyStatus => contradiction
  · rfl

theorem state_of_contestedAddress {context : Context} {vmClass : VMClass} {found : Option DuplicateAddress}
    (returned : Returns age (contestedAddress context vm vmClass) cluster found last calls) : last = cluster := by
  have reads : Program.Makes (fun call : Call => call.plain = true ∨ call = .storeState vm)
      (contestedAddress context vm vmClass).run :=
    (heeds_contestedAddress (fun _ plain => .inl plain) (.inr rfl)).makes
  have same : (perform age (contestedAddress context vm vmClass) cluster).state = cluster :=
    reads.state (fun _ _ => answering_plain) cluster
  rw [perform, returned] at same
  exact same

end Calls

/-! ## The way to a decision -/

structure Survey (context : Context) (age : Nat) (cluster : Cluster) (vm : VirtualMachine) where
  namespaceName : String
  vmClass : VMClass
  image : VMImage
  decision : Decision
  provider : Provider
  kind : InfraKind
  /-- The cluster once the finalizer is on the machine. -/
  ensured : Cluster
  ensureCalls : List Call
  checkCalls : List Call
  inNamespace : vm.metadata.namespaceName = some namespaceName
  active : vm.spec.paused = false
  kept : vm.deleting = false
  ensures : Returns age (Pass.ensureFinalizer vm vmFinalizer) cluster () ensured ensureCalls
  classFound : ensured.classNamed vm.spec.classRef.name = some vmClass
  imageFound : ensured.imageNamed vm.spec.imageRef.name = some image
  paired : pairingRefusal context vmClass image = none
  checks : Returns age (contestedAddress context vm vmClass) ensured none ensured checkCalls
  decided : schedule ⟨vm, vmClass, image, ensured.providersIn namespaceName,
    ensured.vmsIn namespaceName, ensured.classes⟩ = .ok decision
  chosen : ((ensured.providersIn namespaceName).find? fun found =>
    found.name == decision.providerName) = some provider
  buildable : InfraKind.fromProviderClass decision.providerClass = some kind

namespace Survey

variable {context : Context} {age : Nat} {cluster : Cluster} {vm : VirtualMachine}
  (survey : Survey context age cluster vm)

/-- What the scheduler was given. -/
def inputs : Inputs :=
  ⟨vm, survey.vmClass, survey.image, survey.ensured.providersIn survey.namespaceName,
    survey.ensured.vmsIn survey.namespaceName, survey.ensured.classes⟩

/-- The calls made on the way. -/
def calls : List Call :=
  survey.ensureCalls ++
    ([Call.getClass vm.spec.classRef.name, Call.getImage vm.spec.imageRef.name,
      Call.listProviders survey.namespaceName, Call.listVms survey.namespaceName] ++
    (survey.checkCalls ++ [Call.listClasses]))

/-- What the pass does with the decision it comes to. -/
def settle : Pass Action :=
  settlePlacement context survey.namespaceName vm survey.vmClass survey.image survey.decision
    survey.provider survey.kind

theorem perform_placeVm : perform age (placeVm context survey.namespaceName vm survey.vmClass survey.image
        survey.inputs.providers survey.inputs.existingVms) survey.ensured =
      (perform age survey.settle survey.ensured).after [.listClasses] := by
  have listed : Returns age (Pass.require .kube .listClasses id) survey.ensured
      survey.ensured.classes survey.ensured [.listClasses] := returns_require rfl
  have decided : schedule ⟨vm, survey.vmClass, survey.image, survey.inputs.providers,
      survey.inputs.existingVms, survey.ensured.classes⟩ = .ok survey.decision := survey.decided
  have chosen : (survey.inputs.providers.find? fun found =>
      found.name == survey.decision.providerName) = some survey.provider := survey.chosen
  rw [placeVm, perform, listed.perform_bind]
  simp only [decided, chosen, survey.buildable]
  rfl

theorem perform_reconcile : perform age (reconcile context vm) cluster =
      (perform age survey.settle survey.ensured).after survey.calls := by
  have readClass : Returns age (Pass.require .kube (.getClass vm.spec.classRef.name) id)
      survey.ensured survey.vmClass survey.ensured [.getClass vm.spec.classRef.name] :=
    returns_require (congrArg Cluster.found survey.classFound)
  have readImage : Returns age (Pass.require .kube (.getImage vm.spec.imageRef.name) id)
      survey.ensured survey.image survey.ensured [.getImage vm.spec.imageRef.name] :=
    returns_require (congrArg Cluster.found survey.imageFound)
  have readProviders : Returns age (Pass.require .kube (.listProviders survey.namespaceName) id)
      survey.ensured survey.inputs.providers survey.ensured [.listProviders survey.namespaceName] :=
    returns_require rfl
  have readVms : Returns age (Pass.require .kube (.listVms survey.namespaceName) id)
      survey.ensured survey.inputs.existingVms survey.ensured [.listVms survey.namespaceName] :=
    returns_require rfl
  simp only [reconcile, survey.inNamespace, survey.active, survey.kept, Bool.false_eq_true, if_false, perform]
  rw [survey.ensures.perform_bind, readClass.perform_bind, readImage.perform_bind,
    readProviders.perform_bind, readVms.perform_bind]
  simp only [survey.paired]
  rw [survey.checks.perform_bind]
  have placed := survey.perform_placeVm
  rw [perform] at placed
  simp only [placed, Performance.after, calls, List.append_assoc, List.cons_append, List.nil_append]
  rfl

end Survey

/-! ## Calls on the way -/

/-- Calls that touch neither infra machines nor a status. -/
def Call.preliminary : Call → Bool
  | .applyInfra _ _ | .deleteInfra _ _ | .patchInfraPower _ _ _ | .applyStatus _ _ => false
  | _ => true

theorem Call.preliminary_of_plain {call : Call} (plain : call.plain = true) : call.preliminary = true := by
  cases call <;> first | rfl | contradiction

theorem Survey.preliminary_calls {context : Context} {age : Nat} {cluster : Cluster}
    {vm : VirtualMachine} (survey : Survey context age cluster vm) :
    ∀ call ∈ survey.calls, call.preliminary = true := by
  have ensures : Program.Makes (fun call : Call => call.preliminary = true)
      (Pass.ensureFinalizer vm vmFinalizer).run := (heeds_patchFinalizers fun _ => rfl).makes
  have checks : Program.Makes (fun call : Call => call.preliminary = true)
      (contestedAddress context vm survey.vmClass).run :=
    (heeds_contestedAddress (fun _ => Call.preliminary_of_plain) rfl).makes
  have ensured := ensures.calls (Cluster.answering age) cluster
  have checked := checks.calls (Cluster.answering age) survey.ensured
  rw [survey.ensures] at ensured
  rw [survey.checks] at checked
  intro call member
  simp only [calls, List.mem_append, List.mem_cons, List.not_mem_nil, or_false] at member
  rcases member with first | (rfl | rfl | rfl | rfl) | check | rfl
  · exact ensured call first
  · rfl
  · rfl
  · rfl
  · rfl
  · exact checked call check
  · rfl

end Banlieue.Vm
