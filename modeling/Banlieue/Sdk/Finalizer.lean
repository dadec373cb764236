import Mathlib.Data.List.Basic

namespace Banlieue.Sdk

/-! # Finalizers patched from a cached copy -/

/-- The list a patch sends to add `finalizer`, if it is not there yet. -/
def finalizerListWith (current : List String) (finalizer : String) : Option (List String) :=
  if current.any (· == finalizer) then none else some (current ++ [finalizer])

/-- The list a patch sends to remove `finalizer`, if it is there. -/
def finalizerListWithout (current : List String) (finalizer : String) : Option (List String) :=
  let next := current.filter (· != finalizer)
  if next.length == current.length then none else some next

variable {finalizer : String} {current next cached : List String}

theorem finalizerListWith_eq_some (patched : finalizerListWith current finalizer = some next) :
    finalizer ∉ current ∧ next = current ++ [finalizer] := by
  simp only [finalizerListWith] at patched
  split at patched
  · contradiction
  · rename_i missing
    cases patched
    exact ⟨by simpa using missing, rfl⟩

theorem finalizerListWithout_eq (current : List String) : finalizerListWithout current finalizer =
    if finalizer ∈ current then some (current.filter (· != finalizer)) else none := by
  have unchanged : (current.filter (· != finalizer)).length = current.length ↔ finalizer ∉ current := by
    simp [List.length_filter_eq_length_iff, List.forall_mem_ne']
  simp [finalizerListWithout, unchanged]

theorem finalizerListWithout_eq_some (patched : finalizerListWithout current finalizer = some next) :
    next = current.filter (· != finalizer) := by
  rw [finalizerListWithout_eq] at patched
  exact (Option.some.inj (Option.ite_none_right_eq_some.mp patched).2).symm

inductive Operation where
  | ensure | remove
deriving DecidableEq

/-- What a call sends when its cached copy shows `cached`. -/
def Operation.patch (operation : Operation) (cached : List String) (finalizer : String) :
    Option (List String) :=
  match operation with
  | .ensure => finalizerListWith cached finalizer
  | .remove => finalizerListWithout cached finalizer

theorem Operation.mem_patch_iff {operation : Operation}
    {other : String} (patched : operation.patch cached finalizer = some next)
    (different : other ≠ finalizer) : other ∈ next ↔ other ∈ cached := by
  cases operation with
  | ensure =>
    rw [(finalizerListWith_eq_some patched).2]
    simp [different]
  | remove =>
    rw [finalizerListWithout_eq_some patched]
    simp [different]

theorem Operation.ensure_keeps (patched : Operation.ensure.patch cached finalizer = some next) : finalizer ∈ next := by
  rw [(finalizerListWith_eq_some patched).2]
  simp

theorem Operation.remove_drops (patched : Operation.remove.patch cached finalizer = some next) : finalizer ∉ next := by
  rw [finalizerListWithout_eq_some patched]
  simp

/-! ## One object and its controllers -/

/-- The object as the API server holds it. -/
structure Held where
  finalizers : List String
  deleting : Bool
deriving DecidableEq

/-- The object, if it still exists, and every finalizer list a cache may show. -/
structure Shared where
  live : Option Held
  history : List (List String)
deriving DecidableEq

/-- An object that is being deleted disappears with its last finalizer. -/
def Held.settle (held : Held) : Option Held :=
  if held.deleting && held.finalizers.isEmpty then none else some held

/-- A merge patch replaces the whole list; an object that is being deleted takes
no new finalizer. -/
def Held.accepts (held : Held) (next : List String) : Bool :=
  !held.deleting || next.all held.finalizers.contains

def Shared.put (shared : Shared) (held : Held) : Shared :=
  { live := held.settle, history := shared.history ++ [held.finalizers] }

inductive Event where
  /-- A controller calls from the cached copy of that version. -/
  | call (finalizer : String) (operation : Operation) (version : Nat)
  /-- Somebody deletes the object. -/
  | delete
deriving DecidableEq

/-- What the call would write: its copy asks for a patch that the API server
accepts for the object as it is. -/
def Shared.write (shared : Shared) (finalizer : String) (operation : Operation) (version : Nat) :
    Option Held := do
  let cached ← shared.history[version]?
  let next ← operation.patch cached finalizer
  let held ← shared.live
  if held.accepts next then some { held with finalizers := next } else none

/-- A call that has nothing to patch, or whose patch is rejected, changes nothing. -/
def Shared.step (shared : Shared) : Event → Shared
  | .call finalizer operation version =>
    ((shared.write finalizer operation version).map shared.put).getD shared
  | .delete =>
    (shared.live.map fun held => shared.put { held with deleting := true }).getD shared

def Shared.exec (shared : Shared) (events : List Event) : Shared :=
  events.foldl Shared.step shared

def Shared.Present (shared : Shared) (finalizer : String) : Prop :=
  ∃ held ∈ shared.live, finalizer ∈ held.finalizers

/-! ## Whose finalizers a call changes -/

/-- A call that writes does so from a copy that shows the other controllers'
finalizers as they are. -/
def Event.Agrees (shared : Shared) : Event → Prop
  | .call finalizer operation version =>
    (shared.write finalizer operation version).isSome →
      ∀ cached ∈ shared.history[version]?, ∀ other, other ≠ finalizer →
        (other ∈ cached ↔ shared.Present other)
  | .delete => True

/-- Every call of the run agrees with the state it meets. -/
def Shared.Agreeing : Shared → List Event → Prop
  | _, [] => True
  | shared, event :: rest => event.Agrees shared ∧ (shared.step event).Agreeing rest

section Steps

variable {shared : Shared} {finalizer other : String} {operation : Operation} {version : Nat}
  {held : Held}

theorem present_put : (shared.put held).Present other ↔ other ∈ held.finalizers := by
  simp only [Shared.Present, Shared.put, Held.settle]
  split
  · rename_i emptied
    have none_left : held.finalizers = [] := by
      simp only [Bool.and_eq_true, List.isEmpty_iff] at emptied
      exact emptied.2
    simp [none_left]
  · simp

theorem write_eq_some (written : shared.write finalizer operation version = some held) :
    ∃ cached, shared.history[version]? = some cached ∧ operation.patch cached finalizer = some held.finalizers := by
  simp only [Shared.write, Option.bind_eq_bind, Option.bind_eq_some_iff] at written
  obtain ⟨cached, read, next, patched, before, _, accepted⟩ := written
  split at accepted
  · cases accepted
    exact ⟨cached, read, patched⟩
  · contradiction

theorem step_call_of_none (idle : shared.write finalizer operation version = none) :
    shared.step (.call finalizer operation version) = shared := by
  simp [Shared.step, idle]

theorem step_call_of_some (written : shared.write finalizer operation version = some held) :
    shared.step (.call finalizer operation version) = shared.put held := by
  simp [Shared.step, written]

theorem present_step_delete : (shared.step .delete).Present other ↔ shared.Present other := by
  cases live : shared.live with
  | none => simp [Shared.step, live]
  | some held =>
    have put : shared.step .delete = shared.put { held with deleting := true } := by
      simp [Shared.step, live]
    rw [put, present_put]
    simp [Shared.Present, live]

theorem call_keeps_others_iff : (∀ other, other ≠ finalizer →
      ((shared.step (.call finalizer operation version)).Present other ↔ shared.Present other)) ↔
      (Event.call finalizer operation version).Agrees shared := by
  cases written : shared.write finalizer operation version with
  | none =>
    rw [step_call_of_none written]
    simp [Event.Agrees, written]
  | some held =>
    obtain ⟨cached, read, patched⟩ := write_eq_some written
    rw [step_call_of_some written]
    simp only [Event.Agrees, written, Option.isSome_some, forall_const, read, Option.mem_def,
      Option.some.injEq, forall_eq', present_put]
    refine forall_congr' fun other => forall_congr' fun different => ?_
    rw [Operation.mem_patch_iff patched different]

theorem present_step_own (present : shared.Present finalizer) (kept : operation ≠ .remove) :
    (shared.step (.call finalizer operation version)).Present finalizer := by
  cases written : shared.write finalizer operation version with
  | none =>
    rw [step_call_of_none written]
    exact present
  | some held =>
    obtain ⟨cached, _, patched⟩ := write_eq_some written
    rw [step_call_of_some written, present_put]
    cases operation with
    | ensure => exact Operation.ensure_keeps patched
    | remove => contradiction

theorem absent_step_own (absent : ¬ shared.Present finalizer) (kept : operation ≠ .ensure) :
    ¬ (shared.step (.call finalizer operation version)).Present finalizer := by
  cases written : shared.write finalizer operation version with
  | none =>
    rw [step_call_of_none written]
    exact absent
  | some held =>
    obtain ⟨cached, _, patched⟩ := write_eq_some written
    rw [step_call_of_some written, present_put]
    cases operation with
    | ensure => contradiction
    | remove => exact Operation.remove_drops patched

theorem step_owned {event : Event} (finalizer : String) (agrees : event.Agrees shared) :
    (shared.Present finalizer → (∀ version, event ≠ .call finalizer .remove version) →
      (shared.step event).Present finalizer) ∧
    (¬ shared.Present finalizer → (∀ version, event ≠ .call finalizer .ensure version) →
      ¬ (shared.step event).Present finalizer) := by
  cases event with
  | delete =>
    rw [present_step_delete]
    exact ⟨fun present _ => present, fun absent _ => absent⟩
  | call owner operation version =>
    by_cases own : owner = finalizer
    · subst own
      refine ⟨fun present untouched => present_step_own present ?_, fun absent untouched => absent_step_own absent ?_⟩
      · rintro rfl
        exact untouched version rfl
      · rintro rfl
        exact untouched version rfl
    · have unchanged := call_keeps_others_iff.mpr agrees finalizer (Ne.symm own)
      exact ⟨fun present _ => unchanged.mpr present, fun absent _ => mt unchanged.mp absent⟩

end Steps

/-- A finalizer is present until its own controller removes it, and absent until
its own controller adds it, over every run whose calls agree with the object. -/
theorem exec_owned (events : List Event) : ∀ shared : Shared, shared.Agreeing events → ∀ finalizer,
      (shared.Present finalizer → (∀ version, .call finalizer .remove version ∉ events) →
        (shared.exec events).Present finalizer) ∧
      (¬ shared.Present finalizer → (∀ version, .call finalizer .ensure version ∉ events) →
        ¬ (shared.exec events).Present finalizer) := by
  induction events with
  | nil => exact fun _ _ _ => ⟨fun present _ => present, fun absent _ => absent⟩
  | cons event rest ih =>
    intro shared agreeing finalizer
    obtain ⟨first, later⟩ := agreeing
    obtain ⟨keeps, stays⟩ := step_owned finalizer first
    obtain ⟨restKeeps, restStays⟩ := ih (shared.step event) later finalizer
    refine ⟨fun present untouched => restKeeps (keeps present ?_) ?_,
      fun absent untouched => restStays (stays absent ?_) ?_⟩
    · rintro version rfl
      exact untouched version List.mem_cons_self
    · intro version member
      exact untouched version (List.mem_cons_of_mem _ member)
    · rintro version rfl
      exact untouched version List.mem_cons_self
    · intro version member
      exact untouched version (List.mem_cons_of_mem _ member)

theorem agreeing_append {before after : List Event} {shared : Shared} : shared.Agreeing (before ++ after) ↔
      shared.Agreeing before ∧ (shared.exec before).Agreeing after := by
  induction before generalizing shared with
  | nil => simp [Shared.Agreeing, Shared.exec]
  | cons event rest ih =>
    rw [List.cons_append, Shared.Agreeing, Shared.Agreeing, ih, and_assoc]
    rfl

theorem exec_append (shared : Shared) (before after : List Event) :
    shared.exec (before ++ after) = (shared.exec before).exec after :=
  List.foldl_append

/-- In every run whose calls agree with the object they meet, no call touches
another controller's finalizer, and between any two points of the run a finalizer
comes and goes only by its owner. -/
theorem finalizers_owned (shared : Shared) (events : List Event) (agreeing : shared.Agreeing events) :
    (∀ before finalizer operation version after,
      events = before ++ .call finalizer operation version :: after →
        ∀ other, other ≠ finalizer →
          (((shared.exec before).step (.call finalizer operation version)).Present other ↔
            (shared.exec before).Present other)) ∧
    ∀ before during after, events = before ++ (during ++ after) → ∀ finalizer,
      ((shared.exec before).Present finalizer →
        (∀ version, .call finalizer .remove version ∉ during) →
          (shared.exec (before ++ during)).Present finalizer) ∧
      (¬ (shared.exec before).Present finalizer →
        (∀ version, .call finalizer .ensure version ∉ during) →
          ¬ (shared.exec (before ++ during)).Present finalizer) := by
  constructor
  · intro before finalizer operation version after split
    subst split
    obtain ⟨_, agrees, _⟩ := agreeing_append.mp agreeing
    exact call_keeps_others_iff.mpr agrees
  · intro before during after split finalizer
    subst split
    obtain ⟨_, rest⟩ := agreeing_append.mp agreeing
    rw [exec_append]
    exact exec_owned during _ (agreeing_append.mp rest).1 finalizer

/-! ## Two controllers that start together -/

def unclaimed : Shared := { live := some { finalizers := [], deleting := false }, history := [[]] }

/-- Both controllers read the object before either has written: the second patch
takes the first one's finalizer off. -/
theorem second_ensure_drops_first :
    (unclaimed.exec [.call "a" .ensure 0]).Present "a" ∧
      ¬ (unclaimed.exec [.call "a" .ensure 0, .call "b" .ensure 0]).Present "a" := by
  constructor
  · exact ⟨_, rfl, List.mem_singleton.mpr rfl⟩
  · rintro ⟨held, live, member⟩
    cases live
    simp at member

/-- The second controller reads the first one's write: both finalizers stay. -/
theorem finalizers_owned_in_turn :
    (unclaimed.exec [.call "a" .ensure 0, .call "b" .ensure 1]).Present "a" := by
  have agreeing : unclaimed.Agreeing [.call "a" .ensure 0, .call "b" .ensure 1] := by
    refine ⟨?_, ?_, trivial⟩
    · intro _ cached read other _
      cases read
      simp [Shared.Present, unclaimed]
    · intro _ cached read other _
      cases read
      have live : (unclaimed.step (.call "a" .ensure 0)).live =
          some { finalizers := ["a"], deleting := false } := rfl
      simp [Shared.Present, live]
  have owned := (finalizers_owned unclaimed _ agreeing).2 [.call "a" .ensure 0] [.call "b" .ensure 1] []
    rfl "a"
  refine owned.1 ⟨_, rfl, List.mem_singleton.mpr rfl⟩ ?_
  simp

end Banlieue.Sdk
