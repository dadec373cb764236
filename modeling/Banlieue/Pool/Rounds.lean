import Mathlib.Logic.Relation
import Banlieue.Pool.Plan

namespace Banlieue.Pool

/-! # Rounds of the planner

In a round the plan is carried out, and then members change as they may: they
become Ready, time out, are claimed, start or finish deleting.
-/

section Counting

variable {inputs : PoolInputs} {members : List MemberView}

/-! ## Sizes -/

theorem sizing_deletes_le (inputs : PoolInputs) (claimed provisioning fresh stale : Nat) :
    (sizing inputs claimed provisioning fresh stale).scaleDown ≤ fresh ∧
      (sizing inputs claimed provisioning fresh stale).replace +
        (sizing inputs claimed provisioning fresh stale).trade ≤ stale := by
  simp only [sizing]
  generalize inputs.warmReplicas - min fresh inputs.warmReplicas = needed
  generalize min (needed - provisioning) (inputs.maxSurge - provisioning) - _ = lacking
  omega

/-- What is left alive, and what is being built, once a plan that creates members
has been carried out. -/
theorem sizing_bounds {claimed provisioning fresh stale : Nat}
    (creates : 0 < (sizing inputs claimed provisioning fresh stale).create) :
    claimed + provisioning + (fresh - (sizing inputs claimed provisioning fresh stale).scaleDown) +
        (stale - ((sizing inputs claimed provisioning fresh stale).replace +
          (sizing inputs claimed provisioning fresh stale).trade)) +
        (sizing inputs claimed provisioning fresh stale).create ≤ inputs.maxReplicas ∧
      provisioning + (sizing inputs claimed provisioning fresh stale).create ≤ inputs.maxSurge := by
  have freshKept : fresh - (fresh - inputs.warmReplicas) = min fresh inputs.warmReplicas := by
    omega
  simp only [sizing, freshKept] at creates ⊢
  generalize min fresh inputs.warmReplicas = kept at creates ⊢
  have staleKept := Nat.min_le_left stale (inputs.warmReplicas - kept)
  generalize min stale (inputs.warmReplicas - kept) = covered at creates staleKept ⊢
  generalize min (_ - (inputs.maxReplicas - _)) covered = trade at creates ⊢
  have remaining : stale - (stale - covered + trade) = covered - trade := by omega
  rw [remaining]
  -- Only with room is anything created, and then the room is what the bound leaves.
  omega

/-! ## Whom a plan deletes, and how often -/

def planSizing (inputs : PoolInputs) (members : List MemberView) : Sizing :=
  sizing inputs (count members .claimed)
    ((provisioners members).filter (!timedOut inputs ·)).length
    (freshReady inputs members).length (staleReady inputs members).length

/-- Ready, or provisioning for too long. -/
def deletable (inputs : PoolInputs) (member : MemberView) : Bool :=
  member.phase == .ready || member.phase == .provisioning && timedOut inputs member

def deletedMembers (inputs : PoolInputs) (members : List MemberView) : List MemberView :=
  (provisioners members).filter (timedOut inputs) ++
    ((freshReady inputs members).take (planSizing inputs members).scaleDown ++
      ((staleReady inputs members).take
        ((planSizing inputs members).replace + (planSizing inputs members).trade)).map Prod.fst)

theorem plan_delete_names :
    (plan inputs members).delete.map Prod.fst = (deletedMembers inputs members).map (·.name) := by
  simp only [plan, deletedMembers, planSizing, List.map_append, List.map_map, List.append_assoc,
    List.take_add, Function.comp_def, deletion]

variable (inputs members) in
theorem perm_freshReady_append_staleReady :
    (freshReady inputs members ++ (staleReady inputs members).map Prod.fst).Perm
      (members.filter (·.phase == .ready)) := by
  have fresh : (freshReady inputs members).Perm
      ((members.filter (·.phase == .ready)).filter fun member =>
        (staleReason inputs member).isNone) := by
    refine (List.perm_insertionSort _ _).trans ?_
    rw [List.filter_filter]
    exact .of_eq (List.filter_congr fun member _ => Bool.and_comm ..)
  have stale : ((staleReady inputs members).map Prod.fst).Perm
      ((members.filter (·.phase == .ready)).filter fun member =>
        !(staleReason inputs member).isNone) := by
    refine ((List.perm_insertionSort _ _).map Prod.fst).trans (.of_eq ?_)
    generalize members.filter (·.phase == .ready) = ready
    induction ready with
    | nil => rfl
    | cons member rest ih =>
      cases reason : staleReason inputs member with
      | none => simpa [reason] using ih
      | some reason => simpa [reason] using ih
  exact (fresh.append stale).trans (List.filter_append_perm _ _)

def candidates (inputs : PoolInputs) (members : List MemberView) : List MemberView :=
  (provisioners members).filter (timedOut inputs) ++
    (freshReady inputs members ++ (staleReady inputs members).map Prod.fst)

theorem perm_candidates : (candidates inputs members).Perm (members.filter (deletable inputs)) := by
  refine ((perm_freshReady_append_staleReady inputs members).append_left _).trans ?_
  refine List.Perm.trans (.of_eq ?_)
    (List.filter_append_perm (fun member : MemberView => member.phase == .provisioning) _)
  simp only [provisioners, List.filter_filter]
  congr 1
  · apply List.filter_congr
    intro member _
    cases phase : member.phase <;> cases late : timedOut inputs member <;>
      simp only [deletable, phase, late] <;> rfl
  · apply List.filter_congr
    intro member _
    cases phase : member.phase <;> cases late : timedOut inputs member <;>
      simp only [deletable, phase, late] <;> rfl

theorem deletedMembers_sublist : (deletedMembers inputs members).Sublist (candidates inputs members) :=
  (List.Sublist.refl _).append ((List.take_sublist _ _).append ((List.take_sublist _ _).map _))

theorem mem_deletedMembers {member : MemberView} (deleted : member ∈ deletedMembers inputs members) :
    member ∈ members ∧ deletable inputs member = true :=
  List.mem_filter.mp (perm_candidates.subset (deletedMembers_sublist.subset deleted))

theorem deletedMembers_distinct (distinct : (members.map (·.name)).Nodup) :
    ((deletedMembers inputs members).map (·.name)).Nodup := by
  have candidatesDistinct : ((candidates inputs members).map (·.name)).Nodup := by
    rw [(perm_candidates.map _).nodup_iff]
    exact (List.filter_sublist.map _).nodup distinct
  exact (deletedMembers_sublist.map _).nodup candidatesDistinct

theorem perm_deletedMembers (distinct : (members.map (·.name)).Nodup) :
    ((members.filter (·.phase != .deleting)).filter fun member =>
      ((plan inputs members).delete.map Prod.fst).contains member.name).Perm (deletedMembers inputs members) := by
  have nodup := List.Nodup.of_map _ distinct
  have deletedNodup : (deletedMembers inputs members).Nodup := List.Nodup.of_map _ (deletedMembers_distinct distinct)
  rw [List.perm_ext_iff_of_nodup ((nodup.filter _).filter _) deletedNodup, plan_delete_names]
  intro member
  simp only [List.mem_filter, List.contains_iff_mem, List.mem_map]
  constructor
  · rintro ⟨⟨listed, _⟩, other, deleted, same⟩
    obtain rfl := List.inj_on_of_nodup_map distinct (mem_deletedMembers deleted).1 listed same
    exact deleted
  · intro deleted
    obtain ⟨listed, allowed⟩ := mem_deletedMembers deleted
    refine ⟨⟨listed, ?_⟩, member, deleted, rfl⟩
    cases phase : member.phase <;> simp_all [deletable]

/-! ## How many there are -/

theorem length_not_deleting (members : List MemberView) : (members.filter (·.phase != .deleting)).length =
      count members .claimed + (provisioners members).length + (members.filter (·.phase == .ready)).length := by
  induction members with
  | nil => rfl
  | cons member rest ih =>
    simp only [count, provisioners, List.filter_cons] at ih ⊢
    cases phase : member.phase <;> simp <;> omega

theorem length_deletedMembers : (deletedMembers inputs members).length =
      ((provisioners members).filter (timedOut inputs)).length + (planSizing inputs members).scaleDown +
        ((planSizing inputs members).replace + (planSizing inputs members).trade) := by
  have bounds := sizing_deletes_le inputs (count members .claimed)
    ((provisioners members).filter (!timedOut inputs ·)).length
    (freshReady inputs members).length (staleReady inputs members).length
  simp only [deletedMembers, planSizing, List.length_append, List.length_map, List.length_take]
  omega

theorem length_plan_create_le : (plan inputs members).create.length ≤ (planSizing inputs members).create := by
  simp only [plan]
  split
  · rw [List.length_map, drawAddresses_eq]
    exact List.length_take_le _ _
  · rw [List.length_replicate]
    exact Nat.le_refl _

end Counting

/-! ## Carrying a plan out -/

def markDeleting (deleted : List String) (member : MemberView) : MemberView :=
  if deleted.contains member.name then { member with phase := .deleting } else member

def newMember (inputs : PoolInputs) (created : String × NewMember) : MemberView where
  name := created.1
  phase := .provisioning
  ageSecs := 0
  readyForSecs := 0
  imageRevision := inputs.currentImageRevision
  address := created.2.address

/-- The members right after the plan: those it deletes are deleting, and those it
creates have the names the API server gave them. -/
def carriedOut (inputs : PoolInputs) (members : List MemberView) (names : List String) :
    List MemberView :=
  members.map (markDeleting ((plan inputs members).delete.map Prod.fst)) ++
    (names.zip (plan inputs members).create).map (newMember inputs)

/-- Generated names: one for each created member, different from each other and from
the names in use. -/
structure FreshNames (inputs : PoolInputs) (members : List MemberView) (names : List String) :
    Prop where
  enough : names.length = (plan inputs members).create.length
  distinct : names.Nodup
  unused : ∀ name ∈ names, name ∉ members.map (·.name)

/-- Members keep their names, and may change in any way or be gone. -/
def Evolves (before after : List MemberView) : Prop :=
  ∃ change : MemberView → Option MemberView,
    (∀ member changed, change member = some changed → changed.name = member.name) ∧
      after = before.filterMap change

/-- The inputs of one pass: the spec stays, the image's current build may not. -/
def withRevision (spec : PoolInputs) (revision : String) : PoolInputs :=
  { spec with currentImageRevision := revision }

def Round (spec : PoolInputs) (before after : List MemberView) : Prop :=
  ∃ revision names, FreshNames (withRevision spec revision) before names ∧
    Evolves (carriedOut (withRevision spec revision) before names) after

section Rounds

variable {inputs spec : PoolInputs} {members before after : List MemberView} {names : List String}

@[simp] theorem markDeleting_name (deleted : List String) (member : MemberView) :
    (markDeleting deleted member).name = member.name := by
  unfold markDeleting
  split <;> rfl

theorem carriedOut_names (fresh : FreshNames inputs members names) :
    (carriedOut inputs members names).map (·.name) = members.map (·.name) ++ names := by
  have created : (names.zip (plan inputs members).create).map Prod.fst = names := List.map_fst_zip fresh.enough.le
  simp only [carriedOut, List.map_append, List.map_map, Function.comp_def, markDeleting_name]
  exact congrArg _ created

theorem carriedOut_distinct (distinct : (members.map (·.name)).Nodup) (fresh : FreshNames inputs members names) :
    ((carriedOut inputs members names).map (·.name)).Nodup := by
  rw [carriedOut_names fresh, List.nodup_append]
  refine ⟨distinct, fresh.distinct, ?_⟩
  rintro name used _ created rfl
  exact fresh.unused name created used

theorem Evolves.distinct (evolves : Evolves before after)
    (distinct : (before.map (·.name)).Nodup) : (after.map (·.name)).Nodup := by
  obtain ⟨change, keeps, rfl⟩ := evolves
  refine List.Sublist.nodup ?_ distinct
  clear distinct
  induction before with
  | nil => exact .slnil
  | cons member rest ih =>
    cases changed : change member with
    | none => simpa [changed] using ih.cons member.name
    | some result =>
      have same := keeps member result changed
      simpa [changed, same] using ih.cons_cons member.name

theorem Round.distinct (round : Round spec before after)
    (distinct : (before.map (·.name)).Nodup) : (after.map (·.name)).Nodup := by
  obtain ⟨revision, names, fresh, evolves⟩ := round
  exact evolves.distinct (carriedOut_distinct distinct fresh)

theorem distinct_of_rounds (distinct : (before.map (·.name)).Nodup)
    (run : Relation.ReflTransGen (Round spec) before after) : (after.map (·.name)).Nodup := by
  induction run with
  | refl => exact distinct
  | tail _ round ih => exact round.distinct ih

/-! ## What a plan leaves -/

theorem length_created (fresh : FreshNames inputs members names) :
    ((names.zip (plan inputs members).create).map (newMember inputs)).length = (plan inputs members).create.length := by
  rw [List.length_map, List.length_zip, fresh.enough, Nat.min_self]

theorem length_markDeleting (deleted : List String) (members : List MemberView) :
    ((members.map (markDeleting deleted)).filter (·.phase != .deleting)).length +
        ((members.filter (·.phase != .deleting)).filter fun member => deleted.contains member.name).length =
      (members.filter (·.phase != .deleting)).length := by
  have split := List.length_eq_length_filter_add (l := members.filter (·.phase != .deleting))
    fun member => deleted.contains member.name
  have kept : ((members.map (markDeleting deleted)).filter (·.phase != .deleting)).length =
      ((members.filter (·.phase != .deleting)).filter fun member =>
        !deleted.contains member.name).length := by
    rw [List.filter_map, List.length_map, List.filter_filter]
    congr 1
    apply List.filter_congr
    intro member _
    simp only [Function.comp_apply, markDeleting]
    cases deleted.contains member.name <;> simp
  omega

theorem length_carriedOut_alive (distinct : (members.map (·.name)).Nodup) (fresh : FreshNames inputs members names) :
    ((carriedOut inputs members names).filter (·.phase != .deleting)).length + (deletedMembers inputs members).length =
      (members.filter (·.phase != .deleting)).length + (plan inputs members).create.length := by
  have gone : _ = (deletedMembers inputs members).length := (perm_deletedMembers distinct).length_eq
  have kept := length_markDeleting ((plan inputs members).delete.map Prod.fst) members
  have new : ((names.zip (plan inputs members).create).map (newMember inputs)).filter
      (·.phase != .deleting) = (names.zip (plan inputs members).create).map (newMember inputs) := by
    rw [List.filter_eq_self]
    intro member created
    obtain ⟨_, _, rfl⟩ := List.mem_map.mp created
    rfl
  rw [carriedOut, List.filter_append, List.length_append, new, length_created fresh]
  omega

theorem length_carriedOut_provisioning_le (fresh : FreshNames inputs members names) :
    ((provisioners (carriedOut inputs members names)).filter (!timedOut inputs ·)).length ≤
      ((provisioners members).filter (!timedOut inputs ·)).length + (plan inputs members).create.length := by
  have kept : ((members.map (markDeleting ((plan inputs members).delete.map Prod.fst))).filter
      fun member => !timedOut inputs member && member.phase == .provisioning).length ≤
      (members.filter fun member =>
        !timedOut inputs member && member.phase == .provisioning).length := by
    rw [List.filter_map, List.length_map, ← List.countP_eq_length_filter, ← List.countP_eq_length_filter]
    apply List.countP_mono_left
    intro member _ counted
    simp only [Function.comp_apply, markDeleting] at counted
    split at counted
    · simp at counted
    · exact counted
  have new := (List.length_filter_le (fun member : MemberView =>
    !timedOut inputs member && member.phase == .provisioning)
    ((names.zip (plan inputs members).create).map (newMember inputs))).trans_eq (length_created fresh)
  simp only [provisioners, carriedOut, List.filter_append, List.length_append, List.filter_filter] at kept new ⊢
  omega

/-! ## What holds of every plan -/

/-- A plan deletes Ready members and members that provision for too long, each once
and no others, and what it creates stays within the pool's bounds. -/
structure PlanSafe (inputs : PoolInputs) (members : List MemberView) (names : List String) :
    Prop where
  deletable : ∀ entry ∈ (plan inputs members).delete, ∃ member ∈ members,
    member.name = entry.1 ∧
      (member.phase = .ready ∨ member.phase = .provisioning ∧ timedOut inputs member = true)
  once : ((plan inputs members).delete.map Prod.fst).Nodup
  spared : ∀ member ∈ members, member.phase = .claimed ∨ member.phase = .deleting →
    member.name ∉ (plan inputs members).delete.map Prod.fst
  withinReplicas : (plan inputs members).create ≠ [] →
    ((carriedOut inputs members names).filter (·.phase != .deleting)).length ≤ inputs.maxReplicas
  withinSurge : (plan inputs members).create ≠ [] →
    ((provisioners (carriedOut inputs members names)).filter (!timedOut inputs ·)).length ≤
      inputs.maxSurge

theorem mem_plan_delete_names {name : String} (planned : name ∈ (plan inputs members).delete.map Prod.fst) :
    ∃ member ∈ members, member.name = name ∧
      (member.phase = .ready ∨ member.phase = .provisioning ∧ timedOut inputs member = true) := by
  rw [plan_delete_names] at planned
  obtain ⟨member, deleted, named⟩ := List.mem_map.mp planned
  obtain ⟨listed, allowed⟩ := mem_deletedMembers deleted
  refine ⟨member, listed, named, ?_⟩
  simpa [deletable] using allowed

theorem carriedOut_bounds (distinct : (members.map (·.name)).Nodup)
    (fresh : FreshNames inputs members names) (creates : (plan inputs members).create ≠ []) :
    ((carriedOut inputs members names).filter (·.phase != .deleting)).length ≤ inputs.maxReplicas ∧
      ((provisioners (carriedOut inputs members names)).filter (!timedOut inputs ·)).length ≤ inputs.maxSurge := by
  have created : (plan inputs members).create.length ≤ (planSizing inputs members).create := length_plan_create_le
  have positive : 0 < (planSizing inputs members).create := (List.length_pos_iff.mpr creates).trans_le created
  have bounds := sizing_bounds positive
  have fits := sizing_deletes_le inputs (count members .claimed)
    ((provisioners members).filter (!timedOut inputs ·)).length
    (freshReady inputs members).length (staleReady inputs members).length
  have alive := length_carriedOut_alive distinct fresh
  have surging := length_carriedOut_provisioning_le fresh
  have deleted : (deletedMembers inputs members).length = _ := length_deletedMembers
  have before := length_not_deleting members
  have provisioning := List.length_eq_length_filter_add (l := provisioners members) (timedOut inputs)
  have ready : _ = (members.filter (·.phase == .ready)).length :=
    (perm_freshReady_append_staleReady inputs members).length_eq
  rw [List.length_append, List.length_map] at ready
  simp only [planSizing] at *
  omega

theorem planSafe (distinct : (members.map (·.name)).Nodup)
    (fresh : FreshNames inputs members names) : PlanSafe inputs members names where
  deletable := fun entry planned => mem_plan_delete_names (List.mem_map_of_mem planned)
  once := by
    rw [plan_delete_names]
    exact deletedMembers_distinct distinct
  spared := by
    intro member listed phase planned
    obtain ⟨other, found, named, allowed⟩ := mem_plan_delete_names planned
    obtain rfl := List.inj_on_of_nodup_map distinct found listed named
    rcases phase with claimed | deleting <;> simp_all
  withinReplicas := fun creates => (carriedOut_bounds distinct fresh creates).1
  withinSurge := fun creates => (carriedOut_bounds distinct fresh creates).2

end Rounds

/-- In every run of rounds with one spec, from members with different names, every
plan is safe. -/
theorem pool_rounds_safe {spec : PoolInputs} {start members : List MemberView}
    {revision : String} {names : List String} (distinct : (start.map (·.name)).Nodup)
    (run : Relation.ReflTransGen (Round spec) start members)
    (fresh : FreshNames (withRevision spec revision) members names) :
    PlanSafe (withRevision spec revision) members names :=
  planSafe (distinct_of_rounds distinct run) fresh

/-- Two warm members, three at most, and ten minutes to provision one. -/
def smallPool : PoolInputs where
  warmReplicas := 2
  maxReplicas := 3
  maxSurge := 2
  provisioningTimeoutSecs := 600
  maxIdleSecs := none
  recycleOnImageChange := true
  currentImageRevision := ""
  addressRanges := []

def smallPoolMember (name : String) (phase : MemberPhase) (ageSecs : Nat) : MemberView where
  name := name
  phase := phase
  ageSecs := ageSecs
  readyForSecs := 0
  imageRevision := "gen-1"
  address := none

/-- Of the two members of the first round one becomes Ready and one times out; the
second round deletes the latter and builds another. -/
theorem pool_rounds_safe_second_round :
    PlanSafe (withRevision smallPool "gen-1")
        [smallPoolMember "m-1" .ready 700, smallPoolMember "m-2" .provisioning 700] ["m-3"] ∧
      (plan (withRevision smallPool "gen-1")
        [smallPoolMember "m-1" .ready 700, smallPoolMember "m-2" .provisioning 700]) =
        { create := [⟨none⟩], delete := [("m-2", .provisioningTimeout)] } := by
  have run : Relation.ReflTransGen (Round smallPool) []
      [smallPoolMember "m-1" .ready 700, smallPoolMember "m-2" .provisioning 700] := by
    refine Relation.ReflTransGen.single ⟨"gen-1", ["m-1", "m-2"],
      ⟨by decide, by decide, by decide⟩, fun member => some { member with
        phase := if member.name = "m-1" then .ready else member.phase
        ageSecs := 700 }, ?_, by decide⟩
    intro member changed became
    cases became
    rfl
  exact ⟨pool_rounds_safe (by decide) run ⟨by decide, by decide, by decide⟩, by decide⟩

end Banlieue.Pool
