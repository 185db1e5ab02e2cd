/-
This file proves what the instance table keeps. It holds no instance twice and
no more than its capacity, whatever sequence of additions and removals it goes
through. Removing the instances of a rule ends for every table, and leaves the
instances of the other rules with their multiplicities, in some order: the last
instance is moved into the place of a removed one, and is examined there next.
-/

import LionsOS.Firewall.Filter
import LionsOS.Lib.Runs
import Mathlib.Data.List.Nodup

namespace LionsOS.Firewall

open StepRun SwapPurge

/-! ### The invariant -/

structure InstancesSound (state : FwFilterState) : Prop where
  bounded : state.internalInstancesTable.length ≤ state.instancesCapacity
  distinct : state.internalInstancesTable.Nodup

/-- Adding an instance either fails and changes nothing, or appends an instance that was not
there to a table that was not full. -/
theorem fwFilterAddInstance_cases (state : FwFilterState) (flow : PacketFlow) (ruleId : Nat) :
    (∃ err, err ≠ .okay ∧ fwFilterAddInstance state flow ruleId = (err, state)) ∨
      (fwFilterAddInstance state flow ruleId = (.okay, { state with
          internalInstancesTable :=
            state.internalInstancesTable ++ [flow.instance ruleId] }) ∧
        state.internalInstancesTable.length < state.instancesCapacity ∧
        flow.instance ruleId ∉ state.internalInstancesTable) := by
  unfold fwFilterAddInstance
  split_ifs with full duplicate
  · exact Or.inl ⟨.full, FwFilterErr.noConfusion, rfl⟩
  · exact Or.inl ⟨.duplicate, FwFilterErr.noConfusion, rfl⟩
  · refine Or.inr ⟨rfl, Nat.lt_of_not_le full, fun member => duplicate ?_⟩
    refine List.any_eq_true.mpr ⟨_, member, ?_⟩
    simp [PacketFlow.instance]

/-- The loop that removes the instances of a rule, with no bound on its rounds: a derivation is
a run of the loop that ends. -/
abbrev RemovesInstances (ruleId : Nat) (table : List FwInstance) (result : List FwInstance) :
    Prop :=
  Scans (fun existing => ruleId == existing.ruleId) table 0 result

theorem removesInstances_iff (state : FwFilterState) (ruleId : Nat) (result : List FwInstance) :
    RemovesInstances ruleId state.internalInstancesTable result ↔
      (fwFilterRemoveInstances state ruleId).2.internalInstancesTable = result := by
  have ends := scans_purge (fun existing : FwInstance => ruleId == existing.ruleId)
    state.internalInstancesTable
  exact ⟨fun scans => ends.unique scans, fun same => same ▸ ends⟩

theorem fwFilterRemoveInstances_perm (state : FwFilterState) (ruleId : Nat) :
    (fwFilterRemoveInstances state ruleId).2.internalInstancesTable.Perm
      (state.internalInstancesTable.filter fun existing => existing.ruleId ≠ ruleId) := by
  refine (purge_perm _ _).trans (List.Perm.of_eq (List.filter_congr fun existing _ => ?_))
  rw [Bool.eq_iff_iff, Bool.not_eq_true', beq_eq_false_iff_ne, decide_eq_true_iff]
  exact ne_comm

/-! ### Runs -/

/-- The calls that change the instance table, with the arguments they are given. -/
inductive InstanceCall where
  | addInstance (flow : PacketFlow) (ruleId : Nat)
  | removeInstances (ruleId : Nat)

/-- Carry out a call: the error code it returns and the state it leaves. -/
def InstanceCall.perform (state : FwFilterState) : InstanceCall → FwFilterErr × FwFilterState
  | .addInstance flow ruleId => fwFilterAddInstance state flow ruleId
  | .removeInstances ruleId => fwFilterRemoveInstances state ruleId

def InstanceStep (state : FwFilterState) (call : InstanceCall) (next : FwFilterState) : Prop :=
  (call.perform state).2 = next

theorem InstanceStep.sound {state next : FwFilterState} {call : InstanceCall}
    (taken : InstanceStep state call next) (sound : InstancesSound state) :
    InstancesSound next := by
  subst taken
  cases call with
  | addInstance flow ruleId =>
    rw [InstanceCall.perform]
    rcases fwFilterAddInstance_cases state flow ruleId with ⟨err, _, result⟩ | ⟨result, room, new⟩
    · rw [result]
      exact sound
    · rw [result]
      refine ⟨?_, ?_⟩
      · rw [List.length_append]
        exact room
      · rw [← List.concat_eq_append, List.nodup_concat]
        exact ⟨new, sound.distinct⟩
  | removeInstances ruleId =>
    have left := fwFilterRemoveInstances_perm state ruleId
    refine ⟨?_, left.nodup_iff.mpr (sound.distinct.filter _)⟩
    show (fwFilterRemoveInstances state ruleId).2.internalInstancesTable.length ≤ _
    rw [left.length_eq]
    exact (List.length_filter_le _ _).trans sound.bounded

/-- From an empty instance table on, any sequence of additions and removals keeps the table
within its capacity and without duplicates. Removing the instances of a rule ends for every
table, and leaves exactly the instances of the other rules; and an addition that fails changes
nothing. -/
theorem instance_table_kept (start : FwFilterState) (empty : start.internalInstancesTable = [])
    (calls : List InstanceCall) (state : FwFilterState)
    (run : Run InstanceStep start calls state) :
    (state.internalInstancesTable.length ≤ state.instancesCapacity ∧
        state.internalInstancesTable.Nodup) ∧
      (∀ (ruleId : Nat) (table : List FwInstance), ∃ result, RemovesInstances ruleId table result ∧
          (∀ other, RemovesInstances ruleId table other → other = result) ∧
          (fwFilterRemoveInstances { state with internalInstancesTable := table } ruleId).2 =
            { state with internalInstancesTable := result } ∧
          result.Perm (table.filter fun existing => existing.ruleId ≠ ruleId)) ∧
      ∀ flow ruleId, (fwFilterAddInstance state flow ruleId).1 ≠ .okay →
        (fwFilterAddInstance state flow ruleId).2 = state := by
  have initial : InstancesSound start := by
    refine ⟨?_, ?_⟩ <;> rw [empty]
    · exact Nat.zero_le _
    · exact List.nodup_nil
  have sound := run.invariant InstancesSound initial fun _ _ _ kept taken => taken.sound kept
  refine ⟨⟨sound.bounded, sound.distinct⟩, fun ruleId table => ?_, fun flow ruleId failed => ?_⟩
  · have ends := scans_purge (fun existing : FwInstance => ruleId == existing.ruleId) table
    exact ⟨_, ends, fun other scans => scans.unique ends, rfl,
      fwFilterRemoveInstances_perm { state with internalInstancesTable := table } ruleId⟩
  · rcases fwFilterAddInstance_cases state flow ruleId with ⟨err, _, result⟩ | ⟨result, _⟩
    · rw [result]
    · rw [result] at failed
      exact absurd rfl failed

/-- Two instances of one rule are added, the second call of the first flow being refused, and
all are removed, the last one included. -/
theorem instance_table_kept_sample :
    ∃ state, Run InstanceStep (FwFilterState.zeroed 1 3)
        [.addInstance ⟨1, 2, 3, 4⟩ 7, .addInstance ⟨1, 2, 3, 4⟩ 7, .addInstance ⟨5, 2, 3, 4⟩ 7]
        state ∧
      state.internalInstancesTable.length = 2 ∧ state.internalInstancesTable.Nodup ∧
      RemovesInstances 7 state.internalInstancesTable [] := by
  refine ⟨_, .snoc (.snoc (.snoc .nil rfl) rfl) rfl, rfl, ?_, ?_⟩
  · exact (instance_table_kept (FwFilterState.zeroed 1 3) rfl
      [.addInstance ⟨1, 2, 3, 4⟩ 7, .addInstance ⟨1, 2, 3, 4⟩ 7, .addInstance ⟨5, 2, 3, 4⟩ 7] _
      (.snoc (.snoc (.snoc .nil rfl) rfl) rfl)).1.2
  · exact (removesInstances_iff _ 7 []).mpr (by decide)

end LionsOS.Firewall
