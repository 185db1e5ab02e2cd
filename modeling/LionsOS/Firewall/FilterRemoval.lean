/-
This file proves that adding a rule and removing it cancel out, and that removing
a rule removes nothing else. Both rest on what the instances of a filter are: an
instance carries the id of a connect rule that is in the table, so a fresh id
has no instances, and only the removal of a connect rule has instances to purge.
-/

import LionsOS.Firewall.FilterClash
import LionsOS.Firewall.FilterGroup
import LionsOS.Firewall.FilterInstances

namespace LionsOS.Firewall

open StepRun SwapPurge FwAction List

variable {state : FwFilterState} {rule : FwRule} {ruleId : Nat} {after before : List FwRule}

/-! ### The states of one filter -/

/-- What happens to a filter: a rule call, or a packet together with the neighbours' instances. -/
inductive FilterEvent where
  | rules (call : RuleCall)
  | packet (externalInstancesTable : List (List FwInstance)) (flow : PacketFlow)

def FilterStep (state : FwFilterState) (event : FilterEvent) (next : FwFilterState) : Prop :=
  match event with
  | .rules call => RuleStep state call next
  | .packet externalInstancesTable flow =>
    next = (filterPacket state externalInstancesTable flow).2.2

/-- The rules are sound, and every instance carries the id of a connect rule of the table. -/
structure FilterSound (state : FwFilterState) : Prop where
  rules : RuleTableSound state
  traced : ∀ existing ∈ state.internalInstancesTable,
    ∃ rule : FwRule, rule.ruleId = existing.ruleId ∧ rule.InForce state

theorem FilterStep.sound {next : FwFilterState} {event : FilterEvent}
    (taken : FilterStep state event next) (sound : FilterSound state) : FilterSound next := by
  cases event with
  | rules call =>
    have step : RuleStep state call next := taken
    refine ⟨(step.sound sound.rules).1, fun existing left => ?_⟩
    obtain ⟨old, kept⟩ := step.instances_kept sound.rules left
    obtain ⟨rule, sameId, inForce⟩ := sound.traced existing old
    exact ⟨rule, sameId, kept rule sameId inForce⟩
  | packet externalInstancesTable flow =>
    have result : next = (filterPacket state externalInstancesTable flow).2.2 := taken
    rcases filterPacket_instances sound.rules externalInstancesTable flow with
      unchanged | ⟨rule, inForce, _, added⟩
    · rw [result, unchanged]
      exact sound
    · rw [result, added]
      obtain ⟨defaultFirst, bounded, distinct, below, bitmap, blocks⟩ := sound.rules
      refine ⟨⟨defaultFirst, bounded, distinct, below, bitmap, blocks⟩, fun existing member => ?_⟩
      rcases mem_append.mp member with old | new
      · obtain ⟨other, sameId, otherInForce⟩ := sound.traced existing old
        exact ⟨other, sameId, otherInForce.member, otherInForce.connects⟩
      · rw [mem_singleton.mp new]
        exact ⟨rule, rfl, inForce.member, inForce.connects⟩

theorem RuleTableSound.eq_of_ruleId (sound : RuleTableSound state) {other : FwRule}
    (member : rule ∈ state.ruleTable) (otherMember : other ∈ state.ruleTable)
    (same : rule.ruleId = other.ruleId) : rule = other :=
  inj_on_of_nodup_map sound.distinct member otherMember same

theorem FilterSound.no_instances (sound : FilterSound state)
    (none : ∀ rule ∈ state.ruleTable, rule.ruleId = ruleId → loaded rule.action ≠ connect) :
    ∀ existing ∈ state.internalInstancesTable, existing.ruleId ≠ ruleId := by
  intro existing member same
  obtain ⟨rule, sameId, inForce⟩ := sound.traced existing member
  exact none rule inForce.member (sameId.trans same) inForce.connects

/-! ### Removing a rule -/

/-- The id of a rule other than the default is accepted for removal. -/
theorem fwFilterRemoveRule_of_mem (sound : RuleTableSound state) (member : ruleId ∈ state.ruleIds)
    (notDefault : ruleId ≠ defaultActionRuleId) :
    ∃ before rule after, state.ruleTable = before ++ rule :: after ∧ rule.ruleId = ruleId ∧
      fwFilterRemoveRule state ruleId = .ok (.okay, state.withoutRule before rule after) := by
  rcases fwFilterRemoveRule_cases sound ruleId with ⟨err, failed, result⟩ | ⟨before, rule, after,
    table, _, sameId, result⟩
  · exfalso
    have valid : ¬ (ruleId = defaultActionRuleId ∨ state.rulesCapacity ≤ ruleId) :=
      not_or.mpr ⟨notDefault, Nat.not_le_of_lt (sound.below ruleId member)⟩
    have taken := (sound.bitmap ruleId).mpr member
    unfold fwFilterRemoveRule rulesFreeId at result
    rw [if_neg valid, taken] at result
    simp only [Bool.not_true, Bool.false_eq_true, if_false, fwFilterRemoveInstances] at result
    split at result
    · cases result
    · split_ifs at result
      · rw [Except.ok.injEq, Prod.mk.injEq] at result
        exact failed result.1.symm
      · rw [Except.ok.injEq, Prod.mk.injEq] at result
        exact failed result.1.symm
  · exact ⟨before, rule, after, table, sameId, result⟩

theorem RuleTableSound.others_differ (sound : RuleTableSound state)
    (table : state.ruleTable = before ++ rule :: after) :
    ∀ other ∈ before ++ after, other.ruleId ≠ rule.ruleId := by
  have distinct := sound.distinct
  rw [FwFilterState.ruleIds, table, map_append, map_cons, nodup_middle,
    nodup_cons, ← map_append] at distinct
  intro other member same
  exact distinct.1 (same ▸ mem_map_of_mem member)

/-- Removing a rule leaves the instances of all other rules, and none of its own. -/
theorem FilterSound.instances_withoutRule (sound : FilterSound state)
    (table : state.ruleTable = before ++ rule :: after) :
    (state.withoutRule before rule after).internalInstancesTable.Perm
      (state.internalInstancesTable.filter fun existing => existing.ruleId ≠ rule.ruleId) := by
  by_cases connect : loaded rule.action = connect
  · simp only [FwFilterState.withoutRule, if_pos connect]
    exact fwFilterRemoveInstances_perm state rule.ruleId
  · have none : ∀ existing ∈ state.internalInstancesTable, existing.ruleId ≠ rule.ruleId := by
      refine sound.no_instances fun other member same => ?_
      have inTable : rule ∈ state.ruleTable := by simp [table]
      rw [sound.rules.eq_of_ruleId member inTable same]
      exact connect
    simp only [FwFilterState.withoutRule, if_neg connect]
    refine List.Perm.of_eq (filter_eq_self.mpr fun existing member => ?_).symm
    exact decide_eq_true (none existing member)

theorem RuleTableSound.allocated_withoutRule (sound : RuleTableSound state)
    (table : state.ruleTable = before ++ rule :: after) (ruleId : Nat) :
    (state.withoutRule before rule after).ruleIdBitmap.allocated ruleId =
      (!decide (ruleId = rule.ruleId) && state.ruleIdBitmap.allocated ruleId) := by
  have below : rule.ruleId < state.rulesCapacity :=
    sound.below _ (by simp [FwFilterState.ruleIds, table])
  exact allocated_free ruleId (block_inside sound.blocks below)

/-! ### Adding a rule and removing it -/

/-- Removing a rule that was just added finds it behind the rules that were there before. -/
theorem RuleTableSound.remove_added {args : FwFilterAddArgs}
    (soundAdded : RuleTableSound (state.withRule args ruleId))
    (notDefault : ruleId ≠ defaultActionRuleId) :
    fwFilterRemoveRule (state.withRule args ruleId) ruleId = .ok (.okay,
      (state.withRule args ruleId).withoutRule state.ruleTable (args.rule ruleId) []) := by
  have member : ruleId ∈ (state.withRule args ruleId).ruleIds := by
    rw [ruleIds_withRule]
    exact mem_append_right _ (mem_singleton_self ruleId)
  obtain ⟨before, rule, after, table, sameId, result⟩ :=
    fwFilterRemoveRule_of_mem soundAdded member notDefault
  have others := soundAdded.others_differ table
  have split : before ++ rule :: after = state.ruleTable ++ args.rule ruleId :: [] := table.symm
  have notBefore : args.rule ruleId ∉ before :=
    fun inBefore => others _ (mem_append_left _ inBefore) sameId.symm
  have notAfter : args.rule ruleId ∉ after :=
    fun inAfter => others _ (mem_append_right _ inAfter) sameId.symm
  obtain ⟨rfl, rfl, rfl⟩ := (append_cons_inj_of_notMem notBefore notAfter).mp split
  exact result

/-- On every state of a filter: removing a rule that was just added restores the table with its
order, the allocated ids and the instances. And every removal that succeeds deletes the one rule
with the id, keeps the others in their order, frees the id, and leaves exactly the instances of
the other rules; moving the entries of the array down is what deletes the rule. -/
theorem rule_removal_exact (rulesCapacity instancesCapacity : Nat) (positive : 0 < rulesCapacity)
    (initialRules : List FwRule) (start : FwFilterState)
    (started : fwFilterStateInit (.zeroed rulesCapacity instancesCapacity) initialRules = .ok start)
    (events : List FilterEvent) (state : FwFilterState)
    (run : Run FilterStep start events state) :
    (∀ args ruleId added, fwFilterAddRule state args = .ok (.okay, some ruleId, added) →
        ∃ removed, fwFilterRemoveRule added ruleId = .ok (.okay, removed) ∧
          removed.ruleTable = state.ruleTable ∧
          (∀ other, removed.ruleIdBitmap.allocated other = state.ruleIdBitmap.allocated other) ∧
          removed.internalInstancesTable = state.internalInstancesTable) ∧
      ∀ ruleId removed, fwFilterRemoveRule state ruleId = .ok (.okay, removed) →
        ∃ before rule after, state.ruleTable = before ++ rule :: after ∧ rule.ruleId = ruleId ∧
          (∀ other ∈ before ++ after, other.ruleId ≠ ruleId) ∧
          removed.ruleTable = before ++ after ∧
          (∀ other, removed.ruleIdBitmap.allocated other =
            (!decide (other = ruleId) && state.ruleIdBitmap.allocated other)) ∧
          removed.internalInstancesTable.Perm
            (state.internalInstancesTable.filter fun existing => existing.ruleId ≠ ruleId) ∧
          ∀ memory : Nat → FwRule,
            ArrayShift.window memory state.ruleTable.length = state.ruleTable →
            ArrayShift.window (ArrayShift.shifted memory state.ruleTable.length before.length)
              (state.ruleTable.length - 1) = removed.ruleTable := by
  have sound : FilterSound state := by
    rcases fwFilterStateInit_sound rulesCapacity instancesCapacity positive initialRules with
      ⟨assertion, failed, _⟩ | ⟨start', result, soundStart, _, noInstances⟩
    · rw [failed] at started
      cases started
    · rw [result, Except.ok.injEq] at started
      subst started
      refine run.invariant FilterSound ⟨soundStart, ?_⟩ fun _ _ _ kept taken => taken.sound kept
      rw [noInstances]
      nofun
  refine ⟨fun args ruleId added performed => ?_, fun ruleId removed performed => ?_⟩
  · rcases fwFilterAddRule_cases sound.rules args with ⟨err, failed, result, _⟩ | ⟨fresh, result,
      room, _, notDefault, below, unused⟩
    · rw [result, Except.ok.injEq, Prod.mk.injEq] at performed
      exact absurd performed.1 failed
    · rw [result] at performed
      cases performed
      have soundAdded := sound.rules.withRule args room below unused
      refine ⟨_, soundAdded.remove_added notDefault, append_nil _, fun other => ?_, ?_⟩
      · rw [soundAdded.allocated_withoutRule rfl]
        show (!decide (other = ruleId) && (state.ruleIdBitmap.reserve ruleId).allocated other) = _
        rw [allocated_reserve other (block_inside sound.rules.blocks below)]
        by_cases same : other = ruleId
        · have free : state.ruleIdBitmap.allocated ruleId = false :=
            Bool.eq_false_iff.mpr fun taken => unused ((sound.rules.bitmap ruleId).mp taken)
          rw [decide_eq_true same, same, free]
          rfl
        · rw [decide_eq_false same]
          rfl
      · -- The fresh id is on no instance, so the purge takes none.
        have none : ∀ existing ∈ state.internalInstancesTable,
            (ruleId == existing.ruleId) = false := by
          intro existing member
          refine beq_eq_false_iff_ne.mpr fun same => ?_
          refine sound.no_instances (fun rule inTable sameId => ?_) existing member same.symm
          exact absurd (sameId ▸ mem_map_of_mem inTable) unused
        show (if loaded args.action.stored = connect then
          purge (fun existing => ruleId == existing.ruleId) state.internalInstancesTable
          else state.internalInstancesTable) = _
        rw [purge_of_none none, ite_self]
  · rcases fwFilterRemoveRule_cases sound.rules ruleId with ⟨err, failed, result⟩ | ⟨before, rule,
      after, table, _, rfl, result⟩
    · rw [result, Except.ok.injEq, Prod.mk.injEq] at performed
      exact absurd performed.1 failed
    · rw [result] at performed
      cases performed
      refine ⟨before, rule, after, table, rfl, sound.rules.others_differ table, rfl,
        sound.rules.allocated_withoutRule table, sound.instances_withoutRule table, ?_⟩
      intro memory window
      have inside : before.length < state.ruleTable.length := by
        rw [table, length_append, length_cons]
        omega
      rw [ArrayShift.window_shifted memory (le_refl _) inside, window, table,
        eraseIdx_append_of_length_le (le_refl _), Nat.sub_self]
      rfl

/-- A connect rule is added, used by a packet, and removed with the instance of that packet. -/
theorem rule_removal_exact_sample :
    ∃ start state removed, fwFilterStateInit (.zeroed 4 4) [defaultActionRule drop] = .ok start ∧
      Run FilterStep start [.rules (.addRule (toWebPortArgs 0 connect)),
        .packet [] ⟨7, 9, 8, htons 80⟩] state ∧
      state.internalInstancesTable.length = 1 ∧
      fwFilterRemoveRule state 1 = .ok (.okay, removed) ∧
      removed.internalInstancesTable.Perm
        (state.internalInstancesTable.filter fun existing => existing.ruleId ≠ 1) := by
  refine ⟨_, _, _, rfl, .snoc (.snoc .nil ⟨.okay, rfl⟩) rfl, rfl, rfl, ?_⟩
  obtain ⟨_, _, _, _, _, _, _, _, instances, _⟩ :=
    (rule_removal_exact 4 4 (by decide) [defaultActionRule drop] _ rfl
      [.rules (.addRule (toWebPortArgs 0 connect)), .packet [] ⟨7, 9, 8, htons 80⟩] _
      (.snoc (.snoc .nil ⟨.okay, rfl⟩) rfl)).2 1 _ rfl
  exact instances

end LionsOS.Firewall
