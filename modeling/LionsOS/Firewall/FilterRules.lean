/-
This file proves the invariant that ties the rule table to its id allocator.
The ids of the rules in the table are distinct, below the capacity, and exactly
the set bits of the bitmap; the default rule stays at the front with id 0. Each
operation has one lemma that says everything it can do from such a state: keep
the state and report an error, or succeed with one definite next state. No
assertion is reachable.
-/

import LionsOS.Firewall.Filter
import LionsOS.Lib.Runs
import Mathlib.Data.List.Nodup

namespace LionsOS.Firewall

open StepRun FwAction BlockBitmap List

variable {state : FwFilterState} {ruleId : Nat} {bitmap : FwRuleIdBitmap} {defaultRule : FwRule}
  {rest : List FwRule}

/-! ### The invariant -/

/-- A rule with the shape of the default rule, whatever its action. -/
structure FwRule.IsDefault (rule : FwRule) : Prop where
  srcSubnet : rule.srcSubnet = 0
  srcPortAny : rule.srcPortAny = true
  dstSubnet : rule.dstSubnet = 0
  dstPortAny : rule.dstPortAny = true
  ruleId : rule.ruleId = defaultActionRuleId

/-- The ids of the rules in the table, in table order. -/
def FwFilterState.ruleIds (state : FwFilterState) : List Nat :=
  state.ruleTable.map FwRule.ruleId

open FwFilterState

structure RuleTableSound (state : FwFilterState) : Prop where
  defaultFirst : ∃ defaultRule rest, state.ruleTable = defaultRule :: rest ∧ defaultRule.IsDefault
  bounded : state.ruleTable.length ≤ state.rulesCapacity
  distinct : state.ruleIds.Nodup
  below : ∀ ruleId ∈ state.ruleIds, ruleId < state.rulesCapacity
  bitmap : ∀ ruleId, state.ruleIdBitmap.allocated ruleId = true ↔ ruleId ∈ state.ruleIds
  blocks : state.rulesCapacity ≤ ruleIdBitmapBlkSize * state.ruleIdBitmap.idBitmap.length

theorem RuleTableSound.length_pos (sound : RuleTableSound state) : 1 ≤ state.ruleTable.length := by
  obtain ⟨defaultRule, rest, table, _⟩ := sound.defaultFirst
  simp [table]

theorem block_inside {capacity blocks : Nat} (enough : capacity ≤ ruleIdBitmapBlkSize * blocks)
    (below : ruleId < capacity) : ruleId / ruleIdBitmapBlkSize < blocks :=
  Nat.div_lt_of_lt_mul (by omega)

theorem allocated_reserve (other : Nat)
    (inside : ruleId / ruleIdBitmapBlkSize < bitmap.idBitmap.length) :
    (bitmap.reserve ruleId).allocated other = (decide (other = ruleId) || bitmap.allocated other) :=
  testBit_setBit (by decide) _ _ _ inside

theorem allocated_free (other : Nat)
    (inside : ruleId / ruleIdBitmapBlkSize < bitmap.idBitmap.length) :
    (bitmap.free ruleId).allocated other = (!decide (other = ruleId) && bitmap.allocated other) :=
  testBit_clearBit (by decide) _ _ _ inside

/-! ### Reserving and freeing an id -/

theorem rulesReserveId_spec (sound : RuleTableSound state)
    (room : state.ruleTable.length < state.rulesCapacity) :
    ∃ ruleId, rulesReserveId state = .ok (.okay, some ruleId,
        { state with ruleIdBitmap := state.ruleIdBitmap.reserve ruleId }) ∧
      ruleId ≠ defaultActionRuleId ∧ ruleId < state.rulesCapacity ∧ ruleId ∉ state.ruleIds := by
  have few : state.ruleIds.length < state.rulesCapacity := by
    rw [ruleIds, length_map]
    exact room
  obtain ⟨ruleId, found⟩ := CircularSearch.search_isSome
    (fun ruleId => !state.ruleIdBitmap.allocated ruleId)
    (state.ruleIdBitmap.lastAllocatedRuleId + 1) state.ruleIds few
    fun ruleId _ taken => (sound.bitmap ruleId).mp (by simpa using taken)
  obtain ⟨below, free⟩ := CircularSearch.search_some found
  have unused : ruleId ∉ state.ruleIds := by
    intro member
    rw [(sound.bitmap ruleId).mpr member] at free
    simp at free
  have notDefault : ruleId ≠ defaultActionRuleId := by
    intro same
    obtain ⟨defaultRule, rest, table, isDefault⟩ := sound.defaultFirst
    exact unused (by simp [ruleIds, table, same, isDefault.ruleId])
  refine ⟨ruleId, ?_, notDefault, below, unused⟩
  rw [rulesReserveId, if_neg (by omega), found]
  simp only [if_neg notDefault]

/-! ### Adding a rule -/

/-- The state after `args` was added under `ruleId`. -/
def FwFilterState.withRule (state : FwFilterState) (args : FwFilterAddArgs) (ruleId : Nat) :
    FwFilterState :=
  { state with
    ruleIdBitmap := state.ruleIdBitmap.reserve ruleId
    ruleTable := state.ruleTable ++ [args.rule ruleId] }

/-- Everything `fw_filter_add_rule` can do: report an error on the state as it was, when the
table is full or a rule clashes, or else add the rule under a fresh id. -/
theorem fwFilterAddRule_cases (sound : RuleTableSound state) (args : FwFilterAddArgs) :
    (∃ err, err ≠ .okay ∧ fwFilterAddRule state args = .ok (err, none, state) ∧
        (state.ruleTable.length < state.rulesCapacity →
          ∃ rule ∈ state.ruleTable, args.clashes rule = true)) ∨
      ∃ ruleId, fwFilterAddRule state args = .ok (.okay, some ruleId, state.withRule args ruleId) ∧
        state.ruleTable.length < state.rulesCapacity ∧
        (∀ rule ∈ state.ruleTable, args.clashes rule = false) ∧
        ruleId ≠ defaultActionRuleId ∧ ruleId < state.rulesCapacity ∧ ruleId ∉ state.ruleIds := by
  unfold fwFilterAddRule
  by_cases full : state.rulesCapacity ≤ state.ruleTable.length
  · exact Or.inl ⟨.full, by decide, by rw [if_pos full], fun room => absurd full (by omega)⟩
  · rw [if_neg full]
    cases clash : state.ruleTable.find? args.clashes with
    | some rule =>
      have found : ∃ rule ∈ state.ruleTable, args.clashes rule = true :=
        ⟨rule, mem_of_find?_eq_some clash, find?_some clash⟩
      by_cases same : args.action = loaded rule.action
      · exact Or.inl ⟨.duplicate, by decide, by simp only [if_pos same], fun _ => found⟩
      · exact Or.inl ⟨.clash, by decide, by simp only [if_neg same], fun _ => found⟩
    | none =>
      obtain ⟨ruleId, reserved, facts⟩ := rulesReserveId_spec sound (by omega)
      refine Or.inr ⟨ruleId, ?_, by omega, ?_, facts⟩
      · rw [reserved]
        rfl
      · intro rule member
        simpa using find?_eq_none.mp clash rule member

theorem ruleIds_withRule (state : FwFilterState) (args : FwFilterAddArgs) (ruleId : Nat) :
    (state.withRule args ruleId).ruleIds = state.ruleIds ++ [ruleId] := by
  simp [ruleIds, withRule, FwFilterAddArgs.rule]

theorem RuleTableSound.withRule (sound : RuleTableSound state) (args : FwFilterAddArgs)
    (room : state.ruleTable.length < state.rulesCapacity) (below : ruleId < state.rulesCapacity)
    (unused : ruleId ∉ state.ruleIds) : RuleTableSound (state.withRule args ruleId) where
  defaultFirst := by
    obtain ⟨defaultRule, rest, table, isDefault⟩ := sound.defaultFirst
    exact ⟨defaultRule, rest ++ [args.rule ruleId], by simp [FwFilterState.withRule, table],
      isDefault⟩
  bounded := by
    show (state.ruleTable ++ [args.rule ruleId]).length ≤ state.rulesCapacity
    rw [length_append]
    exact room
  distinct := by
    rw [ruleIds_withRule, ← concat_eq_append, nodup_concat]
    exact ⟨unused, sound.distinct⟩
  below := by
    intro other member
    rw [ruleIds_withRule, mem_append, mem_singleton] at member
    rcases member with member | rfl
    · exact sound.below other member
    · exact below
  bitmap := by
    intro other
    rw [ruleIds_withRule, mem_append, mem_singleton]
    show (state.ruleIdBitmap.reserve ruleId).allocated other = true ↔ _
    rw [allocated_reserve other (block_inside sound.blocks below), Bool.or_eq_true,
      sound.bitmap other, decide_eq_true_iff, or_comm]
  blocks := by
    show state.rulesCapacity ≤ ruleIdBitmapBlkSize *
      (setBit state.ruleIdBitmap.idBitmap ruleId).length
    rw [setBit_length]
    exact sound.blocks

/-! ### Removing a rule -/

/-- The state after the rule between `before` and `after` was removed. Its instances go too
when it was a connect rule. -/
def FwFilterState.withoutRule (state : FwFilterState) (before : List FwRule) (rule : FwRule)
    (after : List FwRule) : FwFilterState :=
  { state with
    ruleTable := before ++ after
    ruleIdBitmap := state.ruleIdBitmap.free rule.ruleId
    internalInstancesTable :=
      if loaded rule.action = connect then
        SwapPurge.purge (fun existing => rule.ruleId == existing.ruleId)
          state.internalInstancesTable
      else state.internalInstancesTable }

theorem findIdx?_split {Entry : Type} {test : Entry → Bool} {entries : List Entry}
    {position : Nat} (found : entries.findIdx? test = some position) :
    ∃ before entry after, entries = before ++ entry :: after ∧ before.length = position ∧
      test entry = true := by
  obtain ⟨inside, holds, _⟩ := findIdx?_eq_some_iff_getElem.mp found
  refine ⟨entries.take position, entries[position], entries.drop (position + 1), ?_, ?_, holds⟩
  · rw [getElem_cons_drop, take_append_drop]
  · rw [length_take]
    omega

/-- Everything `fw_filter_remove_rule` can do: report an error on the state as it was, or
remove the one rule with that id, which is not the default rule. -/
theorem fwFilterRemoveRule_cases (sound : RuleTableSound state) (ruleId : Nat) :
    (∃ err, err ≠ .okay ∧ fwFilterRemoveRule state ruleId = .ok (err, state)) ∨
      ∃ before rule after, state.ruleTable = before ++ rule :: after ∧ before ≠ [] ∧
        rule.ruleId = ruleId ∧
        fwFilterRemoveRule state ruleId = .ok (.okay, state.withoutRule before rule after) := by
  unfold fwFilterRemoveRule rulesFreeId
  by_cases invalid : ruleId = defaultActionRuleId ∨ state.rulesCapacity ≤ ruleId
  · exact Or.inl ⟨.invalidRuleId, by decide, by rw [if_pos invalid]⟩
  rw [if_neg invalid]
  push Not at invalid
  cases taken : state.ruleIdBitmap.allocated ruleId with
  | false => exact Or.inl ⟨.invalidRuleId, by decide, by simp⟩
  | true =>
    obtain ⟨defaultRule, rest, table, isDefault⟩ := sound.defaultFirst
    have inRest : ∃ rule ∈ rest, rule.ruleId = ruleId := by
      have member := (sound.bitmap ruleId).mp taken
      rw [ruleIds, table, map_cons, mem_cons, isDefault.ruleId] at member
      rcases member with same | member
      · exact absurd same invalid.1
      · exact mem_map.mp member
    have some : (rest.findIdx? fun rule => rule.ruleId == ruleId).isSome := by
      simpa using inRest
    obtain ⟨position, found⟩ := Option.isSome_iff_exists.mp some
    obtain ⟨before, rule, after, split, length, sameId⟩ := findIdx?_split found
    have sameId : rule.ruleId = ruleId := by simpa using sameId
    refine Or.inr ⟨defaultRule :: before, rule, after, by rw [table, split]; rfl, by simp,
      sameId, ?_⟩
    have index : (defaultRule :: before).length = position + 1 := by simp [length]
    have entry : (defaultRule :: (before ++ rule :: after)).getD (position + 1) FwRule.zeroed =
        rule := by
      simp [← length]
    have erased : (defaultRule :: (before ++ rule :: after)).eraseIdx (position + 1) =
        (defaultRule :: before) ++ after := by
      rw [← cons_append, ← index, eraseIdx_append_of_length_le (le_refl _)]
      simp
    rw [split] at table found
    simp only [Bool.not_true, Bool.false_eq_true, if_false, table, tail_cons, found, entry,
      erased, fwFilterRemoveInstances, withoutRule, sameId]
    split <;> rfl

theorem ruleIds_withoutRule (state : FwFilterState) (before : List FwRule) (rule : FwRule)
    (after : List FwRule) : (state.withoutRule before rule after).ruleIds =
      before.map FwRule.ruleId ++ after.map FwRule.ruleId := by
  simp [ruleIds, withoutRule]

theorem RuleTableSound.withoutRule (sound : RuleTableSound state) {before : List FwRule}
    {rule : FwRule} {after : List FwRule} (table : state.ruleTable = before ++ rule :: after)
    (nonempty : before ≠ []) : RuleTableSound (state.withoutRule before rule after) := by
  have ids : state.ruleIds =
      before.map FwRule.ruleId ++ rule.ruleId :: after.map FwRule.ruleId := by
    simp [FwFilterState.ruleIds, table]
  have distinct := sound.distinct
  rw [ids, nodup_middle, nodup_cons] at distinct
  have below : rule.ruleId < state.rulesCapacity := sound.below _ (by simp [ids])
  refine ⟨?_, ?_, ?_, ?_, ?_, ?_⟩
  · obtain ⟨defaultRule, rest, front, isDefault⟩ := sound.defaultFirst
    obtain ⟨first, middle, rfl⟩ := exists_cons_of_ne_nil nonempty
    rw [table, cons_append, cons.injEq] at front
    exact ⟨first, middle ++ after, rfl, front.1 ▸ isDefault⟩
  · have bounded := sound.bounded
    rw [table] at bounded
    simp only [FwFilterState.withoutRule, length_append, length_cons] at bounded ⊢
    omega
  · rw [ruleIds_withoutRule]
    exact distinct.2
  · intro other member
    rw [ruleIds_withoutRule, mem_append] at member
    refine sound.below other ?_
    rw [ids, mem_append, mem_cons]
    exact member.imp_right Or.inr
  · intro other
    rw [ruleIds_withoutRule]
    show (state.ruleIdBitmap.free rule.ruleId).allocated other = true ↔ _
    rw [allocated_free other (block_inside sound.blocks below), Bool.and_eq_true,
      sound.bitmap other, ids, Bool.not_eq_true', decide_eq_false_iff_not]
    constructor
    · rintro ⟨different, member⟩
      simpa [different] using member
    · intro member
      refine ⟨fun same => distinct.1 (same ▸ member), ?_⟩
      rw [mem_append, mem_cons]
      exact (mem_append.mp member).imp_right Or.inr
  · show state.rulesCapacity ≤ ruleIdBitmapBlkSize *
      (clearBit state.ruleIdBitmap.idBitmap rule.ruleId).length
    rw [clearBit_length]
    exact sound.blocks

/-! ### Changing the default action -/

/-- The state after the default action became `action`; `purged` says whether the instances of
the default rule were removed. -/
def FwFilterState.withDefaultAction (state : FwFilterState) (defaultRule : FwRule)
    (rest : List FwRule) (action : FwAction) : FwFilterState :=
  { state with
    ruleTable := { defaultRule with action := action.stored } :: rest
    internalInstancesTable :=
      if loaded defaultRule.action = connect then
        SwapPurge.purge (fun existing => defaultActionRuleId == existing.ruleId)
          state.internalInstancesTable
      else state.internalInstancesTable }

/-- Everything `fw_filter_update_default_action` can do: nothing when the action is the old
one, and otherwise store it, after removing the instances of a connect default. -/
theorem fwFilterUpdateDefaultAction_cases (table : state.ruleTable = defaultRule :: rest)
    (newAction : FwAction) :
    (newAction = loaded defaultRule.action ∧
        fwFilterUpdateDefaultAction state newAction = .ok (.okay, state)) ∨
      (newAction ≠ loaded defaultRule.action ∧ fwFilterUpdateDefaultAction state newAction =
          .ok (.okay, state.withDefaultAction defaultRule rest newAction)) := by
  unfold fwFilterUpdateDefaultAction
  simp only [table, headD_cons]
  by_cases same : newAction = loaded defaultRule.action
  · exact Or.inl ⟨same, by rw [if_pos same]⟩
  · refine Or.inr ⟨same, ?_⟩
    rw [if_neg same]
    by_cases connect : loaded defaultRule.action = connect
    · simp only [if_pos connect, fwFilterRemoveInstances, table, withDefaultAction]
      rfl
    · simp only [if_neg connect, withDefaultAction]
      rfl

theorem RuleTableSound.withDefaultAction (sound : RuleTableSound state)
    (table : state.ruleTable = defaultRule :: rest) (action : FwAction) :
    RuleTableSound (state.withDefaultAction defaultRule rest action) := by
  have ids : (state.withDefaultAction defaultRule rest action).ruleIds = state.ruleIds := by
    simp [FwFilterState.ruleIds, FwFilterState.withDefaultAction, table]
  obtain ⟨first, others, front, isDefault⟩ := sound.defaultFirst
  rw [table] at front
  obtain ⟨rfl, rfl⟩ := front
  refine ⟨⟨_, rest, rfl, ⟨isDefault.srcSubnet, isDefault.srcPortAny, isDefault.dstSubnet,
    isDefault.dstPortAny, isDefault.ruleId⟩⟩, ?_, ids ▸ sound.distinct, ids ▸ sound.below,
    ids ▸ sound.bitmap, sound.blocks⟩
  have bounded := sound.bounded
  rw [table] at bounded
  exact bounded

/-! ### Runs of rule calls -/

/-- The calls that change a filter's rules, with the arguments they are given. -/
inductive RuleCall where
  | addRule (args : FwFilterAddArgs)
  | removeRule (ruleId : Nat)
  | updateDefaultAction (newAction : FwAction)

/-- Carry out a call: the error code it returns and the state it leaves. -/
def RuleCall.perform (state : FwFilterState) :
    RuleCall → Except FilterAssertion (FwFilterErr × FwFilterState)
  | .addRule args => (fwFilterAddRule state args).map fun result => (result.1, result.2.2)
  | .removeRule ruleId => fwFilterRemoveRule state ruleId
  | .updateDefaultAction newAction => fwFilterUpdateDefaultAction state newAction

/-- A call returns, with any error code. -/
def RuleStep (state : FwFilterState) (call : RuleCall) (next : FwFilterState) : Prop :=
  ∃ err, call.perform state = .ok (err, next)

theorem RuleCall.perform_sound (sound : RuleTableSound state) (call : RuleCall) :
    ∃ err next, call.perform state = .ok (err, next) ∧ RuleTableSound next ∧
      next.rulesCapacity = state.rulesCapacity ∧ (err ≠ .okay → next = state) := by
  cases call with
  | addRule args =>
    rcases fwFilterAddRule_cases sound args with ⟨err, _, result, _⟩ | ⟨ruleId, result, room, _, _,
      below, unused⟩
    · exact ⟨err, state, by rw [perform, result]; rfl, sound, rfl, fun _ => rfl⟩
    · exact ⟨.okay, _, by rw [perform, result]; rfl, sound.withRule args room below unused, rfl,
        fun failed => absurd rfl failed⟩
  | removeRule ruleId =>
    rcases fwFilterRemoveRule_cases sound ruleId with ⟨err, _, result⟩ | ⟨before, rule, after,
      table, nonempty, _, result⟩
    · exact ⟨err, state, result, sound, rfl, fun _ => rfl⟩
    · exact ⟨.okay, _, result, sound.withoutRule table nonempty, rfl,
        fun failed => absurd rfl failed⟩
  | updateDefaultAction newAction =>
    obtain ⟨defaultRule, rest, table, _⟩ := sound.defaultFirst
    rcases fwFilterUpdateDefaultAction_cases table newAction with ⟨_, result⟩ | ⟨_, result⟩
    · exact ⟨.okay, state, result, sound, rfl, fun _ => rfl⟩
    · exact ⟨.okay, _, result, sound.withDefaultAction table newAction, rfl,
        fun failed => absurd rfl failed⟩

theorem RuleStep.sound {next : FwFilterState} {call : RuleCall} (taken : RuleStep state call next)
    (sound : RuleTableSound state) :
    RuleTableSound next ∧ next.rulesCapacity = state.rulesCapacity := by
  obtain ⟨err, result⟩ := taken
  obtain ⟨err', next', result', soundNext, capacity, _⟩ := call.perform_sound sound
  rw [result] at result'
  obtain ⟨_, rfl⟩ := result'
  exact ⟨soundNext, capacity⟩

/-! ### Initialisation -/

theorem zeroed_allocated (rulesCapacity instancesCapacity ruleId : Nat) :
    (zeroed rulesCapacity instancesCapacity).ruleIdBitmap.allocated ruleId = false :=
  testBit_zeroed _ _

theorem zeroed_blocks (rulesCapacity instancesCapacity : Nat) :
    rulesCapacity ≤ ruleIdBitmapBlkSize *
      (zeroed rulesCapacity instancesCapacity).ruleIdBitmap.idBitmap.length := by
  show rulesCapacity ≤ ruleIdBitmapBlkSize * (replicate _ _).length
  rw [length_replicate, ruleIdBitmapBlkSize]
  omega

theorem withFirstRule_sound (rulesCapacity instancesCapacity : Nat) (positive : 0 < rulesCapacity)
    (isDefault : defaultRule.IsDefault) :
    RuleTableSound ((zeroed rulesCapacity instancesCapacity).withFirstRule defaultRule) where
  defaultFirst := ⟨defaultRule, [], rfl, isDefault⟩
  bounded := positive
  distinct := by simp [ruleIds, withFirstRule]
  below := by
    intro ruleId member
    simp only [ruleIds, withFirstRule, map_cons, map_nil, mem_singleton] at member
    rw [member, isDefault.ruleId]
    exact positive
  bitmap := by
    intro ruleId
    have inside : defaultActionRuleId / ruleIdBitmapBlkSize <
        (zeroed rulesCapacity instancesCapacity).ruleIdBitmap.idBitmap.length :=
      block_inside (zeroed_blocks rulesCapacity instancesCapacity) positive
    show (FwRuleIdBitmap.reserve _ defaultActionRuleId).allocated ruleId = true ↔ _
    rw [allocated_reserve ruleId inside, zeroed_allocated]
    simp [ruleIds, withFirstRule, isDefault.ruleId]
  blocks := by
    show rulesCapacity ≤ ruleIdBitmapBlkSize * (setBit _ _).length
    rw [setBit_length]
    exact zeroed_blocks rulesCapacity instancesCapacity

/-- Adding the initial rules keeps the state sound and the instance table as it is, or fails
because the configured rules do not fit or clash. -/
theorem addInitialRules_sound (sound : RuleTableSound state) (rules : List FwRule) :
    rules.foldlM addInitialRule state = .error .initialRuleAdded ∨
      ∃ next, rules.foldlM addInitialRule state = .ok next ∧ RuleTableSound next ∧
        next.rulesCapacity = state.rulesCapacity ∧
        next.internalInstancesTable = state.internalInstancesTable := by
  induction rules generalizing state with
  | nil => exact Or.inr ⟨state, rfl, sound, rfl, rfl⟩
  | cons rule rest inductionHypothesis =>
    rw [foldlM_cons]
    rcases fwFilterAddRule_cases sound rule.addArgs with ⟨err, failed, result, _⟩ | ⟨ruleId, result,
      room, _, _, below, unused⟩
    · left
      have refused : addInitialRule state rule = .error .initialRuleAdded := by
        rw [addInitialRule, result]
        cases err <;> first | rfl | exact absurd rfl failed
      rw [refused]
      rfl
    · have added : addInitialRule state rule = .ok (state.withRule rule.addArgs ruleId) := by
        rw [addInitialRule, result]
      rw [added]
      exact inductionHypothesis (sound.withRule rule.addArgs room below unused)

/-- On zeroed memory initialisation either fails on the configured rules or starts a sound
filter without instances. -/
theorem fwFilterStateInit_sound (rulesCapacity instancesCapacity : Nat)
    (positive : 0 < rulesCapacity) (initialRules : List FwRule) :
    (∃ assertion, fwFilterStateInit (.zeroed rulesCapacity instancesCapacity) initialRules =
        .error assertion ∧ (assertion = .firstRuleIsDefault ∨ assertion = .initialRuleAdded)) ∨
      ∃ start, fwFilterStateInit (.zeroed rulesCapacity instancesCapacity) initialRules =
          .ok start ∧ RuleTableSound start ∧ start.rulesCapacity = rulesCapacity ∧
        start.internalInstancesTable = [] := by
  have noRules : (zeroed rulesCapacity instancesCapacity).ruleTable = [] := rfl
  unfold fwFilterStateInit
  rw [zeroed_allocated, noRules, if_neg (by simp)]
  cases initialRules with
  | nil => exact Or.inl ⟨_, rfl, Or.inl rfl⟩
  | cons defaultRule rest =>
    dsimp only
    split
    case isTrue shape =>
      obtain ⟨srcSubnet, srcPortAny, dstSubnet, dstPortAny, ruleId⟩ := shape
      have sound := withFirstRule_sound rulesCapacity instancesCapacity positive
        ⟨srcSubnet, srcPortAny, dstSubnet, dstPortAny, ruleId⟩
      rcases addInitialRules_sound sound rest with failed | ⟨start, result, soundStart, capacity,
        instances⟩
      · exact Or.inl ⟨_, failed, Or.inr rfl⟩
      · exact Or.inr ⟨start, result, soundStart, capacity, instances⟩
    case isFalse => exact Or.inl ⟨_, rfl, Or.inl rfl⟩

/-- From initialisation on zeroed memory, any sequence of rule calls keeps the table and the
bitmap in step: the default rule first, ids distinct and below the capacity, and the set bits
exactly the ids in the table. So an id is found whenever the table has room, no assertion of
the rule code fires, and a call that reports an error changes nothing. -/
theorem filter_rules_sound (rulesCapacity instancesCapacity : Nat) (positive : 0 < rulesCapacity)
    (initialRules : List FwRule) :
    (∀ assertion, fwFilterStateInit (.zeroed rulesCapacity instancesCapacity) initialRules =
        .error assertion → assertion = .firstRuleIsDefault ∨ assertion = .initialRuleAdded) ∧
      ∀ start calls state,
        fwFilterStateInit (.zeroed rulesCapacity instancesCapacity) initialRules = .ok start →
        Run RuleStep start calls state →
        (1 ≤ state.ruleTable.length ∧ state.ruleTable.length ≤ rulesCapacity ∧
          (∃ defaultRule rest, state.ruleTable = defaultRule :: rest ∧ defaultRule.IsDefault) ∧
          state.ruleIds.Nodup ∧ (∀ ruleId ∈ state.ruleIds, ruleId < rulesCapacity) ∧
          ∀ ruleId, state.ruleIdBitmap.allocated ruleId = true ↔ ruleId ∈ state.ruleIds) ∧
        (state.ruleTable.length < rulesCapacity → ∃ ruleId next,
          rulesReserveId state = .ok (.okay, some ruleId, next) ∧
            ruleId ≠ defaultActionRuleId ∧ ruleId ∉ state.ruleIds) ∧
        ∀ call : RuleCall, ∃ err next, call.perform state = .ok (err, next) ∧
          (err ≠ .okay → next = state) := by
  rcases fwFilterStateInit_sound rulesCapacity instancesCapacity positive initialRules with
    ⟨assertion, failed, reason⟩ | ⟨started, result, soundStart, capacity, _⟩
  · refine ⟨?_, ?_⟩
    · intro other failed'
      rw [failed, Except.error.injEq] at failed'
      exact failed' ▸ reason
    · intro start calls state result
      rw [failed] at result
      cases result
  · refine ⟨fun assertion failed => ?_, ?_⟩
    · rw [result] at failed
      cases failed
    · intro start calls state result' run
      rw [result, Except.ok.injEq] at result'
      subst result'
      obtain ⟨sound, sameCapacity⟩ := run.invariant
        (fun state => RuleTableSound state ∧ state.rulesCapacity = rulesCapacity)
        ⟨soundStart, capacity⟩ fun _ _ _ inv taken =>
          ⟨(taken.sound inv.1).1, (taken.sound inv.1).2.trans inv.2⟩
      subst sameCapacity
      refine ⟨⟨sound.length_pos, sound.bounded, sound.defaultFirst, sound.distinct, sound.below,
        sound.bitmap⟩, ?_, ?_⟩
      · intro room
        obtain ⟨ruleId, reserved, notDefault, _, unused⟩ := rulesReserveId_spec sound room
        exact ⟨ruleId, _, reserved, notDefault, unused⟩
      · intro call
        obtain ⟨err, next, performed, _, _, unchanged⟩ := call.perform_sound sound
        exact ⟨err, next, performed, unchanged⟩

/-- Capacity 65 has a bitmap block with one usable bit. -/
theorem filter_rules_sound_capacity_65 :
    ∃ start, fwFilterStateInit (.zeroed 65 1) [defaultActionRule allow] = .ok start ∧
      ∃ ruleId next, rulesReserveId start = .ok (.okay, some ruleId, next) ∧
        ruleId ≠ defaultActionRuleId ∧ ruleId ∉ start.ruleIds :=
  ⟨_, rfl, ((filter_rules_sound 65 1 (by decide) [defaultActionRule allow]).2
    _ [] _ rfl Run.nil).2.1 (by decide)⟩

end LionsOS.Firewall
