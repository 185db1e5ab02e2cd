/-
This file runs the filters of one protocol together, one an interface, each
searching the instances of all the others for return traffic. An instance is
only ever the trace of a packet processed under a connect rule, and it does not
outlive that rule: every way a rule leaves the table, or stops connecting,
takes its instances with it before its id can be given out again. So return
traffic is let through only for a connection whose rule has been in force ever
since, or because a rule of the filter itself carries the established action,
which the filter's functions do not refuse.
-/

import LionsOS.Firewall.FilterRules
import Mathlib.Data.List.FinRange

open Function

namespace LionsOS.Firewall

open StepRun FwAction List

variable {existing : FwInstance} {state next : FwFilterState} {ruleId : Nat} {flow : PacketFlow}

/-! ### The filters of one protocol -/

/-- What a filter is asked to do: a rule call, or to process a packet. -/
inductive FilterCall where
  | rules (call : RuleCall)
  | packet (flow : PacketFlow)

/-- The filters of one protocol, one an interface. -/
abbrev FilterGroup (interfaces : Nat) := Fin interfaces → FwFilterState

variable {interfaces : Nat}

variable {group start : FilterGroup interfaces} {interface : Fin interfaces}
  {label : Fin interfaces × FilterCall} {labels : List (Fin interfaces × FilterCall)}

/-- The external tables of a filter: the internal ones of all the others. -/
def FilterGroup.externalInstances (group : FilterGroup interfaces) (interface : Fin interfaces) :
    List (List FwInstance) :=
  ((finRange interfaces).filter fun other => other ≠ interface).map fun other =>
    (group other).internalInstancesTable

/-- One filter carries out one call. -/
def GroupStep (group : FilterGroup interfaces) (label : Fin interfaces × FilterCall)
    (next : FilterGroup interfaces) : Prop :=
  match label.2 with
  | .rules call => ∃ state, RuleStep (group label.1) call state ∧
      next = update group label.1 state
  | .packet flow => next = update group label.1
      (filterPacket (group label.1) (group.externalInstances label.1) flow).2.2

theorem mem_externalInstances :
    existing ∈ (group.externalInstances interface).flatten ↔
      ∃ neighbour, neighbour ≠ interface ∧ existing ∈ (group neighbour).internalInstancesTable := by
  unfold FilterGroup.externalInstances
  simp only [mem_flatten, mem_map, mem_filter, mem_finRange, true_and, decide_eq_true_eq]
  constructor
  · rintro ⟨_, ⟨neighbour, different, rfl⟩, member⟩
    exact ⟨neighbour, different, member⟩
  · rintro ⟨neighbour, different, member⟩
    exact ⟨_, ⟨neighbour, different, rfl⟩, member⟩

/-! ### What find_action returns -/

theorem FwInstance.admits_iff (external : FwInstance) (flow : PacketFlow) :
    external.admits flow = true ↔ flow.reversed.instance external.ruleId = external := by
  obtain ⟨srcIp, dstIp, srcPort, dstPort, ruleId⟩ := external
  simp only [admits, PacketFlow.reversed, PacketFlow.instance, FwInstance.mk.injEq, and_true]
  constructor
  · intro admitted
    split_ifs at admitted with ports addresses
    simp only [bne_iff_ne, Bool.or_eq_true, not_or, not_not] at ports addresses
    exact ⟨addresses.1.symm, addresses.2.symm, ports.1.symm, ports.2.symm⟩
  · rintro ⟨rfl, rfl, rfl, rfl⟩
    simp

theorem bestMatch_mem (flow : PacketFlow) (defaultRule : FwRule) (rules : List FwRule) :
    bestMatch flow defaultRule rules ∈ defaultRule :: rules := by
  induction rules generalizing defaultRule with
  | nil => exact mem_singleton_self _
  | cons rule rest inductionHypothesis =>
    show bestMatch flow (if rule.matchesFlow flow && rule.stronger defaultRule then rule
      else defaultRule) rest ∈ defaultRule :: rule :: rest
    split_ifs
    · exact mem_cons_of_mem _ (inductionHypothesis rule)
    · rcases mem_cons.mp (inductionHypothesis defaultRule) with same | member
      · rw [same]
        exact mem_cons_self
      · exact mem_cons_of_mem _ (mem_cons_of_mem _ member)

/-- The action comes from an external instance of the reversed flow, or else from a rule of the
table, with its id. -/
theorem fwFilterFindAction_cases (sound : RuleTableSound state) (external : List (List FwInstance))
    (flow : PacketFlow) :
    (∃ existing ∈ external.flatten, flow.reversed.instance existing.ruleId = existing ∧
        fwFilterFindAction state external flow = (established, existing.ruleId)) ∨
      (∀ existing ∈ external.flatten, existing.admits flow = false) ∧ ∃ rule ∈ state.ruleTable,
          fwFilterFindAction state external flow = (loaded rule.action, rule.ruleId) := by
  unfold fwFilterFindAction
  cases found : external.flatten.find? fun existing => existing.admits flow with
  | some existing =>
    have admitted := find?_some found
    exact Or.inl ⟨existing, mem_of_find?_eq_some found,
      (FwInstance.admits_iff existing flow).mp admitted, rfl⟩
  | none =>
    obtain ⟨defaultRule, rest, table, _⟩ := sound.defaultFirst
    refine Or.inr ⟨?_, bestMatch flow defaultRule rest, ?_, ?_⟩
    · intro existing member
      simpa using find?_eq_none.mp found existing member
    · rw [table]
      exact bestMatch_mem flow defaultRule rest
    · rw [table]
      rfl

/-! ### How a step changes the instances of a filter -/

/-- The rule is in the table and connects. -/
structure FwRule.InForce (rule : FwRule) (state : FwFilterState) : Prop where
  member : rule ∈ state.ruleTable
  connects : loaded rule.action = connect

/-- An instance that is left of a table was there, and if the instances of a rule were purged, it is
of another rule. -/
theorem kept_of_purged {connects : Prop} [Decidable connects] {table : List FwInstance}
    (left : existing ∈ if connects then
      SwapPurge.purge (fun other => ruleId == other.ruleId) table else table) :
    existing ∈ table ∧ (connects → ruleId ≠ existing.ruleId) := by
  split_ifs at left with connect
  · obtain ⟨member, other⟩ := SwapPurge.mem_purge.mp left
    exact ⟨member, fun _ same => by simp [same] at other⟩
  · exact ⟨left, fun connects => absurd connects connect⟩

/-- A rule call creates no instance, and an instance that is left keeps its rule in force. -/
theorem RuleStep.instances_kept {call : RuleCall} (taken : RuleStep state call next)
    (sound : RuleTableSound state) (left : existing ∈ next.internalInstancesTable) :
    existing ∈ state.internalInstancesTable ∧
      ∀ rule : FwRule, rule.ruleId = existing.ruleId → rule.InForce state → rule.InForce next := by
  obtain ⟨err, performed⟩ := taken
  cases call with
  | addRule args =>
    rw [RuleCall.perform] at performed
    rcases fwFilterAddRule_cases sound args with ⟨_, _, result, _⟩ | ⟨ruleId, result, _⟩
    · rw [result] at performed
      cases performed
      exact ⟨left, fun _ _ inForce => inForce⟩
    · rw [result] at performed
      cases performed
      exact ⟨left, fun rule _ inForce =>
        ⟨mem_append_left _ inForce.member, inForce.connects⟩⟩
  | removeRule ruleId =>
    rw [RuleCall.perform] at performed
    rcases fwFilterRemoveRule_cases sound ruleId with ⟨_, _, result⟩ | ⟨before, removed, after,
      table, _, _, result⟩
    · rw [result] at performed
      cases performed
      exact ⟨left, fun _ _ inForce => inForce⟩
    · rw [result] at performed
      cases performed
      have kept := kept_of_purged left
      refine ⟨kept.1, fun rule sameId inForce => ⟨?_, inForce.connects⟩⟩
      have member := inForce.member
      rw [table, mem_append, mem_cons] at member
      rcases member with member | rfl | member
      · exact mem_append_left _ member
      · exact absurd sameId (kept.2 inForce.connects)
      · exact mem_append_right _ member
  | updateDefaultAction newAction =>
    obtain ⟨defaultRule, rest, table, isDefault⟩ := sound.defaultFirst
    rw [RuleCall.perform] at performed
    rcases fwFilterUpdateDefaultAction_cases table newAction with ⟨_, result⟩ | ⟨_, result⟩
    · rw [result] at performed
      cases performed
      exact ⟨left, fun _ _ inForce => inForce⟩
    · rw [result] at performed
      cases performed
      have kept := kept_of_purged left
      refine ⟨kept.1, fun rule sameId inForce => ⟨?_, inForce.connects⟩⟩
      have member := inForce.member
      rw [table, mem_cons] at member
      rcases member with rfl | member
      · exact absurd (isDefault.ruleId.symm.trans sameId) (kept.2 inForce.connects)
      · exact mem_cons_of_mem _ member

/-- Processing a packet keeps the rules, and at most creates the instance of a packet for which
a connect rule of the table was found. -/
theorem filterPacket_instances (sound : RuleTableSound state) (external : List (List FwInstance))
    (flow : PacketFlow) :
    (filterPacket state external flow).2.2 = state ∨ ∃ rule : FwRule, rule.InForce state ∧
        fwFilterFindAction state external flow = (connect, rule.ruleId) ∧
        (filterPacket state external flow).2.2 = { state with
          internalInstancesTable :=
            state.internalInstancesTable ++ [flow.instance rule.ruleId] } := by
  unfold filterPacket
  rcases fwFilterFindAction_cases sound external flow with ⟨existing, _, _, result⟩ | ⟨_, rule,
    member, result⟩
  · left
    simp only [result]
    rw [if_neg (by decide)]
  · rw [result]
    by_cases connect : loaded rule.action = connect
    · simp only [connect, if_true]
      unfold fwFilterAddInstance
      split_ifs
      · exact Or.inl rfl
      · exact Or.inl rfl
      · exact Or.inr ⟨rule, ⟨member, connect⟩, rfl, rfl⟩
    · left
      simp only [if_neg connect]

/-! ### Where an instance comes from -/

/-- At some moment of the run the filter of `interface` processed a packet of this flow under
the rule, and the rule has been in force ever since. -/
def ConnectedSince (start : FilterGroup interfaces) (labels : List (Fin interfaces × FilterCall))
    (group : FilterGroup interfaces) (interface : Fin interfaces) (flow : PacketFlow)
    (rule : FwRule) : Prop :=
  ∃ before after earlier, labels = before ++ (interface, .packet flow) :: after ∧
    Run GroupStep start before earlier ∧
    fwFilterFindAction (earlier interface) (earlier.externalInstances interface) flow =
      (connect, rule.ruleId) ∧
    Run (Within (fun group => rule.InForce (group interface)) GroupStep) earlier
      ((interface, .packet flow) :: after) group

theorem ConnectedSince.snoc {start group next : FilterGroup interfaces}
    {labels : List (Fin interfaces × FilterCall)} {label : Fin interfaces × FilterCall}
    {interface : Fin interfaces} {flow : PacketFlow} {rule : FwRule}
    (since : ConnectedSince start labels group interface flow rule)
    (inForce : rule.InForce (group interface)) (taken : GroupStep group label next)
    (inForceNext : rule.InForce (next interface)) :
    ConnectedSince start (labels ++ [label]) next interface flow rule := by
  obtain ⟨before, after, earlier, rfl, first, found, later⟩ := since
  refine ⟨before, after ++ [label], earlier, by simp, first, found, ?_⟩
  exact later.snoc ⟨inForce, taken, inForceNext⟩

/-- The states a group can be in: every filter sound, and every instance created under a rule
that has been in force ever since. -/
structure GroupSound (start : FilterGroup interfaces)
    (labels : List (Fin interfaces × FilterCall)) (group : FilterGroup interfaces) : Prop where
  sound : ∀ interface, RuleTableSound (group interface)
  traced : ∀ interface, ∀ existing ∈ (group interface).internalInstancesTable,
    ∃ flow rule, flow.instance rule.ruleId = existing ∧ rule.InForce (group interface) ∧
      ConnectedSince start labels group interface flow rule

theorem GroupStep.other {next : FilterGroup interfaces} (taken : GroupStep group label next)
    (different : interface ≠ label.1) : next interface = group interface := by
  obtain ⟨acting, call⟩ := label
  cases call with
  | rules call =>
    obtain ⟨state, _, rfl⟩ := taken
    exact update_of_ne different _ _
  | packet flow =>
    rw [show next = update group acting _ from taken]
    exact update_of_ne different _ _

theorem GroupSound.step {next : FilterGroup interfaces} (inv : GroupSound start labels group)
    (run : Run GroupStep start labels group) (taken : GroupStep group label next) :
    GroupSound start (labels ++ [label]) next := by
  have whole := taken
  obtain ⟨acting, call⟩ := label
  -- The other filters keep their state, so only the acting one is looked at.
  refine ⟨fun interface => ?_, fun interface existing member => ?_⟩
  · by_cases same : interface = acting
    · subst same
      cases call with
      | rules call =>
        obtain ⟨state, step, rfl⟩ := taken
        rw [update_self]
        exact (step.sound (inv.sound interface)).1
      | packet flow =>
        rw [show next = update group interface _ from taken, update_self]
        rcases filterPacket_instances (inv.sound interface) (group.externalInstances interface)
          flow with unchanged | ⟨rule, _, _, added⟩
        · rw [unchanged]
          exact inv.sound interface
        · rw [added]
          obtain ⟨defaultFirst, bounded, distinct, below, bitmap, blocks⟩ := inv.sound interface
          exact ⟨defaultFirst, bounded, distinct, below, bitmap, blocks⟩
    · rw [taken.other same]
      exact inv.sound interface
  · -- An instance that was there keeps its origin as long as its rule stays in force.
    have keep : existing ∈ (group interface).internalInstancesTable →
        (∀ rule : FwRule, rule.ruleId = existing.ruleId → rule.InForce (group interface) →
          rule.InForce (next interface)) →
        ∃ flow rule, flow.instance rule.ruleId = existing ∧ rule.InForce (next interface) ∧
          ConnectedSince start (labels ++ [(acting, call)]) next interface flow rule := by
      intro old stays
      obtain ⟨flow, rule, rfl, inForce, since⟩ := inv.traced interface existing old
      exact ⟨flow, rule, rfl, stays rule rfl inForce,
        since.snoc inForce whole (stays rule rfl inForce)⟩
    by_cases same : interface = acting
    · subst same
      cases call with
      | rules call =>
        obtain ⟨state, step, rfl⟩ := taken
        rw [update_self] at member keep
        obtain ⟨old, stays⟩ := step.instances_kept (inv.sound interface) member
        rw [update_self]
        exact keep old stays
      | packet flow =>
        have result : next interface = (filterPacket (group interface)
            (group.externalInstances interface) flow).2.2 := by
          rw [show next = update group interface _ from taken, update_self]
        rcases filterPacket_instances (inv.sound interface) (group.externalInstances interface)
          flow with unchanged | ⟨rule, inForce, found, added⟩
        · rw [result, unchanged] at member
          refine keep member fun rule _ inForce => ?_
          rw [result, unchanged]
          exact inForce
        · rw [result, added, mem_append, mem_singleton] at member
          have stays : ∀ rule : FwRule, rule.InForce (group interface) →
              rule.InForce (next interface) := by
            intro rule inForce
            rw [result, added]
            exact ⟨inForce.member, inForce.connects⟩
          rcases member with old | rfl
          · exact keep old fun rule _ => stays rule
          · exact ⟨flow, rule, rfl, stays rule inForce, labels, [], group, rfl, run, found,
              Run.single ⟨inForce, whole, stays rule inForce⟩⟩
    · have unchanged := taken.other same
      rw [unchanged] at member
      refine keep member fun rule _ inForce => ?_
      rw [unchanged]
      exact inForce

/-- Every filter of the group initialised on zeroed memory. -/
def Initialised (rulesCapacity instancesCapacity : Fin interfaces → Nat)
    (initialRules : Fin interfaces → List FwRule) (start : FilterGroup interfaces) : Prop :=
  ∀ interface, fwFilterStateInit
    (.zeroed (rulesCapacity interface) (instancesCapacity interface)) (initialRules interface) =
      .ok (start interface)

theorem GroupSound.run {rulesCapacity instancesCapacity : Fin interfaces → Nat}
    (positive : ∀ interface, 0 < rulesCapacity interface)
    {initialRules : Fin interfaces → List FwRule}
    (started : Initialised rulesCapacity instancesCapacity initialRules start)
    (run : Run GroupStep start labels group) : GroupSound start labels group := by
  induction run with
  | nil =>
    have initial : ∀ interface, RuleTableSound (start interface) ∧
        (start interface).internalInstancesTable = [] := by
      intro interface
      rcases fwFilterStateInit_sound (rulesCapacity interface) (instancesCapacity interface)
        (positive interface) (initialRules interface) with ⟨_, failed, _⟩ | ⟨state, result, sound,
        _, noInstances⟩
      · rw [started interface] at failed
        cases failed
      · rw [started interface, Except.ok.injEq] at result
        subst result
        exact ⟨sound, noInstances⟩
    refine ⟨fun interface => (initial interface).1, fun interface existing member => ?_⟩
    rw [(initial interface).2] at member
    cases member
  | snoc before last inductionHypothesis => exact inductionHypothesis.step before last

/-! ### What the instances promise -/

theorem RuleTableSound.unique (sound : RuleTableSound state) {rule other : FwRule}
    (member : rule ∈ state.ruleTable) (otherMember : other ∈ state.ruleTable)
    (sameId : rule.ruleId = other.ruleId) : rule = other :=
  inj_on_of_nodup_map sound.distinct member otherMember sameId

/-- Every instance of the filter belongs to a rule in force. -/
def InstancesConnected (state : FwFilterState) : Prop :=
  ∀ existing ∈ state.internalInstancesTable, ∃ rule : FwRule,
    rule.InForce state ∧ rule.ruleId = existing.ruleId

theorem GroupSound.instancesConnected (inv : GroupSound start labels group)
    (interface : Fin interfaces) : InstancesConnected (group interface) := by
  intro existing member
  obtain ⟨_, rule, rfl, inForce, _⟩ := inv.traced interface existing member
  exact ⟨rule, inForce, rfl⟩

/-- Return traffic is recognised only by a connection in force, or by an established rule. -/
theorem GroupSound.established (inv : GroupSound start labels group)
    (found : fwFilterFindAction (group interface) (group.externalInstances interface) flow =
      (established, ruleId)) :
    (∃ neighbour, neighbour ≠ interface ∧ ∃ rule : FwRule, rule.ruleId = ruleId ∧
        rule.InForce (group neighbour) ∧
        ConnectedSince start labels group neighbour flow.reversed rule) ∨
      (∀ existing ∈ (group.externalInstances interface).flatten, existing.admits flow = false) ∧
        ∃ rule ∈ (group interface).ruleTable,
          loaded rule.action = established ∧ rule.ruleId = ruleId := by
  rcases fwFilterFindAction_cases (inv.sound interface) (group.externalInstances interface) flow
    with ⟨existing, member, reversed, result⟩ | ⟨none, rule, member, result⟩
  · left
    obtain ⟨neighbour, different, member⟩ := mem_externalInstances.mp member
    obtain ⟨flow', rule, traced, inForce, since⟩ := inv.traced neighbour existing member
    have sameFlow : flow' = flow.reversed ∧ rule.ruleId = existing.ruleId := by
      rw [← reversed] at traced
      simp only [PacketFlow.instance, FwInstance.mk.injEq] at traced
      obtain ⟨srcIp, dstIp, srcPort, dstPort, ruleId⟩ := traced
      obtain ⟨_, _, _, _⟩ := flow'
      exact ⟨by subst srcIp dstIp srcPort dstPort; rfl, ruleId⟩
    obtain ⟨rfl, sameId⟩ := sameFlow
    rw [result, Prod.mk.injEq] at found
    exact ⟨neighbour, different, rule, sameId.trans found.2, inForce, since⟩
  · right
    rw [result, Prod.mk.injEq] at found
    exact ⟨none, rule, member, found⟩

/-- An id that is given out again has no instance left from its last rule. -/
theorem InstancesConnected.fresh (sound : RuleTableSound state)
    (connected : InstancesConnected state) {args : FwFilterAddArgs}
    (added : fwFilterAddRule state args = .ok (.okay, some ruleId, next)) :
    ∀ existing ∈ next.internalInstancesTable, existing.ruleId ≠ ruleId := by
  rcases fwFilterAddRule_cases sound args with ⟨_, failed, result, _⟩ | ⟨fresh, result, _, _, _, _,
    unused⟩
  · rw [result] at added
    cases added
  · rw [result] at added
    cases added
    intro existing member sameId
    obtain ⟨rule, inForce, ruleSame⟩ := connected existing member
    refine unused ?_
    rw [← sameId, ← ruleSame]
    exact mem_map_of_mem inForce.member

theorem InstancesConnected.removed {state next : FwFilterState} (sound : RuleTableSound state)
    (connected : InstancesConnected state) {ruleId : Nat}
    (removed : fwFilterRemoveRule state ruleId = .ok (.okay, next)) :
    ∀ existing ∈ next.internalInstancesTable, existing.ruleId ≠ ruleId := by
  rcases fwFilterRemoveRule_cases sound ruleId with ⟨_, failed, result⟩ | ⟨before, rule, after,
    table, _, sameId, result⟩
  · rw [result] at removed
    cases removed
    exact absurd rfl failed
  · rw [result] at removed
    cases removed
    subst sameId
    intro existing member same
    simp only [FwFilterState.withoutRule] at member
    split_ifs at member with connect
    · have other := (SwapPurge.mem_purge.mp member).2
      simp [same] at other
    · obtain ⟨owner, inForce, ownerId⟩ := connected existing member
      have sameRule : owner = rule := sound.unique inForce.member
        (by rw [table]; simp) (ownerId.trans same)
      exact connect (sameRule ▸ inForce.connects)

theorem InstancesConnected.defaultChanged (sound : RuleTableSound state)
    (connected : InstancesConnected state) {newAction : FwAction}
    (updated : fwFilterUpdateDefaultAction state newAction = .ok (.okay, next))
    (away : newAction ≠ connect) :
    ∀ existing ∈ next.internalInstancesTable, existing.ruleId ≠ defaultActionRuleId := by
  obtain ⟨defaultRule, rest, table, isDefault⟩ := sound.defaultFirst
  -- As long as the default does not connect, no instance carries its id.
  have notConnecting : loaded defaultRule.action ≠ connect →
      ∀ existing ∈ state.internalInstancesTable, existing.ruleId ≠ defaultActionRuleId := by
    intro notConnect existing member same
    obtain ⟨owner, inForce, ownerId⟩ := connected existing member
    have sameRule : owner = defaultRule := sound.unique inForce.member
      (by rw [table]; exact mem_cons_self) (by rw [ownerId, same, isDefault.ruleId])
    exact notConnect (sameRule ▸ inForce.connects)
  rcases fwFilterUpdateDefaultAction_cases table newAction with ⟨same, result⟩ | ⟨_, result⟩
  · rw [result] at updated
    cases updated
    exact notConnecting (same ▸ away)
  · rw [result] at updated
    cases updated
    intro existing member same
    simp only [FwFilterState.withDefaultAction] at member
    split_ifs at member with connect
    · have other := (SwapPurge.mem_purge.mp member).2
      simp [same] at other
    · exact notConnecting connect existing member same

/-- In any interleaving of the filters of one protocol, every instance belongs to a connect rule
in force. So a packet is found established only when a neighbour processed the reversed flow
under a connect rule in force ever since, or when no instance matches and the filter's own rule
carries the established action; and neither an id given out again, nor a removed rule, nor a
default changed away from connect has an instance. -/
theorem established_has_rule_in_force (rulesCapacity instancesCapacity : Fin interfaces → Nat)
    (positive : ∀ interface, 0 < rulesCapacity interface)
    (initialRules : Fin interfaces → List FwRule) (start group : FilterGroup interfaces)
    (started : Initialised rulesCapacity instancesCapacity initialRules start)
    (labels : List (Fin interfaces × FilterCall)) (run : Run GroupStep start labels group)
    (interface : Fin interfaces) :
    InstancesConnected (group interface) ∧
      (∀ flow ruleId, fwFilterFindAction (group interface) (group.externalInstances interface)
          flow = (established, ruleId) →
        (∃ neighbour, neighbour ≠ interface ∧ ∃ rule : FwRule, rule.ruleId = ruleId ∧
            rule.InForce (group neighbour) ∧
            ConnectedSince start labels group neighbour flow.reversed rule) ∨
          (∀ existing ∈ (group.externalInstances interface).flatten, existing.admits flow = false) ∧
            ∃ rule ∈ (group interface).ruleTable,
              loaded rule.action = established ∧ rule.ruleId = ruleId) ∧
      (∀ args ruleId next, fwFilterAddRule (group interface) args = .ok (.okay, some ruleId, next) →
        ∀ existing ∈ next.internalInstancesTable, existing.ruleId ≠ ruleId) ∧
      (∀ ruleId next, fwFilterRemoveRule (group interface) ruleId = .ok (.okay, next) →
        ∀ existing ∈ next.internalInstancesTable, existing.ruleId ≠ ruleId) ∧
      ∀ newAction next, fwFilterUpdateDefaultAction (group interface) newAction = .ok (.okay, next) →
        newAction ≠ connect →
        ∀ existing ∈ next.internalInstancesTable, existing.ruleId ≠ defaultActionRuleId := by
  have inv := GroupSound.run positive started run
  have sound := inv.sound interface
  have connected := inv.instancesConnected interface
  exact ⟨connected, fun _ _ found => inv.established found,
    fun _ _ _ added => connected.fresh sound added,
    fun _ _ removed => connected.removed sound removed,
    fun _ _ updated away => connected.defaultChanged sound updated away⟩

/-- The default rules of a pair of filters: the first connects, the second rejects. -/
def connectAndReject (interface : Fin 2) : List FwRule :=
  [defaultActionRule (if interface = 0 then connect else reject)]

/-- The pair right after initialisation. -/
def connectAndRejectStart : FilterGroup 2 := fun interface =>
  (FwFilterState.zeroed 4 4).withFirstRule
    (defaultActionRule (if interface = 0 then connect else reject))

theorem connectAndReject_initialised :
    Initialised (fun _ => 4) (fun _ => 4) connectAndReject connectAndRejectStart :=
  Fin.forall_fin_two.mpr ⟨rfl, rfl⟩

/-- A packet out through the first filter, and its return through the second. -/
theorem established_has_rule_in_force_for_a_return_packet :
    ∃ start group : FilterGroup 2, Initialised (fun _ => 4) (fun _ => 4) connectAndReject start ∧
      Run GroupStep start [(0, .packet ⟨7, 9, 8, 80⟩)] group ∧
      fwFilterFindAction (group 1) (group.externalInstances 1) ⟨8, 80, 7, 9⟩ = (established, 0) ∧
      ∃ rule : FwRule, rule.InForce (group 0) ∧
        ConnectedSince start [(0, .packet ⟨7, 9, 8, 80⟩)] group 0 ⟨7, 9, 8, 80⟩ rule := by
  have run : Run GroupStep connectAndRejectStart [((0 : Fin 2), FilterCall.packet ⟨7, 9, 8, 80⟩)] _ :=
    Run.snoc Run.nil rfl
  refine ⟨_, _, connectAndReject_initialised, run, by decide, ?_⟩
  have promised := (established_has_rule_in_force (fun _ => 4) (fun _ => 4) (fun _ => by decide)
    connectAndReject _ _ connectAndReject_initialised _ run 1).2.1 ⟨8, 80, 7, 9⟩ 0 (by decide)
  rcases promised with ⟨neighbour, different, rule, _, inForce, since⟩ | ⟨none, _⟩
  · have first : neighbour = 0 := by omega
    subst first
    exact ⟨rule, inForce, since⟩
  · exact absurd (none (PacketFlow.instance ⟨7, 9, 8, 80⟩ 0) (by decide)) (by decide)

/-- Storing the established action in the default rule makes a filter find every packet
established although its neighbour never processed one. -/
theorem established_without_a_connection :
    ∃ start group : FilterGroup 2, Initialised (fun _ => 4) (fun _ => 4) connectAndReject start ∧
      Run GroupStep start [(1, .rules (.updateDefaultAction established))] group ∧
      fwFilterFindAction (group 1) (group.externalInstances 1) ⟨8, 80, 7, 9⟩ = (established, 0) ∧
      ¬ ∃ neighbour flow rule, ConnectedSince start
        [(1, .rules (.updateDefaultAction established))] group neighbour flow rule := by
  refine ⟨_, _, connectAndReject_initialised, Run.snoc Run.nil ⟨_, ⟨.okay, rfl⟩, rfl⟩, by decide, ?_⟩
  rintro ⟨neighbour, flow, rule, before, after, _, split, _⟩
  have packetCall : ((neighbour, FilterCall.packet flow) : Fin 2 × FilterCall) ∈
      before ++ (neighbour, .packet flow) :: after := by simp
  rw [← split] at packetCall
  simp at packetCall

end LionsOS.Firewall
