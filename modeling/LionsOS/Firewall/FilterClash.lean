/-
This file compares the two places that order filter rules: the clash test made
when a rule is added, and the specificity test made when a packet is matched.
Two rules can tie on a packet exactly when they govern the same traffic: equal
subnets, equal masked addresses, the same ports left open and the same port
wherever one is fixed. The clash test also compares the port fields that an
"any port" flag leaves without meaning, so it overlooks rules that differ only
there. The outcome of a packet is independent of the order of insertion exactly
as long as no rule with another action is overlooked.
-/

import LionsOS.Firewall.FilterRules
import LionsOS.Lib.Fallible

namespace LionsOS.Firewall

open StepRun FwAction FwFilterState

variable {others rules : List FwRule} {state next : FwFilterState} {rule : FwRule}

/-! ### Specificity is a rank -/

/-- The specificity of a rule as a number: source subnet, then destination subnet, then a
fixed source port, then a fixed destination port. -/
def FwRule.rank (rule : FwRule) : Nat :=
  ((rule.srcSubnet.toNat * 256 + rule.dstSubnet.toNat) * 2 + (!rule.srcPortAny).toNat) * 2 +
    (!rule.dstPortAny).toNat

open FwRule

theorem FwRule.stronger_iff (rule best : FwRule) :
    rule.stronger best = true ↔ best.rank < rule.rank := by
  unfold stronger rank
  simp only [← BitVec.toNat_inj, BitVec.lt_def]
  cases rule.srcPortAny <;> cases best.srcPortAny <;> cases rule.dstPortAny <;>
    cases best.dstPortAny <;>
    simp only [Bool.not_true, Bool.not_false, Bool.toNat_true, Bool.toNat_false, reduceCtorEq,
      if_false, Bool.and_true, Bool.and_false] <;>
    split_ifs <;> simp only [decide_eq_true_iff, false_iff, true_iff] <;> omega

/-- Two rules between which the packet matching has no preference. -/
def FwRule.EquallySpecific (rule other : FwRule) : Prop :=
  rule.stronger other = false ∧ other.stronger rule = false

theorem FwRule.equallySpecific_iff_rank (rule other : FwRule) :
    rule.EquallySpecific other ↔ rule.rank = other.rank := by
  rw [EquallySpecific, ← Bool.not_eq_true, ← Bool.not_eq_true, stronger_iff, stronger_iff]
  omega

theorem FwRule.equallySpecific_iff (rule other : FwRule) :
    rule.EquallySpecific other ↔ rule.srcSubnet = other.srcSubnet ∧
      rule.dstSubnet = other.dstSubnet ∧ rule.srcPortAny = other.srcPortAny ∧
      rule.dstPortAny = other.dstPortAny := by
  rw [equallySpecific_iff_rank, ← BitVec.toNat_inj, ← BitVec.toNat_inj]
  unfold rank
  cases rule.srcPortAny <;> cases other.srcPortAny <;> cases rule.dstPortAny <;>
    cases other.dstPortAny <;>
    simp only [Bool.not_true, Bool.not_false, Bool.toNat_true, Bool.toNat_false, reduceCtorEq,
      and_true, and_false, iff_false] <;> omega

/-! ### The best match -/

theorem bestMatch_cons (flow : PacketFlow) (best rule : FwRule) (rest : List FwRule) :
    bestMatch flow best (rule :: rest) =
      bestMatch flow (if rule.matchesFlow flow && rule.stronger best then rule else best) rest :=
  rfl

/-- The scan ends on the default rule or on a matching rule, and nothing that matches ranks
above it. A rule replaces the default only by ranking strictly above it. -/
theorem bestMatch_spec (flow : PacketFlow) (defaultRule : FwRule) (rules : List FwRule) :
    (bestMatch flow defaultRule rules = defaultRule ∨
        (bestMatch flow defaultRule rules ∈ rules ∧
          (bestMatch flow defaultRule rules).matchesFlow flow = true ∧
          defaultRule.rank < (bestMatch flow defaultRule rules).rank)) ∧
      defaultRule.rank ≤ (bestMatch flow defaultRule rules).rank ∧
      ∀ rule ∈ rules, rule.matchesFlow flow = true →
        rule.rank ≤ (bestMatch flow defaultRule rules).rank := by
  induction rules generalizing defaultRule with
  | nil => exact ⟨Or.inl rfl, le_refl _, by simp⟩
  | cons rule rest inductionHypothesis =>
    rw [bestMatch_cons]
    by_cases replaces : (rule.matchesFlow flow && rule.stronger defaultRule) = true
    · rw [if_pos replaces]
      rw [Bool.and_eq_true, stronger_iff] at replaces
      obtain ⟨chosen, least, greatest⟩ := inductionHypothesis rule
      refine ⟨Or.inr ?_, by omega, ?_⟩
      · rcases chosen with same | ⟨member, hit, above⟩
        · rw [same]
          exact ⟨List.mem_cons_self, replaces⟩
        · exact ⟨List.mem_cons_of_mem _ member, hit, by omega⟩
      · intro other otherMember hits
        rcases List.mem_cons.mp otherMember with rfl | otherMember
        · exact least
        · exact greatest other otherMember hits
    · rw [if_neg replaces]
      obtain ⟨chosen, least, greatest⟩ := inductionHypothesis defaultRule
      refine ⟨chosen.imp_right fun ⟨member, hit, above⟩ =>
        ⟨List.mem_cons_of_mem _ member, hit, above⟩, least, ?_⟩
      intro other otherMember hits
      rcases List.mem_cons.mp otherMember with rfl | otherMember
      · rw [hits, Bool.true_and, stronger_iff] at replaces
        omega
      · exact greatest other otherMember hits

/-! ### Ties, and independence of the insertion order -/

/-- No two non-default rules with different actions match one packet equally specifically. -/
def NoTies (rules : List FwRule) : Prop :=
  ∀ flow : PacketFlow, ∀ rule ∈ rules, ∀ other ∈ rules, rule.action ≠ other.action →
    rule.matchesFlow flow = true → other.matchesFlow flow = true → ¬ rule.EquallySpecific other

/-- A rule without the id the allocator happened to give it. -/
def FwRule.withoutId (rule : FwRule) : FwRule :=
  { rule with ruleId := defaultActionRuleId }

theorem FwRule.matchesFlow_withoutId (rule : FwRule) (flow : PacketFlow) :
    rule.withoutId.matchesFlow flow = rule.matchesFlow flow := rfl

theorem FwRule.action_withoutId (rule : FwRule) : rule.withoutId.action = rule.action := rfl

theorem FwRule.rank_withoutId (rule : FwRule) : rule.withoutId.rank = rule.rank := rfl

/-- Two tables hold the same rules, in any order and under any ids. -/
def SameRules (rules others : List FwRule) : Prop :=
  (rules.map withoutId).Perm (others.map withoutId)

theorem SameRules.symm (same : SameRules rules others) : SameRules others rules :=
  List.Perm.symm same

theorem SameRules.exists_mem (same : SameRules rules others) (member : rule ∈ rules) :
    ∃ other ∈ others, other.withoutId = rule.withoutId :=
  List.mem_map.mp ((List.Perm.mem_iff same).mp (List.mem_map_of_mem member))

theorem SameRules.rank_le (same : SameRules rules others) (flow : PacketFlow) (defaultRule : FwRule) :
    (bestMatch flow defaultRule rules).rank ≤ (bestMatch flow defaultRule others).rank := by
  obtain ⟨chosen, _, _⟩ := bestMatch_spec flow defaultRule rules
  obtain ⟨_, least, greatest⟩ := bestMatch_spec flow defaultRule others
  rcases chosen with isDefault | ⟨member, hit, _⟩
  · rw [isDefault]
    exact least
  · obtain ⟨other, otherMember, alike⟩ := same.exists_mem member
    rw [← rank_withoutId, ← alike]
    refine greatest other otherMember ?_
    rw [← matchesFlow_withoutId, alike]
    exact hit

theorem bestMatch_action_eq (noTies : NoTies rules) (same : SameRules rules others)
    (flow : PacketFlow) (defaultRule : FwRule) :
    (bestMatch flow defaultRule others).action = (bestMatch flow defaultRule rules).action := by
  have rank : (bestMatch flow defaultRule others).rank = (bestMatch flow defaultRule rules).rank :=
    le_antisymm (same.symm.rank_le flow defaultRule) (same.rank_le flow defaultRule)
  obtain ⟨chosen, _, _⟩ := bestMatch_spec flow defaultRule rules
  obtain ⟨chosen', _, _⟩ := bestMatch_spec flow defaultRule others
  rcases chosen with isDefault | ⟨member, hit, above⟩ <;>
    rcases chosen' with isDefault' | ⟨member', hit', above'⟩
  · rw [isDefault, isDefault']
  · rw [isDefault] at rank
    omega
  · rw [isDefault'] at rank
    omega
  · by_contra different
    obtain ⟨twin, twinMember, alike⟩ := same.symm.exists_mem member'
    have twinAction : twin.action = (bestMatch flow defaultRule others).action := by
      rw [← action_withoutId, alike, action_withoutId]
    refine noTies flow twin twinMember _ member (by rw [twinAction]; exact different) ?_ hit ?_
    · rw [← matchesFlow_withoutId, alike]
      exact hit'
    · rw [equallySpecific_iff_rank, ← rank_withoutId twin, alike, rank_withoutId, rank]

/-- A table on which the outcome of a packet does not depend on the order of insertion: its
non-default rules have no ties, and any table with the same rules finds the same action. -/
structure OrderIndependent (state : FwFilterState) : Prop where
  noTies : NoTies state.ruleTable.tail
  outcome : ∀ (others : List FwRule) (external : List (List FwInstance)) (flow : PacketFlow),
    SameRules state.ruleTable.tail others →
    (fwFilterFindAction
      { state with ruleTable := state.ruleTable.headD zeroed :: others } external flow).1 =
      (fwFilterFindAction state external flow).1

theorem orderIndependent_iff (state : FwFilterState) :
    OrderIndependent state ↔ NoTies state.ruleTable.tail := by
  refine ⟨fun independent => independent.noTies, fun noTies => ⟨noTies, ?_⟩⟩
  intro others external flow same
  unfold fwFilterFindAction
  cases external.flatten.find? fun external => external.admits flow with
  | some _ => rfl
  | none =>
    exact congrArg loaded (bestMatch_action_eq noTies same flow (state.ruleTable.headD zeroed))

/-! ### What the clash test overlooks -/

/-- The new rule governs the same traffic as a rule of the table. -/
structure FwFilterAddArgs.SameTraffic (args : FwFilterAddArgs) (rule : FwRule) : Prop where
  srcPortAny : args.srcPortAny = rule.srcPortAny
  dstPortAny : args.dstPortAny = rule.dstPortAny
  srcSubnet : args.srcSubnet = rule.srcSubnet
  dstSubnet : args.dstSubnet = rule.dstSubnet
  srcIp : subnetMask args.srcSubnet &&& args.srcIp = subnetMask rule.srcSubnet &&& rule.srcIp
  dstIp : subnetMask args.dstSubnet &&& args.dstIp = subnetMask rule.dstSubnet &&& rule.dstIp
  srcPort : args.srcPortAny = false → args.srcPort = rule.srcPort
  dstPort : args.dstPortAny = false → args.dstPort = rule.dstPort

theorem FwFilterAddArgs.clashes_iff (args : FwFilterAddArgs) (rule : FwRule) :
    args.clashes rule = true ↔
      args.SameTraffic rule ∧ args.srcPort = rule.srcPort ∧ args.dstPort = rule.dstPort := by
  unfold clashes
  constructor
  · intro clash
    split_ifs at clash with srcAny dstAny ports subnets src dst
    simp only [bne_iff_ne, Bool.or_eq_true, not_or, not_not] at ports subnets src dst
    refine ⟨⟨?_, ?_, subnets.1, subnets.2, src, dst, fun _ => ports.1, fun _ => ports.2⟩, ports⟩
    · cases left : args.srcPortAny <;> cases right : rule.srcPortAny <;>
        simp [left, right] at srcAny ⊢
    · cases left : args.dstPortAny <;> cases right : rule.dstPortAny <;>
        simp [left, right] at dstAny ⊢
  · rintro ⟨same, srcPort, dstPort⟩
    rw [same.srcPortAny, same.dstPortAny, srcPort, dstPort, same.srcIp, same.dstIp,
      same.srcSubnet, same.dstSubnet]
    simp

theorem FwRule.matchesFlow_iff (rule : FwRule) (flow : PacketFlow) :
    rule.matchesFlow flow = true ↔ (rule.srcPortAny = false → rule.srcPort = flow.srcPort) ∧
        (rule.dstPortAny = false → rule.dstPort = flow.dstPort) ∧
        subnetMask rule.srcSubnet &&& flow.srcIp = subnetMask rule.srcSubnet &&& rule.srcIp ∧
        subnetMask rule.dstSubnet &&& flow.dstIp = subnetMask rule.dstSubnet &&& rule.dstIp := by
  unfold matchesFlow
  cases rule.srcPortAny <;> cases rule.dstPortAny <;> simp [and_assoc]

theorem mask_and_masked (mask address : UInt32T) :
    mask &&& (mask &&& address) = mask &&& address := by
  rw [← BitVec.and_assoc, BitVec.and_self]

/-- Two rules tie on some packet exactly when one governs the traffic of the other. -/
theorem FwFilterAddArgs.sameTraffic_iff_tie (args : FwFilterAddArgs) (ruleId : Nat)
    (rule : FwRule) :
    args.SameTraffic rule ↔ ∃ flow : PacketFlow, (args.rule ruleId).matchesFlow flow = true ∧
      rule.matchesFlow flow = true ∧ (args.rule ruleId).EquallySpecific rule := by
  simp only [equallySpecific_iff, matchesFlow_iff, FwFilterAddArgs.rule, mask_and_masked]
  constructor
  · intro same
    -- The packet with the very addresses and ports of the new rule.
    refine ⟨⟨args.srcIp, args.srcPort, args.dstIp, args.dstPort⟩,
      ⟨fun _ => rfl, fun _ => rfl, rfl, rfl⟩, ⟨?_, ?_, ?_, ?_⟩,
      same.srcSubnet, same.dstSubnet, same.srcPortAny, same.dstPortAny⟩
    · intro fixed
      exact (same.srcPort (same.srcPortAny.trans fixed)).symm
    · intro fixed
      exact (same.dstPort (same.dstPortAny.trans fixed)).symm
    · rw [← same.srcIp, same.srcSubnet]
    · rw [← same.dstIp, same.dstSubnet]
  · rintro ⟨flow, ⟨srcPort, dstPort, srcIp, dstIp⟩, ⟨srcPort', dstPort', srcIp', dstIp'⟩,
      srcSubnet, dstSubnet, srcAny, dstAny⟩
    refine ⟨srcAny, dstAny, srcSubnet, dstSubnet, ?_, ?_, ?_, ?_⟩
    · rw [← srcIp, ← srcIp', srcSubnet]
    · rw [← dstIp, ← dstIp', dstSubnet]
    · intro fixed
      rw [srcPort fixed, srcPort' (srcAny ▸ fixed)]
    · intro fixed
      rw [dstPort fixed, dstPort' (dstAny ▸ fixed)]

/-- The clash test skips a rule that governs the same traffic, because of a port field that
the "any port" flags leave without meaning. -/
def FwFilterAddArgs.Overlooks (args : FwFilterAddArgs) (rule : FwRule) : Prop :=
  args.SameTraffic rule ∧ (args.srcPort ≠ rule.srcPort ∨ args.dstPort ≠ rule.dstPort)

theorem FwFilterAddArgs.sameTraffic_iff_overlooks {args : FwFilterAddArgs}
    (passed : args.clashes rule = false) : args.SameTraffic rule ↔ args.Overlooks rule := by
  rw [← Bool.not_eq_true, clashes_iff, not_and] at passed
  constructor
  · intro same
    exact ⟨same, not_and_or.mp (passed same)⟩
  · exact fun overlooked => overlooked.1

/-- The condition on a call: it is not an addition that is accepted although the table has a
non-default rule with another action that the clash test overlooks. -/
def NothingOverlooked (state : FwFilterState) : RuleCall → Prop
  | .addRule args =>
    state.ruleTable.length < state.rulesCapacity →
      (∀ rule ∈ state.ruleTable, args.clashes rule = false) →
      ∀ rule ∈ state.ruleTable.tail, rule.action ≠ args.action.stored → ¬ args.Overlooks rule
  | _ => True

/-! ### Runs -/

theorem NoTies.sublist {fewer : List FwRule} (noTies : NoTies rules) (sublist : fewer.Sublist rules) :
    NoTies fewer :=
  fun flow rule member other otherMember =>
    noTies flow rule (sublist.subset member) other (sublist.subset otherMember)

theorem noTies_append_iff (noTies : NoTies rules) (args : FwFilterAddArgs) (ruleId : Nat) :
    NoTies (rules ++ [args.rule ruleId]) ↔
      ∀ rule ∈ rules, rule.action ≠ args.action.stored → ¬ args.SameTraffic rule := by
  constructor
  · intro noTiesNew rule member different same
    obtain ⟨flow, hitNew, hit, equal⟩ := (args.sameTraffic_iff_tie ruleId rule).mp same
    exact noTiesNew flow (args.rule ruleId) (by simp) rule (by simp [member]) different.symm
      hitNew hit equal
  · intro apart flow rule member other otherMember different hit otherHit equal
    rw [List.mem_append, List.mem_singleton] at member otherMember
    rcases member with member | rfl <;> rcases otherMember with otherMember | rfl
    · exact noTies flow rule member other otherMember different hit otherHit equal
    · exact apart rule member different
        ((args.sameTraffic_iff_tie ruleId rule).mpr ⟨flow, otherHit, hit, equal.symm⟩)
    · exact apart other otherMember different.symm
        ((args.sameTraffic_iff_tie ruleId other).mpr ⟨flow, hit, otherHit, equal⟩)
    · exact different rfl

theorem noTies_step {call : RuleCall} (sound : RuleTableSound state)
    (noTies : NoTies state.ruleTable.tail) (taken : RuleStep state call next) :
    NoTies next.ruleTable.tail ↔ NothingOverlooked state call := by
  obtain ⟨err, performed⟩ := taken
  obtain ⟨defaultRule, rest, table, _⟩ := sound.defaultFirst
  cases call with
  | addRule args =>
    rw [RuleCall.perform] at performed
    rcases fwFilterAddRule_cases sound args with ⟨err', _, result, refused⟩ | ⟨ruleId, result,
      _, free, _, _, _⟩
    · rw [result] at performed
      cases performed
      refine iff_of_true noTies fun room clear => ?_
      obtain ⟨rule, member, clash⟩ := refused room
      rw [clear rule member] at clash
      cases clash
    · rw [result] at performed
      cases performed
      rw [table, List.tail_cons] at noTies
      have tail : (state.withRule args ruleId).ruleTable.tail = rest ++ [args.rule ruleId] := by
        simp [withRule, table]
      rw [tail, noTies_append_iff noTies, NothingOverlooked, table]
      rw [table] at free
      constructor
      · intro apart _ _ rule member different overlooked
        exact apart rule member different overlooked.1
      · intro clear rule member different same
        refine clear ?_ free rule member different ?_
        · rw [← table]
          assumption
        · exact (FwFilterAddArgs.sameTraffic_iff_overlooks
            (free rule (List.mem_cons_of_mem _ member))).mp same
  | removeRule ruleId =>
    refine iff_of_true ?_ trivial
    rw [RuleCall.perform] at performed
    rcases fwFilterRemoveRule_cases sound ruleId with ⟨err', _, result⟩ | ⟨before, rule, after,
      split, nonempty, _, result⟩
    · rw [result] at performed
      cases performed
      exact noTies
    · rw [result] at performed
      cases performed
      obtain ⟨first, middle, rfl⟩ := List.exists_cons_of_ne_nil nonempty
      rw [split] at noTies
      refine noTies.sublist ?_
      exact List.Sublist.append_left (List.sublist_cons_self _ _) _
  | updateDefaultAction newAction =>
    refine iff_of_true ?_ trivial
    rw [RuleCall.perform] at performed
    rcases fwFilterUpdateDefaultAction_cases table newAction with ⟨_, result⟩ | ⟨_, result⟩
    · rw [result] at performed
      cases performed
      exact noTies
    · rw [result] at performed
      cases performed
      rw [table] at noTies
      exact noTies

/-- The additions initialisation makes, as calls. -/
def initialCalls (rules : List FwRule) : List RuleCall :=
  rules.map fun rule => RuleCall.addRule rule.addArgs

theorem addInitialRules_run (added : rules.foldlM addInitialRule state = .ok next) :
    Run RuleStep state (initialCalls rules) next := by
  induction rules generalizing state with
  | nil =>
    cases added
    exact Run.nil
  | cons rule rest inductionHypothesis =>
    obtain ⟨middle, first, added⟩ := Fallible.foldlM_cons_eq_ok added
    refine (Run.single ?_).trans (inductionHypothesis added)
    unfold addInitialRule at first
    split at first
    · cases first
    · rename_i result
      cases first
      exact ⟨.okay, by rw [RuleCall.perform, result]; rfl⟩
    · cases first

/-- Initialisation stores the default rule and then makes the calls for the other initial
rules. -/
theorem fwFilterStateInit_run {rulesCapacity instancesCapacity : Nat} {defaultRule : FwRule}
    {rest : List FwRule} {start : FwFilterState}
    (started : fwFilterStateInit (.zeroed rulesCapacity instancesCapacity) (defaultRule :: rest) =
      .ok start) :
    defaultRule.IsDefault ∧ Run RuleStep
      ((zeroed rulesCapacity instancesCapacity).withFirstRule defaultRule)
      (initialCalls rest) start := by
  have noRules : (zeroed rulesCapacity instancesCapacity).ruleTable = [] := rfl
  unfold fwFilterStateInit at started
  rw [zeroed_allocated, noRules, if_neg (by simp)] at started
  dsimp only at started
  split at started
  case isTrue shape =>
    obtain ⟨srcSubnet, srcPortAny, dstSubnet, dstPortAny, ruleId⟩ := shape
    exact ⟨⟨srcSubnet, srcPortAny, dstSubnet, dstPortAny, ruleId⟩, addInitialRules_run started⟩
  case isFalse => cases started

/-- From initialisation on, the initial rules included, every state of a run finds the action
of each packet independently of the order in which the rules were inserted exactly when no
call is an accepted addition that the clash test overlooks. -/
theorem order_independent_iff_nothing_overlooked (rulesCapacity instancesCapacity : Nat)
    (positive : 0 < rulesCapacity) (defaultRule : FwRule) (rest : List FwRule)
    (start : FwFilterState)
    (started : fwFilterStateInit (.zeroed rulesCapacity instancesCapacity) (defaultRule :: rest) =
      .ok start) (calls : List RuleCall) (state : FwFilterState)
    (run : Run RuleStep start calls state) :
    Run RuleStep ((zeroed rulesCapacity instancesCapacity).withFirstRule defaultRule)
        (initialCalls rest ++ calls) state ∧
      (Run (Within OrderIndependent RuleStep)
          ((zeroed rulesCapacity instancesCapacity).withFirstRule defaultRule)
          (initialCalls rest ++ calls) state ↔
        Run (Guarded NothingOverlooked RuleStep)
          ((zeroed rulesCapacity instancesCapacity).withFirstRule defaultRule)
          (initialCalls rest ++ calls) state) := by
  obtain ⟨isDefault, initialRun⟩ := fwFilterStateInit_run started
  refine ⟨initialRun.trans run, ?_⟩
  refine run_within_iff_guarded RuleTableSound
    (withFirstRule_sound rulesCapacity instancesCapacity positive isDefault) ?_ ?_ ?_
  · rw [orderIndependent_iff]
    intro flow rule member
    cases member
  · exact fun _ _ _ sound taken => (taken.sound sound).1
  · intro state call next sound independent taken
    rw [orderIndependent_iff] at independent ⊢
    exact noTies_step sound independent taken

/-- A rule for packets to port 80 from any port, whose source port field has no meaning. -/
def toWebPortArgs (portField : UInt16T) (action : FwAction) : FwFilterAddArgs :=
  { srcIp := 0, srcPort := portField, dstIp := 0, dstPort := htons 80, srcSubnet := 0, dstSubnet := 0,
    srcPortAny := true, dstPortAny := false, action }

/-- Two rules that differ in an unused port field and in their action are both accepted, and
the one inserted first decides. -/
theorem first_inserted_decides :
    ∃ start allowFirst dropFirst,
      fwFilterStateInit (.zeroed 4 4) [defaultActionRule reject] = .ok start ∧
      Run RuleStep start [.addRule (toWebPortArgs 1 allow),
        .addRule (toWebPortArgs 2 drop)] allowFirst ∧
      Run RuleStep start [.addRule (toWebPortArgs 2 drop),
        .addRule (toWebPortArgs 1 allow)] dropFirst ∧
      (fwFilterFindAction allowFirst [] ⟨7, 9, 8, htons 80⟩).1 = allow ∧
      (fwFilterFindAction dropFirst [] ⟨7, 9, 8, htons 80⟩).1 = drop ∧
      ¬ OrderIndependent allowFirst := by
  refine ⟨_, _, _, rfl, Run.snoc (Run.snoc Run.nil ⟨.okay, rfl⟩) ⟨.okay, rfl⟩,
    Run.snoc (Run.snoc Run.nil ⟨.okay, rfl⟩) ⟨.okay, rfl⟩, by decide, by decide, ?_⟩
  intro independent
  exact independent.noTies ⟨7, 9, 8, htons 80⟩ ((toWebPortArgs 1 allow).rule 1) (by decide)
    ((toWebPortArgs 2 drop).rule 2) (by decide) (by decide) (by decide) (by decide)
    ⟨by decide, by decide⟩

/-- The iff at a run of one addition. -/
theorem order_independent_iff_at_one_addition :
    ∃ start state, fwFilterStateInit (.zeroed 4 4) [defaultActionRule reject] = .ok start ∧
      Run RuleStep start [.addRule (toWebPortArgs 1 allow)] state ∧
      (Run (Within OrderIndependent RuleStep)
          ((zeroed 4 4).withFirstRule (defaultActionRule reject))
          [.addRule (toWebPortArgs 1 allow)] state ↔
        Run (Guarded NothingOverlooked RuleStep)
          ((zeroed 4 4).withFirstRule (defaultActionRule reject))
          [.addRule (toWebPortArgs 1 allow)] state) := by
  refine ⟨_, _, rfl, Run.snoc Run.nil ⟨.okay, rfl⟩, ?_⟩
  exact (order_independent_iff_nothing_overlooked 4 4 (by decide)
    (defaultActionRule reject) [] _ rfl [.addRule (toWebPortArgs 1 allow)] _
    (Run.snoc Run.nil ⟨.okay, rfl⟩)).2

end LionsOS.Firewall
