/-
This file proves what the lookup of a filter finds. Return traffic of a
connection is established; any other packet is decided by the first of the most
specific rules that match it, where rules are compared by their source subnet,
then their destination subnet, then whether they fix the source port, then
whether they fix the destination port. The default rule matches everything, so
the scan that starts on it is a scan of the whole table.
-/

import LionsOS.Firewall.FilterClash
import LionsOS.Firewall.FilterGroup
import LionsOS.Firewall.Subnets
import LionsOS.Lib.BestScan
import Mathlib.Data.Prod.Lex

namespace LionsOS.Firewall

open BestScan FwAction

/-! ### Matching and specificity -/

/-- The rule is for a source and a destination that the packet has. -/
structure FwRule.Matches (rule : FwRule) (flow : PacketFlow) : Prop where
  srcPort : rule.srcPortAny = true ∨ rule.srcPort = flow.srcPort
  dstPort : rule.dstPortAny = true ∨ rule.dstPort = flow.dstPort
  srcIp : networkPrefix rule.srcSubnet flow.srcIp = networkPrefix rule.srcSubnet rule.srcIp
  dstIp : networkPrefix rule.dstSubnet flow.dstIp = networkPrefix rule.dstSubnet rule.dstIp

/-- What rules are compared by, the first component first. -/
abbrev Specificity := Lex (Nat × Lex (Nat × Lex (Bool × Bool)))

def FwRule.specificity (rule : FwRule) : Specificity :=
  toLex (rule.srcSubnet.toNat, toLex (rule.dstSubnet.toNat,
    toLex (!rule.srcPortAny, !rule.dstPortAny)))

/-- The subnets of the rule have at most 32 bits. -/
structure FwRule.Fits (rule : FwRule) : Prop where
  srcSubnet : rule.srcSubnet.toNat ≤ 32
  dstSubnet : rule.dstSubnet.toNat ≤ 32

theorem FwRule.Fits.matches_iff {rule : FwRule} (fits : rule.Fits) (flow : PacketFlow) :
    rule.matchesFlow flow = true ↔ rule.Matches flow := by
  rw [FwRule.matchesFlow_iff, masked_eq_iff_networkPrefix fits.srcSubnet,
    masked_eq_iff_networkPrefix fits.dstSubnet]
  constructor
  · rintro ⟨srcPort, dstPort, srcIp, dstIp⟩
    refine ⟨?_, ?_, srcIp, dstIp⟩
    · exact (Bool.eq_false_or_eq_true rule.srcPortAny).imp_right srcPort
    · exact (Bool.eq_false_or_eq_true rule.dstPortAny).imp_right dstPort
  · rintro ⟨srcPort, dstPort, srcIp, dstIp⟩
    refine ⟨fun fixed => ?_, fun fixed => ?_, srcIp, dstIp⟩
    · exact srcPort.resolve_left fun any => Bool.noConfusion (any.symm.trans fixed)
    · exact dstPort.resolve_left fun any => Bool.noConfusion (any.symm.trans fixed)

theorem FwRule.stronger_iff_specificity (rule best : FwRule) :
    rule.stronger best = true ↔ best.specificity < rule.specificity := by
  unfold stronger specificity
  simp only [Prod.Lex.toLex_lt_toLex, BitVec.toNat_inj, BitVec.lt_def]
  by_cases srcSubnet : rule.srcSubnet = best.srcSubnet
  · rw [srcSubnet]
    by_cases dstSubnet : rule.dstSubnet = best.dstSubnet
    · rw [dstSubnet]
      cases rule.srcPortAny <;> cases best.srcPortAny <;> cases rule.dstPortAny <;>
        cases best.dstPortAny <;> simp
    · simp [dstSubnet, Ne.symm dstSubnet]
  · simp [srcSubnet, Ne.symm srcSubnet]

theorem bestMatch_eq_firstBest (flow : PacketFlow) (defaultRule : FwRule) (rules : List FwRule) :
    bestMatch flow defaultRule rules =
      firstBest (fun rule => rule.matchesFlow flow) FwRule.specificity defaultRule rules := by
  unfold bestMatch firstBest
  congr 1
  simp only [Bool.and_eq_true, FwRule.stronger_iff_specificity]

/-! ### The lookup -/

/-- Some external instance is the packet's connection, seen from the other side. -/
def IsReturnTraffic (external : List (List FwInstance)) (flow : PacketFlow)
    (existing : FwInstance) : Prop :=
  existing ∈ external.flatten ∧ existing = flow.reversed.instance existing.ruleId

/-- The lookup finds a connection exactly when some external instance is the packet with source
and destination swapped. -/
theorem fwFilterFindAction_established_iff (state : FwFilterState)
    (external : List (List FwInstance)) (flow : PacketFlow) :
    (∃ existing, IsReturnTraffic external flow existing ∧
        fwFilterFindAction state external flow = (established, existing.ruleId)) ↔
      ∃ existing, IsReturnTraffic external flow existing := by
  refine ⟨fun ⟨existing, swapped, _⟩ => ⟨existing, swapped⟩, fun ⟨existing, member, swapped⟩ => ?_⟩
  have admitted := (existing.admits_iff flow).mpr swapped.symm
  have some : (external.flatten.find? fun existing => existing.admits flow).isSome :=
    List.find?_isSome.mpr ⟨existing, member, admitted⟩
  obtain ⟨first, found⟩ := Option.isSome_iff_exists.mp some
  refine ⟨first, ⟨List.mem_of_find?_eq_some found, ?_⟩, ?_⟩
  · have firstAdmitted := List.find?_some found
    exact ((first.admits_iff flow).mp firstAdmitted).symm
  · unfold fwFilterFindAction
    rw [found]

/-- Without a connection the lookup scans the rules. -/
theorem fwFilterFindAction_of_no_connection {state : FwFilterState} {defaultRule : FwRule}
    {rest : List FwRule} (table : state.ruleTable = defaultRule :: rest)
    {external : List (List FwInstance)} {flow : PacketFlow}
    (none : ¬ ∃ existing, IsReturnTraffic external flow existing) :
    fwFilterFindAction state external flow =
      (loaded (bestMatch flow defaultRule rest).action,
        (bestMatch flow defaultRule rest).ruleId) := by
  have notFound : (external.flatten.find? fun existing => existing.admits flow) = Option.none := by
    rw [List.find?_eq_none]
    intro existing member admitted
    exact none ⟨existing, member, ((existing.admits_iff flow).mp admitted).symm⟩
  unfold fwFilterFindAction
  rw [notFound, table]
  rfl

theorem matchesFlow_of_any {rule : FwRule} (srcSubnet : rule.srcSubnet = 0)
    (dstSubnet : rule.dstSubnet = 0) (srcPortAny : rule.srcPortAny = true)
    (dstPortAny : rule.dstPortAny = true) (flow : PacketFlow) : rule.matchesFlow flow = true := by
  have noMask : subnetMask 0 = 0 := by decide
  rw [FwRule.matchesFlow_iff, srcSubnet, dstSubnet, srcPortAny, dstPortAny, noMask]
  simp

/-- With the default rule at the front and subnets of at most 32 bits, a packet is established,
with the id of an instance, exactly when some external instance is the packet with source and
destination swapped. Otherwise its action and id are those of the first rule in table order that
is maximal among the rules that match, the default rule included. -/
theorem filter_action_most_specific (state : FwFilterState) (defaultRule : FwRule)
    (rest : List FwRule) (table : state.ruleTable = defaultRule :: rest)
    (srcSubnet : defaultRule.srcSubnet = 0) (dstSubnet : defaultRule.dstSubnet = 0)
    (srcPortAny : defaultRule.srcPortAny = true) (dstPortAny : defaultRule.dstPortAny = true)
    (fits : ∀ rule ∈ state.ruleTable, rule.Fits) (external : List (List FwInstance))
    (flow : PacketFlow) :
    ((∃ existing, IsReturnTraffic external flow existing ∧
        fwFilterFindAction state external flow = (established, existing.ruleId)) ↔
      ∃ existing, IsReturnTraffic external flow existing) ∧
    ((¬ ∃ existing, IsReturnTraffic external flow existing) →
      ∃ before rule after, state.ruleTable = before ++ rule :: after ∧ rule.Matches flow ∧
        (∀ other ∈ before, other.Matches flow → other.specificity < rule.specificity) ∧
        (∀ other ∈ state.ruleTable, other.Matches flow → other.specificity ≤ rule.specificity) ∧
        fwFilterFindAction state external flow = (loaded rule.action, rule.ruleId)) := by
  refine ⟨fwFilterFindAction_established_iff state external flow, fun none => ?_⟩
  have scan := @firstBest_first FwRule Specificity _ (fun rule => rule.matchesFlow flow)
    FwRule.specificity defaultRule
    (matchesFlow_of_any srcSubnet dstSubnet srcPortAny dstPortAny flow) rest
  rw [← bestMatch_eq_firstBest, ← table] at scan
  obtain ⟨⟨member, hit, greatest⟩, before, after, split, first⟩ := scan
  refine ⟨before, bestMatch flow defaultRule rest, after, split,
    ((fits _ member).matches_iff flow).mp hit, ?_, ?_,
    fwFilterFindAction_of_no_connection table none⟩
  · intro other earlier matched
    have inTable : other ∈ state.ruleTable := split ▸ List.mem_append_left _ earlier
    exact first other earlier (((fits other inTable).matches_iff flow).mpr matched)
  · intro other inTable matched
    exact greatest other inTable (((fits other inTable).matches_iff flow).mpr matched)

/-- A default rule, a rule for a port, and a rule for a source subnet. -/
def threeRules : FwFilterState :=
  { FwFilterState.zeroed 3 1 with
    ruleTable := [defaultActionRule allow,
      { defaultActionRule reject with
        dstPort := htons 80, dstPortAny := false, ruleId := 1 },
      { defaultActionRule drop with srcIp := 10, srcSubnet := 8, ruleId := 2 }] }

/-- A longer source subnet decides against a fixed destination port. -/
example : fwFilterFindAction threeRules [] ⟨0x0100000a, 9, 8, htons 80⟩ = (drop, 2) := by
  decide

/-- The rules of a table of three match a packet to the port that one of them fixes. -/
theorem filter_action_most_specific_sample :
    ∃ before rule after, threeRules.ruleTable = before ++ rule :: after ∧
      fwFilterFindAction threeRules [] ⟨0x0100000a, 9, 8, htons 80⟩ =
        (loaded rule.action, rule.ruleId) := by
  have fits : ∀ rule ∈ threeRules.ruleTable,
      rule.srcSubnet.toNat ≤ 32 ∧ rule.dstSubnet.toNat ≤ 32 := by
    decide
  obtain ⟨before, rule, after, split, _, _, _, found⟩ :=
    (filter_action_most_specific threeRules (defaultActionRule allow) _ rfl rfl rfl rfl rfl
      (fun rule member => ⟨(fits rule member).1, (fits rule member).2⟩) []
      ⟨0x0100000a, 9, 8, htons 80⟩).2 fun ⟨_, member, _⟩ => List.not_mem_nil member
  exact ⟨before, rule, after, split, found⟩

end LionsOS.Firewall
