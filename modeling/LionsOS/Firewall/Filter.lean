/-
This file embeds the firewall filter of `filter.h`: the rule table with its id
allocator, the instance tables, and the five operations on them. A table is the
list of its first `size` entries, so its size is the list's length. A failing
`assert` is an error of its own, apart from the error codes a caller sees.
-/

import LionsOS.Firewall.Common
import LionsOS.Lib.BlockBitmap
import LionsOS.Lib.CircularSearch
import LionsOS.Lib.SwapPurge

namespace LionsOS.Firewall

/-! ### Actions, errors and assertions -/

/-- `fw_action_t`, an unsigned int: a caller may pass any word. -/
abbrev FwAction := BitVec 32

namespace FwAction

def allow : FwAction := 1
def drop : FwAction := 2
def reject : FwAction := 3
def connect : FwAction := 4
def established : FwAction := 5

/-- What the 8-bit action field of a rule keeps of an action. -/
def stored (action : FwAction) : UInt8T := action.setWidth 8

/-- The action read back from the 8-bit field. -/
def loaded (action : UInt8T) : FwAction := action.setWidth 32

end FwAction

inductive FwFilterErr where
  | okay
  | full
  | duplicate
  | clash
  | invalidRuleId
  | unsupportedAction
  deriving DecidableEq

/-- The assertions of the filter, named after what they check. -/
inductive FilterAssertion where
  | reservedIdNotDefault
  | reserveIdOkay
  | removeInstancesOkay
  | ruleFound
  | noRuleBefore
  | firstRuleIsDefault
  | initialRuleAdded
  | defaultActionUpdated
  deriving DecidableEq

/-! ### Rules, instances and the filter state -/

structure FwRule where
  action : UInt8T
  srcIp : UInt32T
  dstIp : UInt32T
  srcPort : UInt16T
  dstPort : UInt16T
  srcSubnet : UInt8T
  dstSubnet : UInt8T
  srcPortAny : Bool
  dstPortAny : Bool
  ruleId : Nat
  deriving DecidableEq

/-- A rule in zeroed memory. -/
def FwRule.zeroed : FwRule :=
  { action := 0, srcIp := 0, dstIp := 0, srcPort := 0, dstPort := 0, srcSubnet := 0,
    dstSubnet := 0, srcPortAny := false, dstPortAny := false, ruleId := 0 }

/-- The default rule the system generator configures for an action. -/
def defaultActionRule (action : FwAction) : FwRule :=
  { action := action.stored, srcIp := 0, dstIp := 0, srcPort := 0, dstPort := 0, srcSubnet := 0,
    dstSubnet := 0, srcPortAny := true, dstPortAny := true, ruleId := 0 }

structure FwInstance where
  srcIp : UInt32T
  dstIp : UInt32T
  srcPort : UInt16T
  dstPort : UInt16T
  ruleId : Nat
  deriving DecidableEq

structure FwRuleIdBitmap where
  lastAllocatedRuleId : Nat
  idBitmap : List UInt64T

structure FwFilterState where
  ruleTable : List FwRule
  rulesCapacity : Nat
  ruleIdBitmap : FwRuleIdBitmap
  internalInstancesTable : List FwInstance
  instancesCapacity : Nat

def defaultActionIdx : Nat := 0
def defaultActionRuleId : Nat := 0
def ruleIdBitmapBlkSize : Nat := 64

/-- The memory a filter starts on: no rule, no instance, and as many zeroed bitmap blocks as
the capacity needs. -/
def FwFilterState.zeroed (rulesCapacity instancesCapacity : Nat) : FwFilterState :=
  { ruleTable := []
    rulesCapacity
    ruleIdBitmap :=
      { lastAllocatedRuleId := 0
        idBitmap := List.replicate ((rulesCapacity + 63) / ruleIdBitmapBlkSize) 0 }
    internalInstancesTable := []
    instancesCapacity }

/-- Whether the bitmap marks an id as allocated. -/
def FwRuleIdBitmap.allocated (bitmap : FwRuleIdBitmap) (ruleId : Nat) : Bool :=
  BlockBitmap.testBit bitmap.idBitmap ruleId

/-- Mark an id as allocated and remember it as the last one. -/
def FwRuleIdBitmap.reserve (bitmap : FwRuleIdBitmap) (ruleId : Nat) : FwRuleIdBitmap :=
  { lastAllocatedRuleId := ruleId, idBitmap := BlockBitmap.setBit bitmap.idBitmap ruleId }

/-- Mark an id as free. -/
def FwRuleIdBitmap.free (bitmap : FwRuleIdBitmap) (ruleId : Nat) : FwRuleIdBitmap :=
  { bitmap with idBitmap := BlockBitmap.clearBit bitmap.idBitmap ruleId }

/-! ### The id allocator -/

/-- Reserve an unused id, searching circularly from the one after the last allocated. The
second component is what is written to the caller's `rule_id`. -/
def rulesReserveId (state : FwFilterState) :
    Except FilterAssertion (FwFilterErr × Option Nat × FwFilterState) :=
  if state.rulesCapacity ≤ state.ruleTable.length then .ok (.full, none, state)
  else
    match CircularSearch.search (fun id => !state.ruleIdBitmap.allocated id) state.rulesCapacity
        (state.ruleIdBitmap.lastAllocatedRuleId + 1) with
    | none => .error .reservedIdNotDefault
    | some idToReserve =>
      if idToReserve = defaultActionRuleId then .error .reservedIdNotDefault
      else .ok (.okay, some idToReserve,
        { state with ruleIdBitmap := state.ruleIdBitmap.reserve idToReserve })

/-- Free an allocated id. The default id cannot be freed. -/
def rulesFreeId (state : FwFilterState) (ruleId : Nat) : FwFilterErr × FwFilterState :=
  if ruleId = defaultActionRuleId ∨ state.rulesCapacity ≤ ruleId then (.invalidRuleId, state)
  else if !state.ruleIdBitmap.allocated ruleId then (.invalidRuleId, state)
  else (.okay, { state with ruleIdBitmap := state.ruleIdBitmap.free ruleId })

/-! ### Adding a rule -/

/-- The arguments of `fw_filter_add_rule`. -/
structure FwFilterAddArgs where
  srcIp : UInt32T
  srcPort : UInt16T
  dstIp : UInt32T
  dstPort : UInt16T
  srcSubnet : UInt8T
  dstSubnet : UInt8T
  srcPortAny : Bool
  dstPortAny : Bool
  action : FwAction
  deriving DecidableEq

/-- Whether none of the tests of the clash loop skips `rule`. -/
def FwFilterAddArgs.clashes (args : FwFilterAddArgs) (rule : FwRule) : Bool :=
  if (args.srcPortAny && !rule.srcPortAny) || (!args.srcPortAny && rule.srcPortAny) then false
  else if (args.dstPortAny && !rule.dstPortAny) || (!args.dstPortAny && rule.dstPortAny) then false
  else if args.srcPort != rule.srcPort || args.dstPort != rule.dstPort then false
  else if args.srcSubnet != rule.srcSubnet || args.dstSubnet != rule.dstSubnet then false
  else if subnetMask args.srcSubnet &&& args.srcIp != subnetMask rule.srcSubnet &&& rule.srcIp then
    false
  else if subnetMask args.dstSubnet &&& args.dstIp != subnetMask rule.dstSubnet &&& rule.dstIp then
    false
  else true

/-- The table entry `fw_filter_add_rule` fills in. -/
def FwFilterAddArgs.rule (args : FwFilterAddArgs) (ruleId : Nat) : FwRule :=
  { action := args.action.stored
    srcIp := subnetMask args.srcSubnet &&& args.srcIp
    srcPort := args.srcPort
    dstIp := subnetMask args.dstSubnet &&& args.dstIp
    dstPort := args.dstPort
    srcSubnet := args.srcSubnet
    dstSubnet := args.dstSubnet
    srcPortAny := args.srcPortAny
    dstPortAny := args.dstPortAny
    ruleId }

/-- Add a rule. The second component is what is written to the caller's `rule_id`. -/
def fwFilterAddRule (state : FwFilterState) (args : FwFilterAddArgs) :
    Except FilterAssertion (FwFilterErr × Option Nat × FwFilterState) :=
  if state.rulesCapacity ≤ state.ruleTable.length then .ok (.full, none, state)
  else
    match state.ruleTable.find? args.clashes with
    | some rule =>
      if args.action = FwAction.loaded rule.action then .ok (.duplicate, none, state)
      else .ok (.clash, none, state)
    | none =>
      match rulesReserveId state with
      | .error assertion => .error assertion
      | .ok (.okay, some ruleId, reserved) =>
        .ok (.okay, some ruleId,
          { reserved with ruleTable := reserved.ruleTable ++ [args.rule ruleId] })
      | .ok _ => .error .reserveIdOkay

/-! ### Instances -/

/-- A packet as the filter sees it. -/
structure PacketFlow where
  srcIp : UInt32T
  srcPort : UInt16T
  dstIp : UInt32T
  dstPort : UInt16T
  deriving DecidableEq

/-- The flow of return traffic. -/
def PacketFlow.reversed (flow : PacketFlow) : PacketFlow :=
  { srcIp := flow.dstIp, srcPort := flow.dstPort, dstIp := flow.srcIp, dstPort := flow.srcPort }

def PacketFlow.instance (flow : PacketFlow) (ruleId : Nat) : FwInstance :=
  { srcIp := flow.srcIp, dstIp := flow.dstIp, srcPort := flow.srcPort, dstPort := flow.dstPort,
    ruleId }

/-- Create an instance. -/
def fwFilterAddInstance (state : FwFilterState) (flow : PacketFlow) (ruleId : Nat) :
    FwFilterErr × FwFilterState :=
  if state.instancesCapacity ≤ state.internalInstancesTable.length then (.full, state)
  else if state.internalInstancesTable.any fun existing =>
      existing.ruleId == ruleId && existing.srcIp == flow.srcIp &&
        existing.srcPort == flow.srcPort && existing.dstIp == flow.dstIp &&
        existing.dstPort == flow.dstPort then (.duplicate, state)
  else (.okay, { state with
    internalInstancesTable := state.internalInstancesTable ++ [flow.instance ruleId] })

/-- Remove the instances of a rule. -/
def fwFilterRemoveInstances (state : FwFilterState) (ruleId : Nat) :
    FwFilterErr × FwFilterState :=
  (.okay, { state with
    internalInstancesTable :=
      SwapPurge.purge (fun existing => ruleId == existing.ruleId) state.internalInstancesTable })

/-! ### Finding the action of a packet -/

/-- Whether an external instance is the packet's connection, seen from the other side. -/
def FwInstance.admits (external : FwInstance) (flow : PacketFlow) : Bool :=
  if external.srcPort != flow.dstPort || external.dstPort != flow.srcPort then false
  else if external.srcIp != flow.dstIp || external.dstIp != flow.srcIp then false
  else true

/-- Whether a rule matches a packet. -/
def FwRule.matchesFlow (rule : FwRule) (flow : PacketFlow) : Bool :=
  if (!rule.srcPortAny && rule.srcPort != flow.srcPort) ||
      (!rule.dstPortAny && rule.dstPort != flow.dstPort) then false
  else if subnetMask rule.srcSubnet &&& flow.srcIp != subnetMask rule.srcSubnet &&& rule.srcIp then
    false
  else if subnetMask rule.dstSubnet &&& flow.dstIp != subnetMask rule.dstSubnet &&& rule.dstIp then
    false
  else true

/-- Whether a matching rule replaces the best match so far. Source matches come before
destination matches, and subnets before ports. -/
def FwRule.stronger (rule best : FwRule) : Bool :=
  if rule.srcSubnet = best.srcSubnet then
    if rule.dstSubnet = best.dstSubnet then
      if rule.srcPortAny = best.srcPortAny then !rule.dstPortAny && best.dstPortAny
      else !rule.srcPortAny && best.srcPortAny
    else best.dstSubnet < rule.dstSubnet
  else best.srcSubnet < rule.srcSubnet

/-- The scan for the best match, starting from the default rule. -/
def bestMatch (flow : PacketFlow) (defaultRule : FwRule) (rules : List FwRule) : FwRule :=
  rules.foldl (fun best rule =>
    if rule.matchesFlow flow && rule.stronger best then rule else best) defaultRule

/-- Find the action of a packet and the id of the rule it comes from. The external tables are
the neighbours' internal ones. -/
def fwFilterFindAction (state : FwFilterState) (externalInstancesTable : List (List FwInstance))
    (flow : PacketFlow) : FwAction × Nat :=
  match externalInstancesTable.flatten.find? fun external => external.admits flow with
  | some external => (FwAction.established, external.ruleId)
  | none =>
    let best := bestMatch flow (state.ruleTable.headD FwRule.zeroed) state.ruleTable.tail
    (FwAction.loaded best.action, best.ruleId)

/-! ### Changing the default action and removing a rule -/

/-- Update the default action. -/
def fwFilterUpdateDefaultAction (state : FwFilterState) (newAction : FwAction) :
    Except FilterAssertion (FwFilterErr × FwFilterState) :=
  let defaultRule := state.ruleTable.headD FwRule.zeroed
  let oldAction := FwAction.loaded defaultRule.action
  let store (purged : FwFilterState) : FwFilterState :=
    { purged with ruleTable :=
      purged.ruleTable.set defaultActionIdx { defaultRule with action := newAction.stored } }
  if newAction = oldAction then .ok (.okay, state)
  else if oldAction = FwAction.connect then
    match fwFilterRemoveInstances state defaultActionRuleId with
    | (.okay, purged) => .ok (.okay, store purged)
    | _ => .error .removeInstancesOkay
  else .ok (.okay, store state)

/-- Remove a rule. -/
def fwFilterRemoveRule (state : FwFilterState) (ruleId : Nat) :
    Except FilterAssertion (FwFilterErr × FwFilterState) :=
  match rulesFreeId state ruleId with
  | (.okay, freed) =>
    -- The scan starts after the default rule.
    match freed.ruleTable.tail.findIdx? fun rule => rule.ruleId == ruleId with
    | none => .error .ruleFound
    | some position =>
      let index := position + 1
      let rule := freed.ruleTable.getD index FwRule.zeroed
      let shift (purged : FwFilterState) : FwFilterState :=
        { purged with ruleTable := purged.ruleTable.eraseIdx index }
      if FwAction.loaded rule.action = FwAction.connect then
        match fwFilterRemoveInstances freed ruleId with
        | (.okay, purged) => .ok (.okay, shift purged)
        | _ => .error .removeInstancesOkay
      else .ok (.okay, shift freed)
  | (err, _) => .ok (err, state)

/-! ### Initialisation and the packet path -/

/-- The arguments with which initialisation adds an initial rule. -/
def FwRule.addArgs (rule : FwRule) : FwFilterAddArgs :=
  { srcIp := rule.srcIp, srcPort := rule.srcPort, dstIp := rule.dstIp, dstPort := rule.dstPort,
    srcSubnet := rule.srcSubnet, dstSubnet := rule.dstSubnet, srcPortAny := rule.srcPortAny,
    dstPortAny := rule.dstPortAny, action := FwAction.loaded rule.action }

/-- Add one initial rule; anything but success is an assertion failure. -/
def addInitialRule (state : FwFilterState) (rule : FwRule) :
    Except FilterAssertion FwFilterState :=
  match fwFilterAddRule state rule.addArgs with
  | .error assertion => .error assertion
  | .ok (.okay, _, added) => .ok added
  | .ok _ => .error .initialRuleAdded

/-- Store the default rule as the first rule, under the default id. -/
def FwFilterState.withFirstRule (memory : FwFilterState) (defaultRule : FwRule) :
    FwFilterState :=
  { memory with
    ruleIdBitmap := memory.ruleIdBitmap.reserve defaultActionRuleId
    ruleTable := [defaultRule] }

/-- Initialise the filter on `memory` with the configured rules, the first being the
default. -/
def fwFilterStateInit (memory : FwFilterState) (initialRules : List FwRule) :
    Except FilterAssertion FwFilterState :=
  if memory.ruleIdBitmap.allocated defaultActionRuleId ∨ memory.ruleTable ≠ [] then
    .error .noRuleBefore
  else
    match initialRules with
    | [] => .error .firstRuleIsDefault
    | defaultRule :: rest =>
      if defaultRule.srcSubnet = 0 ∧ defaultRule.srcPortAny ∧ defaultRule.dstSubnet = 0 ∧
          defaultRule.dstPortAny ∧ defaultRule.ruleId = defaultActionRuleId then
        rest.foldlM addInitialRule (memory.withFirstRule defaultRule)
      else .error .firstRuleIsDefault

/-- What processing a packet does to the filter state: find the action, and on a connect
rule add an instance, whatever the outcome of that. -/
def filterPacket (state : FwFilterState) (externalInstancesTable : List (List FwInstance))
    (flow : PacketFlow) : FwAction × Nat × FwFilterState :=
  let (action, ruleId) := fwFilterFindAction state externalInstancesTable flow
  if action = FwAction.connect then (action, ruleId, (fwFilterAddInstance state flow ruleId).2)
  else (action, ruleId, state)

end LionsOS.Firewall
