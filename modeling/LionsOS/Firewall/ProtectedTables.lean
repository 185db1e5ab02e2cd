/-
This file says which protected calls keep the tables well-formed. A filter
checks the action of a new rule, but neither the subnets of the rule nor a new
default action; the router does not check the subnet of a new route. So the
tables stay well-formed exactly as long as no call is of the kinds that these
checks would refuse. A call that is refused changes nothing.
-/

import LionsOS.Firewall.FilterClash
import LionsOS.Firewall.Protected
import LionsOS.Firewall.RoutingChanges

namespace LionsOS.Firewall

open StepRun FwAction List

variable {state : FwFilterState} {call : ProtectedCall} {reply : List UInt64T}
  {next : FwFilterState}

/-! ### The rules of a filter -/

/-- A rule with a supported action, with subnets of at most 32 bits and masked addresses. -/
structure FwRule.WellFormed (actions : FilterActions) (rule : FwRule) : Prop where
  action : actions.supports (loaded rule.action) = true
  srcSubnet : rule.srcSubnet.toNat ≤ 32
  dstSubnet : rule.dstSubnet.toNat ≤ 32
  srcMasked : subnetMask rule.srcSubnet &&& rule.srcIp = rule.srcIp
  dstMasked : subnetMask rule.dstSubnet &&& rule.dstIp = rule.dstIp

def RulesWellFormed (actions : FilterActions) (state : FwFilterState) : Prop :=
  ∀ rule ∈ state.ruleTable, rule.WellFormed actions

/-- The call does not return an error, nor is it for an unknown request. -/
def Succeeds (reply : List UInt64T) : Prop := reply.head? = some 0

/-- What a filter does not check: a new default action is supported in its low eight bits, and
the subnets of a new rule, which it would store, have at most 32 bits. -/
structure FilterCallFits (protocol : FilterProtocol) (actions : FilterActions)
    (state : FwFilterState) (call : ProtectedCall) : Prop where
  defaultAction : call.label = filterSetDefaultAction →
    actions.supports (loaded
      (stored ((call.registers filterSetDefaultArgAction).setWidth 32))) = true
  subnets : call.label = filterAddRule →
    actions.supports (protocol.addArgs call.registers).action = true →
    state.ruleTable.length < state.rulesCapacity →
      (protocol.addArgs call.registers).srcSubnet.toNat ≤ 32 ∧
        (protocol.addArgs call.registers).dstSubnet.toNat ≤ 32

variable {protocol : FilterProtocol} {actions : FilterActions}

theorem FilterActions.loaded_stored {action : FwAction}
    (supported : actions.supports action = true) :
    loaded action.stored = action := by
  have small : action.toNat ≤ fwFilterNumActions := by
    unfold supports at supported
    split at supported
    case isTrue inside => exact inside.2
    case isFalse => cases supported
  refine BitVec.eq_of_toNat_eq ?_
  rw [loaded, stored, BitVec.toNat_setWidth, BitVec.toNat_setWidth]
  have : fwFilterNumActions = 4 := rfl
  omega

/-- A call to a filter returns. -/
def FilterProtectedStep (protocol : FilterProtocol) (actions : FilterActions)
    (state : FwFilterState) (call : ProtectedCall) (next : FwFilterState) : Prop :=
  ∃ reply, filterProtected protocol actions state call = .ok (reply, next)

/-- Everything the protected procedure of a filter can do: leave the state as it was, or carry
out one of the three changes on the truncated arguments. -/
inductive FilterProtectedOutcome (protocol : FilterProtocol) (actions : FilterActions)
    (state : FwFilterState) (call : ProtectedCall) : List UInt64T → FwFilterState → Prop
  | unknown (other : call.label ≠ filterSetDefaultAction) (notAdd : call.label ≠ filterAddRule) :
    FilterProtectedOutcome protocol actions state call [] state
  | sameDefault (label : call.label = filterSetDefaultAction) {defaultRule : FwRule}
    (front : state.ruleTable.head? = some defaultRule)
    (same : (call.registers filterSetDefaultArgAction).setWidth 32 =
      loaded defaultRule.action) :
    FilterProtectedOutcome protocol actions state call [FwFilterErr.okay.code] state
  | newDefault (label : call.label = filterSetDefaultAction) {defaultRule : FwRule}
    {rest : List FwRule} (table : state.ruleTable = defaultRule :: rest) :
    FilterProtectedOutcome protocol actions state call [FwFilterErr.okay.code]
      (state.withDefaultAction defaultRule rest
        ((call.registers filterSetDefaultArgAction).setWidth 32))
  | unsupported (label : call.label = filterAddRule)
    (refused : actions.supports (protocol.addArgs call.registers).action = false) :
    FilterProtectedOutcome protocol actions state call [FwFilterErr.unsupportedAction.code] state
  | notAdded (label : call.label = filterAddRule) {err : FwFilterErr} (failed : err ≠ .okay)
    (reason : state.ruleTable.length < state.rulesCapacity →
      ∃ rule ∈ state.ruleTable, (protocol.addArgs call.registers).clashes rule = true) :
    FilterProtectedOutcome protocol actions state call [err.code, 0] state
  | added (label : call.label = filterAddRule)
    (supported : actions.supports (protocol.addArgs call.registers).action = true)
    (room : state.ruleTable.length < state.rulesCapacity) {ruleId : Nat}
    (below : ruleId < state.rulesCapacity) (unused : ruleId ∉ state.ruleIds) :
    FilterProtectedOutcome protocol actions state call
      [FwFilterErr.okay.code, BitVec.ofNat 64 ruleId]
      (state.withRule (protocol.addArgs call.registers) ruleId)
  | notRemoved (label : call.label = filterDelRule) {err : FwFilterErr} (failed : err ≠ .okay) :
    FilterProtectedOutcome protocol actions state call [err.code] state
  | removed (label : call.label = filterDelRule) {before after : List FwRule} {rule : FwRule}
    (table : state.ruleTable = before ++ rule :: after) (nonempty : before ≠ []) :
    FilterProtectedOutcome protocol actions state call [FwFilterErr.okay.code]
      (state.withoutRule before rule after)

theorem filterProtected_outcome (sound : RuleTableSound state) (call : ProtectedCall) :
    ∃ reply next, filterProtected protocol actions state call = .ok (reply, next) ∧
      FilterProtectedOutcome protocol actions state call reply next := by
  unfold filterProtected
  by_cases setDefault : call.label = filterSetDefaultAction
  · rw [if_pos setDefault]
    obtain ⟨defaultRule, rest, table, _⟩ := sound.defaultFirst
    rcases fwFilterUpdateDefaultAction_cases table
      ((call.registers filterSetDefaultArgAction).setWidth 32) with ⟨same, result⟩ | ⟨_, result⟩
    · dsimp only
      rw [result]
      exact ⟨_, _, rfl, .sameDefault setDefault (by rw [table]; rfl) same⟩
    · dsimp only
      rw [result]
      exact ⟨_, _, rfl, .newDefault setDefault table⟩
  rw [if_neg setDefault]
  by_cases add : call.label = filterAddRule
  · rw [if_pos add]
    dsimp only
    cases supported : actions.supports (protocol.addArgs call.registers).action with
    | false => exact ⟨_, _, rfl, .unsupported add supported⟩
    | true =>
      rcases fwFilterAddRule_cases sound (protocol.addArgs call.registers) with
        ⟨err, failed, result, reason⟩ | ⟨ruleId, result, room, _, _, below, unused⟩
      · rw [result]
        exact ⟨_, _, rfl, .notAdded add failed reason⟩
      · rw [result]
        exact ⟨_, _, rfl, .added add supported room below unused⟩
  rw [if_neg add]
  by_cases delete : call.label = filterDelRule
  · rw [if_pos delete]
    dsimp only
    rcases fwFilterRemoveRule_cases sound
      ((call.registers filterDeleteArgRuleId).setWidth 16 : UInt16T).toNat with
      ⟨err, failed, result⟩ | ⟨before, rule, after, table, nonempty, _, result⟩
    · rw [result]
      exact ⟨_, _, rfl, .notRemoved delete failed⟩
    · rw [result]
      exact ⟨_, _, rfl, .removed delete table nonempty⟩
  · rw [if_neg delete]
    exact ⟨_, _, rfl, .unknown setDefault add⟩

theorem FilterProtectedStep.outcome (taken : FilterProtectedStep protocol actions state call next)
    (sound : RuleTableSound state) :
    ∃ reply, filterProtected protocol actions state call = .ok (reply, next) ∧
      FilterProtectedOutcome protocol actions state call reply next := by
  obtain ⟨reply, result⟩ := taken
  obtain ⟨reply', next', result', outcome⟩ := filterProtected_outcome sound call
  rw [result] at result'
  obtain ⟨rfl, rfl⟩ := result'
  exact ⟨reply, result, outcome⟩

theorem FilterProtectedStep.sound (taken : FilterProtectedStep protocol actions state call next)
    (sound : RuleTableSound state) : RuleTableSound next := by
  obtain ⟨reply, _, outcome⟩ := taken.outcome sound
  cases outcome with
  | unknown | sameDefault | unsupported | notAdded | notRemoved => exact sound
  | newDefault _ table => exact sound.withDefaultAction table _
  | added _ _ room below unused => exact sound.withRule _ room below unused
  | removed _ table nonempty => exact sound.withoutRule table nonempty

theorem FilterProtectedOutcome.unchanged
    (outcome : FilterProtectedOutcome protocol actions state call reply next)
    (refused : ¬ Succeeds reply) : next = state := by
  cases outcome with
  | unknown | sameDefault | unsupported | notAdded | notRemoved => rfl
  | newDefault | added | removed => exact absurd rfl refused

theorem FwFilterAddArgs.rule_wellFormed_iff {args : FwFilterAddArgs}
    (supported : actions.supports args.action = true) (ruleId : Nat) :
    (args.rule ruleId).WellFormed actions ↔
      args.srcSubnet.toNat ≤ 32 ∧ args.dstSubnet.toNat ≤ 32 := by
  constructor
  · exact fun formed => ⟨formed.srcSubnet, formed.dstSubnet⟩
  · rintro ⟨srcSubnet, dstSubnet⟩
    refine ⟨?_, srcSubnet, dstSubnet, mask_and_masked _ _, mask_and_masked _ _⟩
    show actions.supports (loaded args.action.stored) = true
    rw [FilterActions.loaded_stored supported]
    exact supported

theorem rulesWellFormed_step (sound : RuleTableSound state) (formed : RulesWellFormed actions state)
    (taken : FilterProtectedStep protocol actions state call next) :
    RulesWellFormed actions next ↔ FilterCallFits protocol actions state call := by
  have notBoth : filterSetDefaultAction ≠ filterAddRule := by decide
  have notDelete : filterSetDefaultAction ≠ filterDelRule ∧ filterAddRule ≠ filterDelRule := by
    decide
  obtain ⟨reply, _, outcome⟩ := taken.outcome sound
  cases outcome with
  | unknown notDefault notAdd =>
    exact iff_of_true formed ⟨fun label => absurd label notDefault, fun label => absurd label notAdd⟩
  | sameDefault label front same =>
    refine iff_of_true formed ⟨fun _ => ?_, fun add => absurd (label.symm.trans add) notBoth⟩
    have old := (formed _ (mem_of_head? front)).action
    rw [same, FilterActions.loaded_stored old]
    exact old
  | @newDefault label defaultRule rest table =>
    have before : defaultRule.WellFormed actions := formed defaultRule (by rw [table]; simp)
    constructor
    · intro formedNext
      refine ⟨fun _ => ?_, fun add => absurd (label.symm.trans add) notBoth⟩
      exact (formedNext _ mem_cons_self).action
    · intro fits rule member
      rcases mem_cons.mp member with rfl | old
      · exact ⟨fits.defaultAction label, before.srcSubnet, before.dstSubnet, before.srcMasked,
          before.dstMasked⟩
      · exact formed rule (table ▸ mem_cons_of_mem _ old)
  | unsupported label refused =>
    refine iff_of_true formed ⟨fun set => absurd (set.symm.trans label) notBoth, ?_⟩
    intro _ supported
    rw [refused] at supported
    cases supported
  | notAdded label _ reason =>
    refine iff_of_true formed ⟨fun set => absurd (set.symm.trans label) notBoth, ?_⟩
    -- A rule that clashes with the new one has its subnets.
    intro _ _ room
    obtain ⟨rule, member, clash⟩ := reason room
    have same := ((FwFilterAddArgs.clashes_iff _ rule).mp clash).1
    rw [same.srcSubnet, same.dstSubnet]
    exact ⟨(formed rule member).srcSubnet, (formed rule member).dstSubnet⟩
  | @added label supported room ruleId below unused =>
    constructor
    · intro formedNext
      refine ⟨fun set => absurd (set.symm.trans label) notBoth, fun _ _ _ => ?_⟩
      exact (FwFilterAddArgs.rule_wellFormed_iff supported ruleId).mp
        (formedNext _ (mem_append_right _ (mem_singleton_self _)))
    · intro fits rule member
      rcases mem_append.mp member with old | new
      · exact formed rule old
      · rw [mem_singleton.mp new]
        exact (FwFilterAddArgs.rule_wellFormed_iff supported ruleId).mpr
          (fits.subnets label supported room)
  | notRemoved label _ =>
    exact iff_of_true formed ⟨fun set => absurd (set.symm.trans label) notDelete.1,
      fun add => absurd (add.symm.trans label) notDelete.2⟩
  | @removed label before after rule table nonempty =>
    refine iff_of_true (fun other member => formed other ?_)
      ⟨fun set => absurd (set.symm.trans label) notDelete.1,
        fun add => absurd (add.symm.trans label) notDelete.2⟩
    rw [table, mem_append, mem_cons]
    exact (mem_append.mp member).imp_right Or.inr

/-! ### The routes of the router -/

variable {interfaces : Nat}

variable {next router : RouterTables interfaces}

/-- A route with a subnet of at most 32 bits and a masked address. -/
structure FwRoutingEntry.WellFormed (entry : FwRoutingEntry interfaces) : Prop where
  subnet : entry.subnet.toNat ≤ 32
  masked : subnetMask entry.subnet &&& entry.ip = entry.ip

def RoutesWellFormed (router : RouterTables interfaces) : Prop :=
  ∀ entry ∈ router.routingTable.routes, entry.WellFormed

/-- The subnet argument of a new route, truncated to eight bits. -/
def ProtectedCall.routeSubnet (call : ProtectedCall) : UInt8T :=
  (call.registers routerAddArgSubnet).setWidth 8

/-- What the router does not check: the subnet of a new route, which it would store, has at most
32 bits. -/
def RouterCallFits (router : RouterTables interfaces) (call : ProtectedCall) : Prop :=
  call.label = routerAddRoute → router.routingTable.size < router.routingTable.capacity →
    call.routeSubnet.toNat ≤ 32

/-- A call to the router returns. -/
def RouterProtectedStep (router : RouterTables interfaces) (call : ProtectedCall)
    (next : RouterTables interfaces) : Prop :=
  ∃ reply, routerProtected router call = some (reply, next)

/-- Everything the protected procedure of the router can do: leave the routing table as it is, or
make a call of it on the truncated arguments. -/
inductive RouterProtectedOutcome (router : RouterTables interfaces) (call : ProtectedCall) :
    List UInt64T → RouterTables interfaces → Prop
  | unknown (notAdd : call.label ≠ routerAddRoute) : RouterProtectedOutcome router call [] router
  | pingResponse (notAdd : call.label ≠ routerAddRoute)
    (pingResponseEnabled : Fin interfaces → Bool) :
    RouterProtectedOutcome router call [FwRoutingErr.okay.code] { router with pingResponseEnabled }
  | addRoute (label : call.label = routerAddRoute) (interface : Fin interfaces)
    (ip nextHop : UInt32T) {err : FwRoutingErr} {table : FwRoutingTable interfaces}
    (performed : fwRoutingTableAddRoute router.routingTable interface ip call.routeSubnet nextHop =
      (err, table)) :
    RouterProtectedOutcome router call [err.code] { router with routingTable := table }
  | removeRoute (notAdd : call.label ≠ routerAddRoute) (routeId : Nat) {err : FwRoutingErr}
    {table : FwRoutingTable interfaces}
    (performed : fwRoutingTableRemoveRoute router.routingTable routeId = (err, table)) :
    RouterProtectedOutcome router call [err.code] { router with routingTable := table }

theorem routerProtected_outcome (returned : routerProtected router call = some (reply, next)) :
    RouterProtectedOutcome router call reply next := by
  unfold routerProtected at returned
  dsimp only at returned
  split_ifs at returned with add exists_ delete ping exists_
  · cases returned
    exact .addRoute add _ _ _ rfl
  · cases returned
    exact .removeRoute add _ rfl
  · cases returned
    exact .pingResponse add _
  · cases returned
    exact .unknown add

theorem RouterProtectedOutcome.sound (outcome : RouterProtectedOutcome router call reply next)
    (sound : RoutingTableSound router.routingTable) : RoutingTableSound next.routingTable := by
  cases outcome with
  | unknown | pingResponse => exact sound
  | @addRoute _ interface ip nextHop _ table performed =>
    have step : RouteStep router.routingTable
        (.addRoute interface ip call.routeSubnet nextHop) table :=
      congrArg Prod.snd performed
    exact step.sound sound
  | @removeRoute _ routeId _ table performed =>
    have step : RouteStep router.routingTable (.removeRoute routeId) table :=
      congrArg Prod.snd performed
    exact step.sound sound

theorem RouterProtectedOutcome.unchanged (outcome : RouterProtectedOutcome router call reply next)
    (sound : RoutingTableSound router.routingTable) (refused : ¬ Succeeds reply) :
    next = router := by
  have failed : ∀ {err : FwRoutingErr}, ¬ Succeeds [err.code] → err ≠ .okay := by
    rintro _ refused rfl
    exact refused rfl
  cases outcome with
  | unknown => rfl
  | pingResponse => exact absurd rfl refused
  | @addRoute _ interface ip nextHop _ table performed =>
    have kept := (RouteCall.perform_sound sound
      (.addRoute interface ip call.routeSubnet nextHop)).2.2
    rw [RouteCall.perform, performed] at kept
    have same : table = router.routingTable := kept (failed refused)
    rw [same]
  | @removeRoute _ routeId _ table performed =>
    have kept := (RouteCall.perform_sound sound (.removeRoute routeId)).2.2
    rw [RouteCall.perform, performed] at kept
    have same : table = router.routingTable := kept (failed refused)
    rw [same]

theorem routesWellFormed_step (sound : RoutingTableSound router.routingTable)
    (formed : RoutesWellFormed router) (taken : RouterProtectedStep router call next) :
    RoutesWellFormed next ↔ RouterCallFits router call := by
  obtain ⟨reply, returned⟩ := taken
  cases routerProtected_outcome returned with
  | unknown notAdd | pingResponse notAdd => exact iff_of_true formed fun add => absurd add notAdd
  | addRoute label interface ip nextHop performed =>
    rcases fwRoutingTableAddRoute_cases sound.bounded interface ip call.routeSubnet nextHop with
      ⟨err, result, refused⟩ | ⟨result, _, room, _⟩
    · rw [result] at performed
      cases performed
      refine iff_of_true formed fun _ room => ?_
      cases refused with
      | invalidRoute noHop =>
        rw [noHop.1]
        exact Nat.zero_le _
      | full _ noRoom => exact absurd noRoom (Nat.ne_of_lt room)
      | duplicate _ _ entry member same =>
        have subnet : entry.subnet = call.routeSubnet := same ▸ rfl
        exact subnet ▸ (formed entry member).subnet
      | clash _ _ entry member same _ =>
        have subnet : entry.subnet = call.routeSubnet := congrArg Prod.snd same
        exact subnet ▸ (formed entry member).subnet
    · rw [result] at performed
      cases performed
      have routes := FwRoutingTable.routes_withRoute router.routingTable
        (storedRoute interface ip call.routeSubnet nextHop)
      constructor
      · intro formedNext _ _
        refine (formedNext (storedRoute interface ip call.routeSubnet nextHop) ?_).subnet
        rw [routes]
        exact mem_append_right _ (mem_singleton_self _)
      · intro fits entry member
        rw [routes] at member
        rcases mem_append.mp member with old | new
        · exact formed entry old
        · rw [mem_singleton.mp new]
          exact ⟨fits label room, mask_and_masked _ _⟩
  | removeRoute notAdd routeId performed =>
    refine iff_of_true ?_ fun add => absurd add notAdd
    rcases fwRoutingTableRemoveRoute_cases sound.bounded routeId with
      ⟨_, result⟩ | ⟨_, table, result, _, _, routes⟩
    · rw [result] at performed
      cases performed
      exact formed
    · rw [result] at performed
      cases performed
      intro entry member
      rw [routes] at member
      exact formed entry (mem_of_mem_eraseIdx member)

/-! ### Runs of protected calls -/

/-- From well-formed configured tables on, the tables stay well-formed in every state of a run of
protected calls exactly when every call passes the checks that the filters and the router leave
out. A call that does not succeed changes nothing. -/
theorem protected_tables_well_formed_iff (protocol : FilterProtocol) (actions : FilterActions)
    (rulesCapacity instancesCapacity : Nat) (initialRules : List FwRule) {interfaces : Nat}
    (entries : Nat → FwRoutingEntry interfaces) (routesCapacity : Nat)
    (initialRoutes : List (FwRoutingEntry interfaces)) :
    (∀ start : FwFilterState, 0 < rulesCapacity →
      fwFilterStateInit (.zeroed rulesCapacity instancesCapacity) initialRules = .ok start →
      RulesWellFormed actions start →
      ∀ (calls : List ProtectedCall) (state : FwFilterState),
        Run (FilterProtectedStep protocol actions) start calls state →
        (Run (Within (RulesWellFormed actions) (FilterProtectedStep protocol actions)) start calls
            state ↔
          Run (Guarded (FilterCallFits protocol actions) (FilterProtectedStep protocol actions))
            start calls state) ∧
        ∀ call reply next, filterProtected protocol actions state call = .ok (reply, next) →
          ¬ Succeeds reply → next = state) ∧
    ∀ start : RouterTables interfaces,
      fwRoutingTableInit entries routesCapacity initialRoutes = some start.routingTable →
      RoutesWellFormed start →
      ∀ (calls : List ProtectedCall) (router : RouterTables interfaces),
        Run RouterProtectedStep start calls router →
        (Run (Within RoutesWellFormed RouterProtectedStep) start calls router ↔
          Run (Guarded RouterCallFits RouterProtectedStep) start calls router) ∧
        ∀ call reply next, routerProtected router call = some (reply, next) →
          ¬ Succeeds reply → next = router := by
  refine ⟨?_, ?_⟩
  · intro start positive started formed calls state run
    have soundStart : RuleTableSound start := by
      rcases fwFilterStateInit_sound rulesCapacity instancesCapacity positive initialRules with
        ⟨_, failed, _⟩ | ⟨_, result, sound, _, _⟩
      · rw [failed] at started
        cases started
      · rw [result, Except.ok.injEq] at started
        exact started ▸ sound
    refine ⟨?_, fun call reply next returned refused => ?_⟩
    · exact run_within_iff_guarded RuleTableSound soundStart formed
        (fun _ _ _ sound taken => taken.sound sound)
        fun _ _ _ sound formed taken => rulesWellFormed_step sound formed taken
    · have sound := run.invariant RuleTableSound soundStart fun _ _ _ sound taken =>
        taken.sound sound
      obtain ⟨reply', next', returned', outcome⟩ := filterProtected_outcome sound call
      rw [returned] at returned'
      obtain ⟨rfl, rfl⟩ := returned'
      exact outcome.unchanged refused
  · intro start started formed calls router run
    have soundStart := fwRoutingTableInit_sound started
    have soundStep : ∀ (state : RouterTables interfaces) (call : ProtectedCall)
        (next : RouterTables interfaces), RoutingTableSound state.routingTable →
        RouterProtectedStep state call next → RoutingTableSound next.routingTable :=
      fun _ _ _ sound ⟨_, returned⟩ => (routerProtected_outcome returned).sound sound
    refine ⟨?_, fun call reply next returned refused => ?_⟩
    · exact run_within_iff_guarded
        (fun router : RouterTables interfaces => RoutingTableSound router.routingTable)
        soundStart formed soundStep
        fun _ _ _ sound formed taken => routesWellFormed_step sound formed taken
    · have sound := run.invariant
        (fun router : RouterTables interfaces => RoutingTableSound router.routingTable) soundStart
        soundStep
      exact (routerProtected_outcome returned).unchanged sound refused

/-- A filter that supports every action. -/
def allActions : FilterActions := fun _ => 1

/-- A call that adds an allow rule for a source subnet of 33 bits. -/
def addOversizedRule : ProtectedCall :=
  { label := filterAddRule, registers := fun i => if i = 0 then 1 else if i = 2 then 33 else 0 }

/-- A call that makes 7 the default action. -/
def setUnknownAction : ProtectedCall :=
  { label := filterSetDefaultAction, registers := fun _ => 7 }

/-- A call that adds a route for a subnet of 33 bits. -/
def addOversizedRoute : ProtectedCall :=
  { label := routerAddRoute, registers := fun i => if i = 1 then 33 else 0 }

theorem rulesWellFormed_default (table : state.ruleTable = [defaultActionRule allow]) :
    RulesWellFormed allActions state := by
  intro rule member
  rw [table, mem_singleton] at member
  rw [member]
  exact ⟨by decide, by decide, by decide, by decide, by decide⟩

/-- Each of the three calls succeeds and leaves a table that is not well-formed. -/
theorem protected_tables_not_well_formed :
    (∃ start state, fwFilterStateInit (.zeroed 4 4) [defaultActionRule allow] = .ok start ∧
        RulesWellFormed allActions start ∧
        Run (FilterProtectedStep .udp allActions) start [addOversizedRule] state ∧
        ¬ RulesWellFormed allActions state) ∧
      (∃ start state, fwFilterStateInit (.zeroed 4 4) [defaultActionRule allow] = .ok start ∧
          RulesWellFormed allActions start ∧
          Run (FilterProtectedStep .udp allActions) start [setUnknownAction] state ∧
          ¬ RulesWellFormed allActions state) ∧
      ∃ start router : RouterTables 1,
        fwRoutingTableInit (fun _ => ⟨0, 0, 0, 0⟩) 4 [] = some start.routingTable ∧
          RoutesWellFormed start ∧ Run RouterProtectedStep start [addOversizedRoute] router ∧
          ¬ RoutesWellFormed router := by
  refine ⟨⟨_, _, rfl, rulesWellFormed_default rfl, Run.single ⟨_, rfl⟩, fun formed => ?_⟩,
    ⟨_, _, rfl, rulesWellFormed_default rfl, Run.single ⟨_, rfl⟩, fun formed => ?_⟩,
    ⟨⟨⟨4, 0, fun _ => ⟨0, 0, 0, 0⟩⟩, fun _ => true⟩, _, rfl, by nofun, Run.single ⟨_, rfl⟩,
      fun formed => ?_⟩⟩
  · have oversized := (formed ((FilterProtocol.udp.addArgs addOversizedRule.registers).rule 1)
      (by decide)).srcSubnet
    revert oversized
    decide
  · have unknown := (formed { defaultActionRule allow with action := 7 } (by decide)).action
    revert unknown
    decide
  · have oversized := (formed ⟨0, 33, 0, 0⟩ (by decide)).subnet
    revert oversized
    decide

/-- A request with an unknown label is refused, and changes nothing. -/
theorem protected_tables_well_formed_iff_sample :
    ∃ start, fwFilterStateInit (.zeroed 4 4) [defaultActionRule allow] = .ok start ∧
      (Run (Within (RulesWellFormed allActions) (FilterProtectedStep .udp allActions)) start
          [⟨9, fun _ => 0⟩] start ↔
        Run (Guarded (FilterCallFits .udp allActions) (FilterProtectedStep .udp allActions)) start
          [⟨9, fun _ => 0⟩] start) :=
  ⟨_, rfl, ((protected_tables_well_formed_iff .udp allActions 4 4
    [defaultActionRule allow] (fun _ => (⟨0, 0, 0, 0⟩ : FwRoutingEntry 1)) 4 []).1 _
    (by decide) rfl (rulesWellFormed_default rfl) [⟨9, fun _ => 0⟩] _ (Run.single ⟨_, rfl⟩)).1⟩

end LionsOS.Firewall
