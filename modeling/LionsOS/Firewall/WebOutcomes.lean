/-
This file says what the calls of the web server do to the tables. A check of what
a call has kept of its arguments raises an error and leaves the tables as they are,
or the change is made with what has been kept; but a call whose action is unknown
returns before anything has been done.
-/

import LionsOS.Firewall.FilterRemoval
import LionsOS.Firewall.ProtectedTables
import LionsOS.Firewall.WebCalls

open Function

namespace LionsOS.Firewall

open StepRun FwAction

variable {interfaces : Nat} {config : FwWebserverConfig interfaces}
  {tables next : FirewallTables interfaces} {i : Fin interfaces} {err : FwRoutingErr}
  {ruleId : Nat}

/-! ### Sound tables -/

structure FilterTableSound (state : FwFilterState) : Prop where
  rules : RuleTableSound state
  small : state.rulesCapacity < 2 ^ 16
  actions : ∀ rule ∈ state.ruleTable, KnownAction rule.action

structure FirewallSound (tables : FirewallTables interfaces) : Prop where
  filters : ∀ i m, FilterTableSound (tables.filterStates i m)
  routes : RoutingTableSound tables.router.routingTable
  small : tables.router.routingTable.capacity < 2 ^ 16

def FirewallTables.withRoutes (tables : FirewallTables interfaces)
    (table : FwRoutingTable interfaces) : FirewallTables interfaces :=
  tables.withRouter { tables.router with routingTable := table }

open FirewallTables

section

variable {state : FwFilterState} {m : Nat}

theorem FirewallTables.withFilter_self : (tables.withFilter i m state).filterStates i m = state :=
  update_at_self _ _

theorem FirewallTables.withFilter_of_ne {other : Fin interfaces} {otherIndex : Nat}
    (different : (other, otherIndex) ≠ (i, m)) :
    (tables.withFilter i m state).filterStates other otherIndex =
      tables.filterStates other otherIndex :=
  update_at_of_ne _ _ different

theorem FirewallTables.withFilter_same :
    tables.withFilter i m (tables.filterStates i m) = tables := by
  unfold withFilter
  rw [update_eq_self, update_eq_self]

theorem FirewallSound.withFilter (sound : FirewallSound tables)
    (filter : FilterTableSound state) : FirewallSound (tables.withFilter i m state) where
  filters := by
    intro other otherIndex
    by_cases same : (other, otherIndex) = (i, m)
    · obtain ⟨rfl, rfl⟩ := Prod.mk.inj same
      rw [withFilter_self]
      exact filter
    · rw [withFilter_of_ne same]
      exact sound.filters other otherIndex
  routes := sound.routes
  small := sound.small

end

/-! ### What a call does -/

/-- The rule that a filter adds for the arguments. -/
def RuleWords.keptArgs (words : RuleWords) (filter : FilterProtocol) : FwFilterAddArgs :=
  filter.addArgs words.registers

/-- The reasons for which a filter does not add a rule. -/
def AddRefused (state : FwFilterState) (args : FwFilterAddArgs) : Prop :=
  state.rulesCapacity ≤ state.ruleTable.length ∨ ∃ rule ∈ state.ruleTable, args.clashes rule = true

/-- A known action that the filter does not support. -/
def Unsupported (filter : FwWebserverFilterConfig) (action : UInt8T) : Prop :=
  KnownAction action ∧ filter.actions.supports (loaded action) = false

/-- A check of what has been kept raises an error. -/
def WebCall.Refused (config : FwWebserverConfig interfaces) (tables : FirewallTables interfaces) :
    WebCall → Prop
  | routeAdd [interface, ip, subnet, nextHop] =>
    ∀ i, checkInterfaceIndex interfaces (interface.setWidth 8) = .ok i →
      ∃ err, RouteRefused tables.router.routingTable i (ip.setWidth 32) (subnet.setWidth 8)
        (nextHop.setWidth 32) err
  | routeAdd _ => True
  | routeDelete routeId =>
    tables.router.routingTable.size ≤ (routeId.setWidth 16 : UInt16T).toNat
  | ruleAdd args => ∀ words, RuleWords.ofArgs args = some words → ∀ i m,
    selectFilter config words.interface words.protocol = .ok ⟨i, m⟩ →
      Unsupported ((config i).get m) (words.action.setWidth 8) ∨
        KnownAction (words.action.setWidth 8) ∧
          AddRefused (tables.filterStates i m) (words.keptArgs ((config i).get m).filter)
  | ruleDelete interface ruleId protocol => ∀ i m,
    selectFilter config interface protocol = .ok ⟨i, m⟩ →
      (ruleId.setWidth 16 : UInt16T).toNat = defaultActionRuleId ∨
        (ruleId.setWidth 16 : UInt16T).toNat ∉ (tables.filterStates i m).ruleIds
  | filterSetDefaultAction interface protocol action => ∀ i m,
    selectFilter config interface protocol = .ok ⟨i, m⟩ →
      Unsupported ((config i).get m) (action.setWidth 8)

/-- Everything a call can do: be refused, be ignored because the action is unknown, or make its
change with what it has kept. -/
inductive WebOutcome (config : FwWebserverConfig interfaces) (tables : FirewallTables interfaces) :
    WebCall → Except FwOsErr (Option Nat) → FirewallTables interfaces → Prop
  | refused {call : WebCall} (err : FwOsErr) (reason : call.Refused config tables) :
    WebOutcome config tables call (.error err) tables
  | routeAdded {interface ip subnet nextHop : UInt64T} {i : Fin interfaces}
    (selects : checkInterfaceIndex interfaces (interface.setWidth 8) = .ok i)
    {table : FwRoutingTable interfaces}
    (added : fwRoutingTableAddRoute tables.router.routingTable i (ip.setWidth 32)
      (subnet.setWidth 8) (nextHop.setWidth 32) = (.okay, table)) :
    WebOutcome config tables (.routeAdd [interface, ip, subnet, nextHop]) (.ok (some 0))
      (tables.withRoutes table)
  | routeRemoved {routeId : UInt64T} {table : FwRoutingTable interfaces}
    (removed : fwRoutingTableRemoveRoute tables.router.routingTable
      (routeId.setWidth 16 : UInt16T).toNat = (.okay, table)) :
    WebOutcome config tables (.routeDelete routeId) (.ok (some (kept 16 routeId).toNat))
      (tables.withRoutes table)
  | ruleAdded {args : List UInt64T} {words : RuleWords} (parsed : RuleWords.ofArgs args = some words)
    {i : Fin interfaces} {m : Fin (config i).length}
    (selects : selectFilter config words.interface words.protocol = .ok ⟨i, m⟩)
    (known : KnownAction (words.action.setWidth 8)) (supported : ((config i).get m).actions.supports
      (loaded (words.action.setWidth 8)) = true) {ruleId : Nat}
    {after : FwFilterState} (added : fwFilterAddRule (tables.filterStates i m)
      (words.keptArgs ((config i).get m).filter) = .ok (.okay, some ruleId, after)) :
    WebOutcome config tables (.ruleAdd args) (.ok (some ruleId)) (tables.withFilter i m after)
  | ruleRemoved {interface ruleId protocol : UInt64T} {i : Fin interfaces}
    {m : Fin (config i).length} (selects : selectFilter config interface protocol = .ok ⟨i, m⟩)
    {after : FwFilterState} (removed : fwFilterRemoveRule (tables.filterStates i m)
      (ruleId.setWidth 16 : UInt16T).toNat = .ok (.okay, after)) :
    WebOutcome config tables (.ruleDelete interface ruleId protocol)
      (.ok (some (kept 16 ruleId).toNat)) (tables.withFilter i m after)
  | defaultSet {interface protocol action : UInt64T} {i : Fin interfaces}
    {m : Fin (config i).length} (selects : selectFilter config interface protocol = .ok ⟨i, m⟩)
    (known : KnownAction (action.setWidth 8)) (supported : ((config i).get m).actions.supports
      (loaded (action.setWidth 8)) = true) {after : FwFilterState}
    (updated : fwFilterUpdateDefaultAction (tables.filterStates i m)
      (loaded (action.setWidth 8)) = .ok (.okay, after)) :
    WebOutcome config tables (.filterSetDefaultAction interface protocol action) (.ok (some 0))
      (tables.withFilter i m after)
  | ruleIgnored {args : List UInt64T} {words : RuleWords}
    (parsed : RuleWords.ofArgs args = some words) {i : Fin interfaces} {m : Fin (config i).length}
    (selects : selectFilter config words.interface words.protocol = .ok ⟨i, m⟩)
    (unknown : ¬ KnownAction (words.action.setWidth 8)) :
    WebOutcome config tables (.ruleAdd args) (.ok none) tables
  | defaultIgnored {interface protocol action : UInt64T} {i : Fin interfaces}
    {m : Fin (config i).length} (selects : selectFilter config interface protocol = .ok ⟨i, m⟩)
    (unknown : ¬ KnownAction (action.setWidth 8)) :
    WebOutcome config tables (.filterSetDefaultAction interface protocol action) (.ok none) tables

variable {state after : FwFilterState}

/-- A call ends in one of these outcomes. -/
def WebCall.Ends (config : FwWebserverConfig interfaces) (tables : FirewallTables interfaces)
    (call : WebCall) : Prop :=
  ∃ ended next, call.perform config tables = some (ended, next) ∧
    WebOutcome config tables call ended next

theorem ended_routing (failed : err ≠ .okay) (value : Nat) :
    ∃ osErr, ended (fwRoutingErrToOsErr err.code) value = .error osErr := by
  cases err
  case okay => exact absurd rfl failed
  all_goals exact ⟨_, rfl⟩

theorem ended_filter {err : FwFilterErr} (failed : err ≠ .okay) (value : Nat) :
    ∃ osErr, ended (filterErrToOsErr err.code) value = .error osErr := by
  cases err
  case okay => exact absurd rfl failed
  all_goals exact ⟨_, rfl⟩

theorem routerCall_addRoute (tables : FirewallTables interfaces)
    (interface ip subnet nextHop : UInt64T)
    (inside : (interface.setWidth 8 : UInt8T).toNat < interfaces) :
    tables.routerCall
        { label := routerAddRoute
          registers :=
            messageRegisters [kept 32 ip, kept 8 subnet, kept 32 nextHop, kept 8 interface] } 0 =
      let performed := fwRoutingTableAddRoute tables.router.routingTable
        ⟨(interface.setWidth 8 : UInt8T).toNat, inside⟩ (ip.setWidth 32) (subnet.setWidth 8)
        (nextHop.setWidth 32)
      some (ended (fwRoutingErrToOsErr performed.1.code) 0, tables.withRoutes performed.2) := by
  simp [-BitVec.toNat_setWidth, routerCall, routerProtected, messageRegisters,
    routerAddArgIp, routerAddArgSubnet, routerAddArgNextHop, routerAddArgInterface, kept, inside,
    ProtectedCall.replied, routerRetErr, withRoutes]

theorem routeAdd_ends (sound : FirewallSound tables) (args : List UInt64T) :
    WebCall.Ends config tables (.routeAdd args) := by
  simp only [WebCall.Ends, WebCall.perform, Modfirewall.routeAdd]
  split
  case h_2 none =>
    refine ⟨_, _, rfl, .refused _ ?_⟩
    unfold WebCall.Refused
    split <;> simp_all
  case h_1 interface ip subnet nextHop =>
    cases checked : checkInterfaceIndex interfaces (interface.setWidth 8) with
    | error err => exact ⟨_, _, rfl, .refused _ fun i found => by cases checked.symm.trans found⟩
    | ok i =>
      obtain ⟨inside, rfl⟩ : ∃ inside, i = ⟨(interface.setWidth 8 : UInt8T).toNat, inside⟩ := by
        unfold checkInterfaceIndex at checked
        split at checked <;> cases checked
        exact ⟨_, rfl⟩
      rw [routerCall_addRoute tables interface ip subnet nextHop inside]
      rcases fwRoutingTableAddRoute_cases sound.routes.bounded ⟨_, inside⟩ (ip.setWidth 32)
        (subnet.setWidth 8) (nextHop.setWidth 32) with ⟨err, result, refused⟩ | ⟨result, _⟩
      · rw [result]
        obtain ⟨osErr, raised⟩ := ended_routing refused.ne_okay 0
        refine ⟨_, tables, by rw [← raised]; rfl, .refused _ fun other found => ?_⟩
        cases checked.symm.trans found
        exact ⟨err, refused⟩
      · rw [result]
        exact ⟨_, _, rfl, .routeAdded checked result⟩

theorem routeDelete_ends (sound : FirewallSound tables) (routeId : UInt64T) :
    WebCall.Ends config tables (.routeDelete routeId) := by
  have call : Modfirewall.routeDelete tables routeId =
      let performed := fwRoutingTableRemoveRoute tables.router.routingTable
        (routeId.setWidth 16 : UInt16T).toNat
      some (ended (fwRoutingErrToOsErr performed.1.code) (kept 16 routeId).toNat,
        tables.withRoutes performed.2) := by
    simp [Modfirewall.routeDelete, routerCall, routerProtected, messageRegisters,
      routerAddRoute, routerDelRoute, routerDeleteArgRouteId, kept, ProtectedCall.replied,
      routerRetErr, withRoutes]
  simp only [WebCall.Ends, WebCall.perform, call]
  rcases fwRoutingTableRemoveRoute_cases sound.routes.bounded
    (routeId.setWidth 16 : UInt16T).toNat with ⟨outside, result⟩ | ⟨_, table, result, _⟩
  · rw [result]
    exact ⟨_, _, rfl, .refused _ outside⟩
  · rw [result]
    exact ⟨_, _, rfl, .routeRemoved result⟩

section Replies

variable {protocol : FilterProtocol} {actions : FilterActions} {err : FwFilterErr}

theorem filterProtected_addRule {registers : MessageRegisters} {ruleId : Option Nat}
    (supported : actions.supports (protocol.addArgs registers).action = true)
    (added : fwFilterAddRule state (protocol.addArgs registers) = .ok (err, ruleId, after)) :
    filterProtected protocol actions state { label := filterAddRule, registers } =
      .ok ([err.code, BitVec.ofNat 64 (ruleId.getD defaultActionRuleId)], after) := by
  simp [filterProtected, filterAddRule, filterSetDefaultAction, supported, added]

theorem filterProtected_delRule {ruleId : UInt64T}
    (removed : fwFilterRemoveRule state (ruleId.setWidth 16 : UInt16T).toNat = .ok (err, after)) :
    filterProtected protocol actions state
        { label := filterDelRule, registers := messageRegisters [kept 16 ruleId] } =
      .ok ([err.code], after) := by
  simp [-BitVec.toNat_setWidth, filterProtected, filterDelRule, filterAddRule,
    filterSetDefaultAction, messageRegisters, filterDeleteArgRuleId, kept, removed]

theorem filterProtected_setDefault {action : UInt64T}
    (updated : fwFilterUpdateDefaultAction state (loaded (action.setWidth 8)) =
      .ok (.okay, after)) :
    filterProtected protocol actions state
        { label := filterSetDefaultAction, registers := messageRegisters [kept 8 action] } =
      .ok ([FwFilterErr.okay.code], after) := by
  rw [loaded] at updated
  simp [filterProtected, messageRegisters, filterSetDefaultArgAction, kept, updated]

end Replies

section Calls

variable {m : Fin (config i).length} {call : ProtectedCall} {value : MessageRegisters → Nat}
  {reply : List UInt64T}

theorem filterCall_replied
    (replied : filterProtected ((config i).get m).filter ((config i).get m).actions
      (tables.filterStates i m) call = .ok (reply, after)) :
    tables.filterCall config i m call value =
      some (ended (filterErrToOsErr (call.replied reply filterRetErr)) (value (call.replied reply)),
        tables.withFilter i m after) := by
  unfold filterCall
  dsimp only
  rw [replied]

theorem filterCall_failed {err : FwFilterErr}
    (replied : filterProtected ((config i).get m).filter ((config i).get m).actions
      (tables.filterStates i m) call = .ok (err.code :: reply, tables.filterStates i m)) (failed : err ≠ .okay) :
    ∃ osErr, tables.filterCall config i m call value = some (.error osErr, tables) := by
  obtain ⟨osErr, raised⟩ := ended_filter failed (value (call.replied (err.code :: reply)))
  refine ⟨osErr, ?_⟩
  rw [filterCall_replied replied, withFilter_same, ← raised]
  rfl

end Calls

theorem ruleDelete_ends (sound : FirewallSound tables) (interface ruleId protocol : UInt64T) :
    WebCall.Ends config tables (.ruleDelete interface ruleId protocol) := by
  simp only [WebCall.Ends, WebCall.perform, Modfirewall.ruleDelete]
  cases selects : selectFilter config interface protocol with
  | error err => exact ⟨_, _, rfl, .refused _ fun i m found => by cases selects.symm.trans found⟩
  | ok found =>
    obtain ⟨i, m⟩ := found
    dsimp only [check]
    have rules := (sound.filters i m).rules
    rcases fwFilterRemoveRule_cases rules (ruleId.setWidth 16 : UInt16T).toNat with
      ⟨err, failed, removed⟩ | ⟨_, _, _, _, _, _, removed⟩
    · obtain ⟨osErr, raised⟩ := filterCall_failed (filterProtected_delRule removed) failed
      refine ⟨_, _, raised, .refused _ fun other otherIndex found => ?_⟩
      cases selects.symm.trans found
      by_contra! valid
      obtain ⟨_, _, _, _, _, removed'⟩ := fwFilterRemoveRule_of_mem rules valid.2 valid.1
      rw [removed, Except.ok.injEq, Prod.mk.injEq] at removed'
      exact failed removed'.1
    · exact ⟨_, _, filterCall_replied (filterProtected_delRule removed),
        .ruleRemoved selects removed⟩

/-- The check of the action finds it unknown, not supported or supported. -/
theorem isActionSupported_cases (filter : FwWebserverFilterConfig) (action : UInt8T) :
    (¬ KnownAction action ∧ isActionSupportedForFilter filter action = .ok false) ∨
      (Unsupported filter action ∧
        isActionSupportedForFilter filter action = .error .unsupportedAction) ∨
      (KnownAction action ∧ filter.actions.supports (loaded action) = true ∧
        isActionSupportedForFilter filter action = .ok true) := by
  unfold isActionSupportedForFilter Unsupported
  by_cases known : KnownAction action
  · cases supported : filter.actions.supports (loaded action) <;> simp [known]
  · simp [known]

theorem filterSetDefaultAction_ends (sound : FirewallSound tables)
    (interface protocol action : UInt64T) :
    WebCall.Ends config tables (.filterSetDefaultAction interface protocol action) := by
  simp only [WebCall.Ends, WebCall.perform, Modfirewall.filterSetDefaultAction]
  cases selects : selectFilter config interface protocol with
  | error err => exact ⟨_, _, rfl, .refused _ fun i m found => by cases selects.symm.trans found⟩
  | ok found =>
    obtain ⟨i, m⟩ := found
    dsimp only [check]
    rcases isActionSupported_cases ((config i).get m) (action.setWidth 8) with
      ⟨unknown, checked⟩ | ⟨unsupported, checked⟩ | ⟨known, supported, checked⟩ <;> rw [checked]
    · exact ⟨_, _, rfl, .defaultIgnored selects unknown⟩
    · exact ⟨_, _, rfl, .refused _ fun _ _ found => by cases selects.symm.trans found; assumption⟩
    · obtain ⟨defaultRule, rest, table, _⟩ := (sound.filters i m).rules.defaultFirst
      rcases fwFilterUpdateDefaultAction_cases table (loaded (action.setWidth 8)) with
        ⟨_, updated⟩ | ⟨_, updated⟩ <;> dsimp only <;> rw [if_pos rfl] <;>
      exact ⟨_, _, filterCall_replied (filterProtected_setDefault updated),
        .defaultSet selects known supported updated⟩

theorem action_keptArgs (words : RuleWords) (filter : FilterProtocol) :
    (words.keptArgs filter).action = loaded (words.action.setWidth 8) := by
  simp [RuleWords.keptArgs, FilterProtocol.addArgs, RuleWords.registers, messageRegisters,
    filterAddArgAction, kept, loaded]

theorem ruleAdd_ends (sound : FirewallSound tables) (args : List UInt64T) :
    WebCall.Ends config tables (.ruleAdd args) := by
  simp only [WebCall.Ends, WebCall.perform, Modfirewall.ruleAdd]
  cases parsed : RuleWords.ofArgs args with
  | none => exact ⟨_, _, rfl, .refused _ fun _ found => by cases parsed.symm.trans found⟩
  | some words =>
    dsimp only
    cases selects : selectFilter config words.interface words.protocol with
    | error err =>
      refine ⟨_, _, rfl, .refused _ fun _ found i m named => ?_⟩
      cases parsed.symm.trans found
      cases selects.symm.trans named
    | ok found =>
      obtain ⟨i, m⟩ := found
      dsimp only [check]
      rcases isActionSupported_cases ((config i).get m) (words.action.setWidth 8) with
        ⟨unknown, checked⟩ | ⟨unsupported, checked⟩ | ⟨known, supported, checked⟩ <;> rw [checked]
      · exact ⟨_, _, rfl, .ruleIgnored parsed selects unknown⟩
      · refine ⟨_, _, rfl, .refused _ fun _ found _ _ named => Or.inl ?_⟩
        cases parsed.symm.trans found
        cases selects.symm.trans named
        exact unsupported
      · dsimp only
        rw [if_pos rfl]
        have accepts := supported
        rw [← action_keptArgs words ((config i).get m).filter] at accepts
        rcases fwFilterAddRule_cases (sound.filters i m).rules
          (words.keptArgs ((config i).get m).filter) with ⟨err, failed, added, reason⟩ |
            ⟨ruleId, added, _, _, _, below, _⟩
        · obtain ⟨osErr, raised⟩ := filterCall_failed (filterProtected_addRule accepts added) failed
          refine ⟨_, _, raised, .refused _ fun _ found _ _ named => Or.inr ⟨?_, ?_⟩⟩
          all_goals
            cases parsed.symm.trans found
            cases selects.symm.trans named
          · exact known
          · exact (Nat.lt_or_ge _ _).symm.imp_right reason
        · have id : (kept 16 (BitVec.ofNat 64 ruleId)).toNat = ruleId := by
            have small := below.trans (sound.filters i m).small
            simp [kept]
            omega
          refine ⟨.ok (some ruleId), _, ?_, .ruleAdded parsed selects known supported added⟩
          rw [filterCall_replied (filterProtected_addRule accepts added)]
          show some (Except.ok (some (kept 16 (BitVec.ofNat 64 ruleId)).toNat), _) = _
          rw [id]

theorem WebCall.ends (sound : FirewallSound tables) : ∀ call : WebCall, call.Ends config tables
  | routeAdd args => routeAdd_ends sound args
  | routeDelete routeId => routeDelete_ends sound routeId
  | ruleAdd args => ruleAdd_ends sound args
  | ruleDelete interface ruleId protocol => ruleDelete_ends sound interface ruleId protocol
  | filterSetDefaultAction interface protocol action =>
    filterSetDefaultAction_ends sound interface protocol action

/-! ### What has succeeded -/

theorem addRule_okay {args : FwFilterAddArgs} (sound : RuleTableSound state)
    (added : fwFilterAddRule state args = .ok (.okay, some ruleId, after)) :
    after = state.withRule args ruleId ∧ ¬ AddRefused state args ∧
      ruleId ≠ defaultActionRuleId ∧ ruleId < state.rulesCapacity ∧ ruleId ∉ state.ruleIds := by
  rcases fwFilterAddRule_cases sound args with ⟨_, failed, added', _⟩ |
    ⟨_, added', room, free, facts⟩
  · rw [added, Except.ok.injEq, Prod.mk.injEq] at added'
    exact absurd added'.1.symm failed
  · rw [added] at added'
    cases added'
    refine ⟨rfl, ?_, facts⟩
    rintro (full | ⟨rule, member, clash⟩)
    · exact absurd room (Nat.not_lt.mpr full)
    · cases clash.symm.trans (free rule member)

theorem removeRule_okay (sound : RuleTableSound state)
    (removed : fwFilterRemoveRule state ruleId = .ok (.okay, after)) :
    ∃ front rule rest, state.ruleTable = front ++ rule :: rest ∧ front ≠ [] ∧
      rule.ruleId = ruleId ∧ after = state.withoutRule front rule rest := by
  rcases fwFilterRemoveRule_cases sound ruleId with ⟨_, failed, removed'⟩ |
    ⟨front, rule, rest, table, nonempty, same, removed'⟩
  · rw [removed, Except.ok.injEq, Prod.mk.injEq] at removed'
    exact absurd removed'.1.symm failed
  · rw [removed] at removed'
    cases removed'
    exact ⟨front, rule, rest, table, nonempty, same, rfl⟩

/-- Setting the default action leaves a default rule with the action, in front of the others. -/
theorem setDefault_okay {action : UInt8T} (sound : RuleTableSound state)
    (updated : fwFilterUpdateDefaultAction state (loaded action) = .ok (.okay, after)) :
    RuleTableSound after ∧ after.rulesCapacity = state.rulesCapacity ∧
      ∃ defaultRule : FwRule, defaultRule.action = action ∧
        after.ruleTable = defaultRule :: state.ruleTable.tail := by
  obtain ⟨defaultRule, rest, table, _⟩ := sound.defaultFirst
  rcases fwFilterUpdateDefaultAction_cases table (loaded action) with
    ⟨same, updated'⟩ | ⟨_, updated'⟩ <;> rw [updated] at updated' <;> cases updated'
  · refine ⟨sound, rfl, defaultRule, ?_, by rw [table]; rfl⟩
    have inside := congrArg stored same
    simpa [stored, loaded] using inside.symm
  · refine ⟨sound.withDefaultAction table _, rfl, _, ?_, by rw [table]; rfl⟩
    simp [stored, loaded]

theorem FirewallSound.withRoutes (sound : FirewallSound tables) (call : RouteCall interfaces)
    {table : FwRoutingTable interfaces}
    (performed : call.perform tables.router.routingTable = (err, table)) :
    FirewallSound (tables.withRoutes table) := by
  have kept := RouteCall.perform_sound sound.routes call
  rw [performed] at kept
  exact ⟨sound.filters, kept.1, kept.2.1.symm ▸ sound.small⟩

theorem WebOutcome.sound {call : WebCall} {ended : Except FwOsErr (Option Nat)}
    (outcome : WebOutcome config tables call ended next) (sound : FirewallSound tables) :
    FirewallSound next := by
  cases outcome with
  | refused | ruleIgnored | defaultIgnored => exact sound
  | routeAdded _ added => exact sound.withRoutes (.addRoute _ _ _ _) added
  | routeRemoved removed => exact sound.withRoutes (.removeRoute _) removed
  | @ruleAdded args words parsed i m _ known _ ruleId _ added =>
    have before := sound.filters i m
    obtain ⟨rfl, accepted, _, below, unused⟩ := addRule_okay before.rules added
    refine sound.withFilter ⟨before.rules.withRule _ ?_ below unused, before.small,
      fun rule member => ?_⟩
    · exact Nat.lt_of_not_le fun full => accepted (Or.inl full)
    · rcases List.mem_append.mp member with old | new
      · exact before.actions rule old
      · rw [List.mem_singleton.mp new]
        show KnownAction (stored (words.keptArgs _).action)
        rw [action_keptArgs, stored, loaded, BitVec.setWidth_setWidth_of_le _ (by
          decide)]
        exact known
  | @ruleRemoved interface ruleId protocol i m _ _ removed =>
    have before := sound.filters i m
    obtain ⟨_, _, _, table, nonempty, _, rfl⟩ := removeRule_okay before.rules removed
    refine sound.withFilter ⟨before.rules.withoutRule table nonempty, before.small,
      fun rule member => before.actions rule ?_⟩
    rw [table, List.mem_append, List.mem_cons]
    exact (List.mem_append.mp member).imp_right Or.inr
  | @defaultSet interface protocol action i m _ known _ _ updated =>
    have before := sound.filters i m
    obtain ⟨rules, capacity, defaultRule, same, table⟩ := setDefault_okay before.rules updated
    refine sound.withFilter ⟨rules, capacity.symm ▸ before.small, fun rule member => ?_⟩
    rw [table, List.mem_cons] at member
    rcases member with rfl | old
    · exact same ▸ known
    · exact before.actions rule (List.mem_of_mem_tail old)

/-! ### Runs -/

/-- A call, or a packet that a filter processes. -/
inductive FirewallEvent (interfaces : Nat) where
  | call (call : WebCall)
  | packet (i : Fin interfaces) (m : Nat) (external : List (List FwInstance)) (flow : PacketFlow)

def FirewallStep (config : FwWebserverConfig interfaces) (tables : FirewallTables interfaces)
    (event : FirewallEvent interfaces) (next : FirewallTables interfaces) : Prop :=
  match event with
  | .call call => ∃ ended, call.perform config tables = some (ended, next)
  | .packet i m external flow =>
    next = tables.withFilter i m (filterPacket (tables.filterStates i m) external flow).2.2

theorem FirewallStep.sound {event : FirewallEvent interfaces}
    (taken : FirewallStep config tables event next) (sound : FirewallSound tables) :
    FirewallSound next := by
  cases event with
  | call call =>
    obtain ⟨ended, performed⟩ := taken
    obtain ⟨_, _, performed', outcome⟩ := @WebCall.ends _ config _ sound call
    cases performed.symm.trans performed'
    exact outcome.sound sound
  | packet i m external flow =>
    cases taken
    obtain ⟨rules, small, actions⟩ := sound.filters i m
    rcases filterPacket_instances rules external flow with unchanged | ⟨_, _, _, added⟩
    · rw [unchanged]
      exact sound.withFilter ⟨rules, small, actions⟩
    · obtain ⟨defaultFirst, bounded, distinct, below, bitmap, blocks⟩ := rules
      rw [added]
      exact sound.withFilter ⟨⟨defaultFirst, bounded, distinct, below, bitmap, blocks⟩, small,
        actions⟩

/-- The filters and the router have been initialised, the filters with known actions, and there
are at most four interfaces. -/
structure FirewallStarted (tables : FirewallTables interfaces) : Prop where
  few : interfaces ≤ 4
  filters : ∀ i m, ∃ (rulesCapacity : UInt16T) (instancesCapacity : Nat)
    (initialRules : List FwRule), 0 < rulesCapacity.toNat ∧
      fwFilterStateInit (.zeroed rulesCapacity.toNat instancesCapacity) initialRules =
        .ok (tables.filterStates i m) ∧
      ∀ rule ∈ (tables.filterStates i m).ruleTable, KnownAction rule.action
  routes : ∃ entries, ∃ capacity : UInt16T, ∃ initialRoutes,
    fwRoutingTableInit entries capacity.toNat initialRoutes = some tables.router.routingTable

theorem FirewallStarted.sound (started : FirewallStarted tables) : FirewallSound tables where
  filters i m := by
    obtain ⟨rulesCapacity, instancesCapacity, initialRules, positive, result, actions⟩ :=
      started.filters i m
    rcases fwFilterStateInit_sound rulesCapacity.toNat instancesCapacity positive initialRules with
      ⟨_, failed, _⟩ | ⟨_, result', rules, capacity, _⟩
    · cases failed.symm.trans result
    · cases Except.ok.inj (result.symm.trans result')
      exact ⟨rules, capacity ▸ rulesCapacity.isLt, actions⟩
  routes := by
    obtain ⟨_, _, _, result⟩ := started.routes
    exact fwRoutingTableInit_sound result
  small := by
    obtain ⟨entries, capacity, _, result⟩ := started.routes
    have kept := (addInitialRoutes_run result).invariant
      (fun table => RoutingTableSound table ∧ table.capacity = capacity.toNat)
      ⟨emptyTable_sound entries capacity.toNat, rfl⟩ fun table call next inv taken => by
        cases taken
        exact ⟨(RouteCall.perform_sound inv.1 call).1,
          (RouteCall.perform_sound inv.1 call).2.1.trans inv.2⟩
    exact kept.2 ▸ capacity.isLt

theorem FirewallStarted.run (started : FirewallStarted tables)
    {events : List (FirewallEvent interfaces)} (run : Run (FirewallStep config) tables events next) :
    FirewallSound next :=
  run.invariant FirewallSound started.sound fun _ _ _ sound taken => taken.sound sound

end LionsOS.Firewall
