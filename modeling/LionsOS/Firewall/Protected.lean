/-
This file embeds the protected procedures through which the webserver changes
the rules of the filters and the routes of the router. The arguments are message
registers of 64 bits, of which the procedures keep as many low bits as the field
has; the reply is the registers that are set. The three filters differ in the
ports they read: ICMP has none.
-/

import LionsOS.Firewall.Filter
import LionsOS.Firewall.RoutingTable

namespace LionsOS.Firewall

/-- The message registers of a call. -/
abbrev MessageRegisters := Nat → UInt64T

/-- A protected procedure call. -/
structure ProtectedCall where
  label : UInt64T
  registers : MessageRegisters

/-! ### The filters -/

def fwFilterNumActions : Nat := 4

def filterSetDefaultAction : UInt64T := 0
def filterAddRule : UInt64T := 1
def filterDelRule : UInt64T := 2

def filterSetDefaultArgAction : Nat := 0

def filterAddArgAction : Nat := 0
def filterAddArgSrcIp : Nat := 1
def filterAddArgSrcSubnet : Nat := 2
def filterAddArgSrcPort : Nat := 3
def filterAddArgSrcAnyPort : Nat := 4
def filterAddArgDstIp : Nat := 5
def filterAddArgDstSubnet : Nat := 6
def filterAddArgDstPort : Nat := 7
def filterAddArgDstAnyPort : Nat := 8

def filterDeleteArgRuleId : Nat := 0

def FwFilterErr.code : FwFilterErr → UInt64T
  | .okay => 0
  | .full => 1
  | .duplicate => 2
  | .clash => 3
  | .invalidRuleId => 4
  | .unsupportedAction => 5

/-- The actions a filter is configured with: entry `n - 1` is not zero if it supports action
`n`. -/
abbrev FilterActions := Fin fwFilterNumActions → UInt8T

/-- Whether a filter supports an action. -/
def FilterActions.supports (actions : FilterActions) (action : FwAction) : Bool :=
  if inside : action ≠ 0 ∧ action.toNat ≤ fwFilterNumActions then
    actions ⟨action.toNat - 1, by
      have positive : action.toNat ≠ 0 := fun zero => inside.1 (BitVec.eq_of_toNat_eq zero)
      omega⟩ != 0
  else false

/-- The port arguments of a new rule. -/
structure PortArgs where
  srcPort : UInt16T
  dstPort : UInt16T
  srcPortAny : Bool
  dstPortAny : Bool

inductive FilterProtocol where
  | icmp
  | tcp
  | udp
  deriving DecidableEq

def icmpFilterDummyPort : UInt16T := 0

/-- The ports of a new rule. The ICMP filter reads none, and its rules are for any port. -/
def FilterProtocol.ports (registers : MessageRegisters) : FilterProtocol → PortArgs
  | .icmp =>
    { srcPort := icmpFilterDummyPort, dstPort := icmpFilterDummyPort, srcPortAny := true,
      dstPortAny := true }
  | .tcp | .udp =>
    { srcPort := (registers filterAddArgSrcPort).setWidth 16
      dstPort := (registers filterAddArgDstPort).setWidth 16
      srcPortAny := registers filterAddArgSrcAnyPort != 0
      dstPortAny := registers filterAddArgDstAnyPort != 0 }

/-- The arguments of a new rule, truncated to the widths of the fields. -/
def FilterProtocol.addArgs (protocol : FilterProtocol) (registers : MessageRegisters) :
    FwFilterAddArgs :=
  { srcIp := (registers filterAddArgSrcIp).setWidth 32
    srcPort := (protocol.ports registers).srcPort
    dstIp := (registers filterAddArgDstIp).setWidth 32
    dstPort := (protocol.ports registers).dstPort
    srcSubnet := (registers filterAddArgSrcSubnet).setWidth 8
    dstSubnet := (registers filterAddArgDstSubnet).setWidth 8
    srcPortAny := (protocol.ports registers).srcPortAny
    dstPortAny := (protocol.ports registers).dstPortAny
    action := (registers filterAddArgAction).setWidth 32 }

/-- The protected procedure of a filter: the reply and the state it leaves. -/
def filterProtected (protocol : FilterProtocol) (actions : FilterActions) (state : FwFilterState)
    (call : ProtectedCall) : Except FilterAssertion (List UInt64T × FwFilterState) :=
  if call.label = filterSetDefaultAction then
    let action : FwAction := (call.registers filterSetDefaultArgAction).setWidth 32
    match fwFilterUpdateDefaultAction state action with
    | .ok (.okay, updated) => .ok ([FwFilterErr.okay.code], updated)
    | .ok _ => .error .defaultActionUpdated
    | .error assertion => .error assertion
  else if call.label = filterAddRule then
    let args := protocol.addArgs call.registers
    if !actions.supports args.action then .ok ([FwFilterErr.unsupportedAction.code], state)
    else
      match fwFilterAddRule state args with
      | .ok (err, ruleId, added) =>
        .ok ([err.code, BitVec.ofNat 64 (ruleId.getD defaultActionRuleId)], added)
      | .error assertion => .error assertion
  else if call.label = filterDelRule then
    let ruleId : UInt16T := (call.registers filterDeleteArgRuleId).setWidth 16
    match fwFilterRemoveRule state ruleId.toNat with
    | .ok (err, removed) => .ok ([err.code], removed)
    | .error assertion => .error assertion
  else .ok ([], state)

/-! ### The router -/

def routerAddRoute : UInt64T := 0
def routerDelRoute : UInt64T := 1
def routerSetPingResponse : UInt64T := 2

def routerAddArgIp : Nat := 0
def routerAddArgSubnet : Nat := 1
def routerAddArgNextHop : Nat := 2
def routerAddArgInterface : Nat := 3

def routerDeleteArgRouteId : Nat := 0

def routerPingArgInterface : Nat := 0
def routerPingArgPingState : Nat := 1

def FwRoutingErr.code : FwRoutingErr → UInt64T
  | .okay => 0
  | .full => 1
  | .duplicate => 2
  | .clash => 3
  | .invalidId => 4
  | .invalidRoute => 5

/-- What the webserver can change of the router. -/
structure RouterTables (interfaces : Nat) where
  routingTable : FwRoutingTable interfaces
  pingResponseEnabled : Fin interfaces → Bool

variable {interfaces : Nat}

/-- The protected procedure of the router: the reply and the state it leaves. `none` when the
assertion that the interface exists fails. -/
def routerProtected (router : RouterTables interfaces) (call : ProtectedCall) :
    Option (List UInt64T × RouterTables interfaces) :=
  if call.label = routerAddRoute then
    let ip : UInt32T := (call.registers routerAddArgIp).setWidth 32
    let subnet : UInt8T := (call.registers routerAddArgSubnet).setWidth 8
    let nextHop : UInt32T := (call.registers routerAddArgNextHop).setWidth 32
    let interface : UInt8T := (call.registers routerAddArgInterface).setWidth 8
    if exists_ : interface.toNat < interfaces then
      let (err, table) := fwRoutingTableAddRoute router.routingTable ⟨interface.toNat, exists_⟩ ip
        subnet nextHop
      some ([err.code], { router with routingTable := table })
    else none
  else if call.label = routerDelRoute then
    let routeId : UInt16T := (call.registers routerDeleteArgRouteId).setWidth 16
    let (err, table) := fwRoutingTableRemoveRoute router.routingTable routeId.toNat
    some ([err.code], { router with routingTable := table })
  else if call.label = routerSetPingResponse then
    let interface : UInt8T := (call.registers routerPingArgInterface).setWidth 8
    if exists_ : interface.toNat < interfaces then
      let pingState := call.registers routerPingArgPingState != 0
      some ([FwRoutingErr.okay.code], { router with
        pingResponseEnabled :=
          Function.update router.pingResponseEnabled ⟨interface.toNat, exists_⟩ pingState })
    else none
  else some ([], router)

end LionsOS.Firewall
