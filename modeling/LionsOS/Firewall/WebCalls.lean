/-
This file embeds the module through which the web server reads and changes the
tables of the firewall. Its arguments are machine integers; a call keeps as many
low bits of each as the field has, and checks what it has kept. It reads the
tables where they are mapped, and changes them through protected calls.
-/

import LionsOS.Firewall.Protected

open Function

namespace LionsOS.Firewall

variable {interfaces : Nat}

/-- The errors that the module raises. -/
inductive FwOsErr where
  | okay
  | invalidInterface
  | invalidProtocol
  | invalidRouteId
  | invalidRuleId
  | invalidRouteArgs
  | duplicate
  | clash
  | invalidArguments
  | invalidRouteNum
  | invalidRuleNum
  | outOfMemory
  | internalError
  | unsupportedAction
  deriving DecidableEq

def fwRoutingErrToOsErr (routingErr : UInt64T) : FwOsErr :=
  match routingErr.toNat with
  | 0 => .okay
  | 1 => .outOfMemory
  | 2 => .duplicate
  | 3 => .clash
  | 4 => .invalidRouteId
  | 5 => .invalidRouteArgs
  | _ => .internalError

def filterErrToOsErr (filterErr : UInt64T) : FwOsErr :=
  match filterErr.toNat with
  | 0 => .okay
  | 1 => .outOfMemory
  | 2 => .duplicate
  | 3 => .clash
  | 4 => .invalidRuleId
  | 5 => .unsupportedAction
  | _ => .internalError

/-! ### The configuration and the tables -/

/-- What the web server knows of a filter, and which filter its channel leads to. -/
structure FwWebserverFilterConfig where
  filter : FilterProtocol
  actions : FilterActions

def FwWebserverFilterConfig.protocol (config : FwWebserverFilterConfig) : UInt16T :=
  match config.filter with
  | .icmp => 0x01
  | .tcp => 0x06
  | .udp => 0x11

/-- The filters of each interface. -/
abbrev FwWebserverConfig (interfaces : Nat) := Fin interfaces → List FwWebserverFilterConfig

/-- The states of the filters, by interface and index, and the tables of the router. -/
structure FirewallTables (interfaces : Nat) where
  filterStates : Fin interfaces → Nat → FwFilterState
  router : RouterTables interfaces

def FirewallTables.withFilter (tables : FirewallTables interfaces) (interface : Fin interfaces)
    (index : Nat) (state : FwFilterState) : FirewallTables interfaces :=
  { tables with
    filterStates :=
      update tables.filterStates interface (update (tables.filterStates interface) index state) }

def FirewallTables.withRouter (tables : FirewallTables interfaces)
    (router : RouterTables interfaces) : FirewallTables interfaces :=
  { tables with router }

/-! ### Checks -/

def checkInterfaceIndex (interfaces : Nat) (interfaceIdx : UInt8T) :
    Except FwOsErr (Fin interfaces) :=
  if inside : interfaceIdx.toNat < interfaces then .ok ⟨interfaceIdx.toNat, inside⟩
  else .error .invalidInterface

def findFilterIndex (config : FwWebserverConfig interfaces) (interface : Fin interfaces)
    (protocol : UInt16T) : Except FwOsErr (Fin (config interface).length) :=
  match (config interface).findFinIdx? fun filter => filter.protocol == protocol with
  | some index => .ok index
  | none => .error .invalidProtocol

/-- The filter that the arguments of a call name. -/
def selectFilter (config : FwWebserverConfig interfaces) (interface protocol : UInt64T) :
    Except FwOsErr ((i : Fin interfaces) × Fin (config i).length) := do
  let i ← checkInterfaceIndex interfaces (interface.setWidth 8)
  let m ← findFilterIndex config i (protocol.setWidth 16)
  return ⟨i, m⟩

def KnownAction (action : UInt8T) : Prop := action ≠ 0 ∧ action.toNat ≤ fwFilterNumActions

instance (action : UInt8T) : Decidable (KnownAction action) :=
  inferInstanceAs (Decidable (_ ∧ _))

/-- An unknown action is only reported as not supported; the error is for a known one. -/
def isActionSupportedForFilter (filter : FwWebserverFilterConfig) (action : UInt8T) :
    Except FwOsErr Bool :=
  if ¬ KnownAction action then .ok false
  else if filter.actions.supports (FwAction.loaded action) then .ok true
  else .error .unsupportedAction

/-! ### Protected calls -/

/-- How a call ends, with an error raised or with the integer it returns, and the tables it
leaves. `none` where an assertion of the called component fails. -/
abbrev WebCallResult (interfaces : Nat) :=
  Option (Except FwOsErr (Option Nat) × FirewallTables interfaces)

/-- Go on with what a check finds. An error that it raises ends the call. -/
def FirewallTables.check {Found : Type} (tables : FirewallTables interfaces)
    (checked : Except FwOsErr Found) (rest : Found → WebCallResult interfaces) :
    WebCallResult interfaces :=
  match checked with
  | .error err => some (.error err, tables)
  | .ok found => rest found

/-- The message registers, set in their order. -/
def messageRegisters (words : List UInt64T) : MessageRegisters := fun index => words.getD index 0

/-- The value that a field of `width` bits keeps of an argument. -/
def kept (width : Nat) (word : UInt64T) : UInt64T := (word.setWidth width).setWidth 64

/-- What a `bool` keeps of an argument. -/
def keptBool (word : UInt64T) : UInt64T := if word = 0 then 0 else 1

/-- The message registers after a call. -/
def ProtectedCall.replied (call : ProtectedCall) (reply : List UInt64T) : MessageRegisters :=
  fun index => reply.getD index (call.registers index)

def routerRetErr : Nat := 0
def filterRetErr : Nat := 0
def filterRetRuleId : Nat := 1

/-- How a call ends after a protected call that replied `osErr`. -/
def ended (osErr : FwOsErr) (value : Nat) : Except FwOsErr (Option Nat) :=
  if osErr = .okay then .ok (some value) else .error osErr

def FirewallTables.routerCall (tables : FirewallTables interfaces) (call : ProtectedCall)
    (value : Nat) : WebCallResult interfaces :=
  match routerProtected tables.router call with
  | none => none
  | some (reply, router) =>
    some (ended (fwRoutingErrToOsErr (call.replied reply routerRetErr)) value,
      tables.withRouter router)

def FirewallTables.filterCall (config : FwWebserverConfig interfaces)
    (tables : FirewallTables interfaces) (interface : Fin interfaces)
    (index : Fin (config interface).length) (call : ProtectedCall)
    (value : MessageRegisters → Nat) : WebCallResult interfaces :=
  let filter := (config interface).get index
  match filterProtected filter.filter filter.actions (tables.filterStates interface index) call with
  | .error _ => none
  | .ok (reply, state) =>
    let registers := call.replied reply
    some (ended (filterErrToOsErr (registers filterRetErr)) (value registers),
      tables.withFilter interface index state)

/-! ### Changing the tables -/

/-- The arguments of a new rule, in their order. -/
structure RuleWords where
  interface : UInt64T
  protocol : UInt64T
  srcIp : UInt64T
  srcPort : UInt64T
  srcPortAny : UInt64T
  srcSubnet : UInt64T
  dstIp : UInt64T
  dstPort : UInt64T
  dstPortAny : UInt64T
  dstSubnet : UInt64T
  action : UInt64T

def RuleWords.ofArgs : List UInt64T → Option RuleWords
  | [interface, protocol, srcIp, srcPort, srcPortAny, srcSubnet, dstIp, dstPort, dstPortAny,
      dstSubnet, action] =>
    some { interface, protocol, srcIp, srcPort, srcPortAny, srcSubnet, dstIp, dstPort, dstPortAny,
           dstSubnet, action }
  | _ => none

/-- The registers of the call that adds the rule. -/
def RuleWords.registers (words : RuleWords) : MessageRegisters :=
  messageRegisters [kept 8 words.action, kept 32 words.srcIp, kept 8 words.srcSubnet,
    kept 16 words.srcPort, keptBool words.srcPortAny, kept 32 words.dstIp,
    kept 8 words.dstSubnet, kept 16 words.dstPort, keptBool words.dstPortAny]

namespace Modfirewall

def routeAdd (tables : FirewallTables interfaces) (args : List UInt64T) :
    WebCallResult interfaces :=
  match args with
  | [interface, ip, subnet, nextHop] =>
    tables.check (checkInterfaceIndex interfaces (interface.setWidth 8)) fun _ =>
      tables.routerCall
        { label := routerAddRoute
          registers :=
            messageRegisters [kept 32 ip, kept 8 subnet, kept 32 nextHop, kept 8 interface] } 0
  | _ => some (.error .invalidArguments, tables)

def routeDelete (tables : FirewallTables interfaces) (routeId : UInt64T) :
    WebCallResult interfaces :=
  tables.routerCall { label := routerDelRoute, registers := messageRegisters [kept 16 routeId] }
    (kept 16 routeId).toNat

def ruleAdd (config : FwWebserverConfig interfaces) (tables : FirewallTables interfaces)
    (args : List UInt64T) : WebCallResult interfaces :=
  match RuleWords.ofArgs args with
  | none => some (.error .invalidArguments, tables)
  | some words =>
    tables.check (selectFilter config words.interface words.protocol) fun ⟨i, m⟩ =>
      tables.check (isActionSupportedForFilter ((config i).get m) (words.action.setWidth 8))
        fun supported =>
          if supported then
            tables.filterCall config i m { label := filterAddRule, registers := words.registers }
              fun registers => (kept 16 (registers filterRetRuleId)).toNat
          else some (.ok none, tables)

def ruleDelete (config : FwWebserverConfig interfaces) (tables : FirewallTables interfaces)
    (interface ruleId protocol : UInt64T) : WebCallResult interfaces :=
  tables.check (selectFilter config interface protocol) fun ⟨i, m⟩ =>
    tables.filterCall config i m
      { label := filterDelRule, registers := messageRegisters [kept 16 ruleId] }
      fun _ => (kept 16 ruleId).toNat

def filterSetDefaultAction (config : FwWebserverConfig interfaces)
    (tables : FirewallTables interfaces) (interface protocol action : UInt64T) :
    WebCallResult interfaces :=
  tables.check (selectFilter config interface protocol) fun ⟨i, m⟩ =>
    tables.check (isActionSupportedForFilter ((config i).get m) (action.setWidth 8)) fun supported =>
      if supported then
        tables.filterCall config i m
          { label := Firewall.filterSetDefaultAction
            registers := messageRegisters [kept 8 action] } fun _ => 0
      else some (.ok none, tables)

end Modfirewall

/-- The calls that change the tables. -/
inductive WebCall where
  | routeAdd (args : List UInt64T)
  | routeDelete (routeId : UInt64T)
  | ruleAdd (args : List UInt64T)
  | ruleDelete (interface ruleId protocol : UInt64T)
  | filterSetDefaultAction (interface protocol action : UInt64T)

def WebCall.perform (config : FwWebserverConfig interfaces) (tables : FirewallTables interfaces) :
    WebCall → WebCallResult interfaces
  | routeAdd args => Modfirewall.routeAdd tables args
  | routeDelete routeId => Modfirewall.routeDelete tables routeId
  | ruleAdd args => Modfirewall.ruleAdd config tables args
  | ruleDelete interface ruleId protocol =>
    Modfirewall.ruleDelete config tables interface ruleId protocol
  | filterSetDefaultAction interface protocol action =>
    Modfirewall.filterSetDefaultAction config tables interface protocol action

/-! ### Reading the tables -/

namespace Modfirewall

def routeCount (tables : FirewallTables interfaces) : Nat := tables.router.routingTable.size

def routeGetNth (tables : FirewallTables interfaces) (routeIdx : UInt64T) :
    Except FwOsErr (List Nat) :=
  let routeIdx := (kept 16 routeIdx).toNat
  if tables.router.routingTable.size ≤ routeIdx then .error .invalidRouteNum
  else
    let entry := tables.router.routingTable.entries routeIdx
    .ok [routeIdx, entry.ip.toNat, entry.subnet.toNat, entry.nextHop.toNat, entry.interface.val]

end Modfirewall

end LionsOS.Firewall
