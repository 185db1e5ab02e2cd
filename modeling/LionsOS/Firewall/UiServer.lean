/-
This file embeds what the web interface of the firewall does between a request
and the module that it calls: addresses and ports are shown in other forms than
they are kept in, and a new rule becomes a list of arguments. An address that is
shown reads back as itself, and a rule that was accepted is listed as it was
posted, up to the bits beyond its prefixes, behind the rules listed before.
-/

import LionsOS.Firewall.WebArguments
import LionsOS.Lib.Fallible

namespace LionsOS.Firewall

open Fallible StepRun FirewallTables

namespace UiServer

variable {interfaces : Nat}

def maxIpDigit : Int := 255
def maxPortNum : Int := 65535
def maxSubnetMask : Int := 32

/-- The exceptions that end a request. -/
inductive UiError where
  | os (err : FwOsErr)
  | invalidInput
  | unknown

abbrev UiResult := Except UiError

def require (condition : Prop) [Decidable condition] (error : UiError) : UiResult Unit :=
  if condition then .ok () else .error error

def protocolNums (protocolStr : String) : UiResult UInt64T :=
  match protocolStr with
  | "icmp" => .ok 0x01
  | "tcp" => .ok 0x06
  | "udp" => .ok 0x11
  | _ => .error .invalidInput

def actionNums (action : Int) (error : UiError) : UiResult String :=
  match action with
  | 1 => .ok "Allow"
  | 2 => .ok "Drop"
  | 3 => .ok "Reject"
  | 4 => .ok "Connect"
  | _ => .error error

/-- The built-in `int`, which reads the strings that `str` makes of numbers. -/
structure PyInt where
  ofStr : List Char → Option Int
  ofStr_str : ∀ number : Nat, ofStr (Nat.toDigits 10 number) = some (number : Int)

/-! ### Ports and addresses -/

def htons (portNum : Int) : UiResult Nat := do
  require (0 ≤ portNum ∧ portNum ≤ maxPortNum) .invalidInput
  return ((portNum.toNat &&& 0xFF) <<< 8) ||| ((portNum.toNat &&& 0xFF00) >>> 8)

def ipToInt (int : PyInt) (ipString : List Char) : UiResult Nat := do
  let ipSplit := ipString.splitOn '.'
  require (ipSplit.length = 4) .invalidInput
  match ipSplit.mapM int.ofStr with
  | none => .error .invalidInput
  | some ipList =>
    require (∀ digit ∈ ipList, 0 ≤ digit ∧ digit ≤ maxIpDigit) .invalidInput
    return ((List.range 4).map fun i => (ipList.getD i 0).toNat <<< (8 * i)).sum

def intToIp (ipInt : Nat) : List Char :=
  ((List.range 4).foldl (fun (ipString, prevMaskSum) i =>
    let mask := 2 ^ (8 * (1 + i)) - 1 - prevMaskSum
    (ipString ++ (if i = 0 then [] else ['.']) ++ Nat.toDigits 10 ((ipInt &&& mask) >>> (8 * i)),
      prevMaskSum + mask)) ([], 0)).1

/-! ### Rules -/

/-- A port in the body of a request. -/
inductive PortField where
  | missing
  | number (port : Int)
  | text (port : List Char)

/-- What `not` says of it. -/
def PortField.falsy : PortField → Bool
  | missing => true
  | number port => port == 0
  | text port => port.isEmpty

def PortField.toInt (int : PyInt) : PortField → UiResult Int
  | missing => .error .unknown
  | number port => .ok port
  | text port => ((int.ofStr port).map Except.ok).getD (.error .unknown)

structure NewRule where
  interface : Int
  srcIp : List Char
  srcPort : PortField
  srcSubnet : Int
  destIp : List Char
  destPort : PortField
  destSubnet : Int
  action : Int

/-- No address is needed where a rule matches all of them. -/
def ipArg (int : PyInt) (subnet : Int) (ip : List Char) : UiResult Nat := do
  require (0 ≤ subnet ∧ subnet ≤ maxSubnetMask) .invalidInput
  if subnet = 0 then return 0 else ipToInt int ip

/-- A port, and whether the rule is for any. -/
def portArg (int : PyInt) (protocol : UInt64T) (port : PortField) : UiResult (Nat × Bool) :=
  if port.falsy ∨ protocol = 0x01 then .ok (0, true)
  else do return (← htons (← port.toInt int), false)

/-- The arguments of the call that adds a rule. -/
def ruleArgs (int : PyInt) (interfaces : Nat) (protocolStr : String) (newRule : NewRule) :
    UiResult (List UInt64T) := do
  let protocol ← protocolNums protocolStr
  require (0 ≤ newRule.interface ∧ newRule.interface < interfaces) .invalidInput
  let srcIp ← ipArg int newRule.srcSubnet newRule.srcIp
  let destIp ← ipArg int newRule.destSubnet newRule.destIp
  let _ ← actionNums newRule.action .invalidInput
  let (srcPort, srcPortAny) ← portArg int protocol newRule.srcPort
  let (destPort, destPortAny) ← portArg int protocol newRule.destPort
  return [.ofInt 64 newRule.interface, protocol, .ofNat 64 srcIp, .ofNat 64 srcPort,
    .ofNat 64 srcPortAny.toNat, .ofInt 64 newRule.srcSubnet, .ofNat 64 destIp, .ofNat 64 destPort,
    .ofNat 64 destPortAny.toNat, .ofInt 64 newRule.destSubnet, .ofInt 64 newRule.action]

/-- The id that is returned, and the tables. `none` where an assertion of the filter fails. -/
def addRule (int : PyInt) (config : FwWebserverConfig interfaces)
    (tables : FirewallTables interfaces) (protocolStr : String) (newRule : NewRule) :
    Option (UiResult (Option Nat) × FirewallTables interfaces) :=
  match ruleArgs int interfaces protocolStr newRule with
  | .error error => some (.error error, tables)
  | .ok args =>
    (Modfirewall.ruleAdd config tables args).map fun (ended, next) => (ended.mapError .os, next)

/-- A rule in the answer to a request. -/
structure ListedRule where
  id : Nat
  srcIp : List Char
  srcPort : Nat
  srcPortAny : Nat
  destIp : List Char
  destPort : Nat
  destPortAny : Nat
  srcSubnet : Nat
  destSubnet : Nat
  action : String

theorem require_eq_ok {condition : Prop} [Decidable condition] {error : UiError} {passed : Unit} :
    require condition error = .ok passed ↔ condition := by
  unfold require
  split
  · exact iff_of_true rfl ‹_›
  · exact iff_of_false nofun ‹_›

theorem octet_eq (number shift : Nat) :
    (number &&& 255 * 2 ^ shift) >>> shift = number >>> shift % 256 := by
  rw [Nat.shiftRight_and_distrib, ← Nat.shiftLeft_eq, Nat.shiftLeft_shiftRight]
  exact Nat.and_two_pow_sub_one_eq_mod _ 8

theorem intToIp_eq (ipInt : Nat) : intToIp ipInt = ['.'].intercalate
    ((List.range 4).map fun i => Nat.toDigits 10 (ipInt >>> (8 * i) % 256)) := by
  simp only [← octet_eq]
  norm_num [intToIp, List.range_succ]

theorem splitOn_intToIp (ipInt : Nat) : (intToIp ipInt).splitOn '.' =
    (List.range 4).map fun i => Nat.toDigits 10 (ipInt >>> (8 * i) % 256) := by
  rw [intToIp_eq]
  refine List.splitOn_intercalate _ (fun digits member dot => ?_) (by simp)
  obtain ⟨i, _, rfl⟩ := List.mem_map.mp member
  have digit := Nat.isDigit_of_mem_toDigits (by decide) (by decide) dot
  cases digit

theorem sum_octets (octet : Nat → Nat) :
    ((List.range 4).map fun i => octet i <<< (8 * i)).sum =
      octet 0 + (octet 1 <<< 8 + (octet 2 <<< 16 + octet 3 <<< 24)) :=
  rfl

theorem ipToInt_intToIp (int : PyInt) (ipInt : Nat) :
    ipToInt int (intToIp ipInt) = .ok (ipInt % 2 ^ 32) := by
  have read : ((List.range 4).map fun i => Nat.toDigits 10 (ipInt >>> (8 * i) % 256)).mapM
      int.ofStr = some ((List.range 4).map fun i => ((ipInt >>> (8 * i) % 256 : Nat) : Int)) := by
    simp only [List.range_succ, List.range_zero, List.nil_append, List.cons_append, List.map,
      List.mapM_cons, List.mapM_nil, int.ofStr_str]
    rfl
  have inside : ∀ digit ∈ (List.range 4).map fun i => ((ipInt >>> (8 * i) % 256 : Nat) : Int),
      0 ≤ digit ∧ digit ≤ maxIpDigit := by
    intro digit member
    obtain ⟨i, _, rfl⟩ := List.mem_map.mp member
    exact ⟨Int.natCast_nonneg _, Int.ofNat_le.mpr (Nat.le_of_lt_succ (Nat.mod_lt _ (by decide)))⟩
  unfold ipToInt
  rw [splitOn_intToIp]
  refine bind_eq_ok.mpr ⟨(), require_eq_ok.mpr rfl, ?_⟩
  rw [read]
  refine bind_eq_ok.mpr ⟨(), require_eq_ok.mpr inside, congrArg Except.ok ?_⟩
  refine (sum_octets fun i => ipInt >>> (8 * i) % 256).trans ?_
  simp only [Nat.shiftRight_eq_div_pow, Nat.shiftLeft_eq]
  omega

theorem htons_htons {portNum : Int} {port : Nat} (exchanged : htons portNum = .ok port) :
    port < 2 ^ 16 ∧ htons port = .ok portNum.toNat := by
  have swapped (number : Nat) : ((number &&& 0xFF) <<< 8) ||| ((number &&& 0xFF00) >>> 8) =
      number % 256 * 256 + number / 256 % 256 := by
    have high := octet_eq number 8
    have low := octet_eq number 0
    norm_num at high low
    rw [high, low, ← Nat.shiftLeft_add_eq_or_of_lt (Nat.mod_lt _ (by decide)),
      Nat.shiftLeft_eq, Nat.shiftRight_eq_div_pow]
  obtain ⟨_, inside, ⟨⟩⟩ := bind_eq_ok.mp exchanged
  have bounds := require_eq_ok.mp inside
  rw [maxPortNum] at bounds
  rw [swapped]
  refine ⟨by omega, bind_eq_ok.mpr ⟨(), require_eq_ok.mpr ⟨by omega, ?_⟩, ?_⟩⟩
  · rw [maxPortNum]
    omega
  · rw [swapped, Int.toNat_natCast]
    have high : portNum.toNat / 256 < 256 := by omega
    have back : (portNum.toNat % 256 * 256 + portNum.toNat / 256) / 256 = portNum.toNat % 256 := by
      omega
    rw [Nat.mod_eq_of_lt high, back, Nat.mul_add_mod_of_lt high, Nat.mod_mod]
    exact congrArg Except.ok (Nat.div_add_mod' _ _)

/-! ### What is listed -/

variable {config : FwWebserverConfig interfaces} {tables next : FirewallTables interfaces}
  {int : PyInt} {protocolStr : String} {protocol : UInt64T}

/-- What is read of a rule. -/
def fields (rule : FwRule) : List Nat :=
  [rule.ruleId, rule.srcIp.toNat, rule.srcPort.toNat, rule.srcPortAny.toNat, rule.dstIp.toNat,
    rule.dstPort.toNat, rule.dstPortAny.toNat, rule.srcSubnet.toNat, rule.dstSubnet.toNat,
    rule.action.toNat]

/-- An address is shown without the bits beyond the prefix. -/
def IpListed (int : PyInt) (subnet : Int) (ip shown : List Char) : Prop :=
  ∃ address : UInt32T, ipArg int subnet ip = .ok address.toNat ∧
    shown = intToIp (subnetMask (.ofInt 8 subnet) &&& address).toNat

/-- A port is shown as given, or the rule is for any. -/
def PortListed (int : PyInt) (protocol : UInt64T) (port : PortField) (shown any : Nat) : Prop :=
  if port.falsy ∨ protocol = 0x01 then shown = 0 ∧ any = 1
  else port.toInt int = .ok (shown : Int) ∧ any = 0

/-- The rule is listed as it was posted. -/
structure NewRule.ListedAs (int : PyInt) (protocol : UInt64T) (newRule : NewRule) (ruleId : Nat)
    (listed : ListedRule) : Prop where
  id : listed.id = ruleId
  srcIp : IpListed int newRule.srcSubnet newRule.srcIp listed.srcIp
  srcPort : PortListed int protocol newRule.srcPort listed.srcPort listed.srcPortAny
  destIp : IpListed int newRule.destSubnet newRule.destIp listed.destIp
  destPort : PortListed int protocol newRule.destPort listed.destPort listed.destPortAny
  srcSubnet : (listed.srcSubnet : Int) = newRule.srcSubnet
  destSubnet : (listed.destSubnet : Int) = newRule.destSubnet
  action : actionNums newRule.action .unknown = .ok listed.action

theorem toNat_ofNat {number width : Nat} (small : number < 2 ^ width) (narrow : width ≤ 64) :
    (BitVec.ofNat 64 number).toNat = number := by
  rw [BitVec.toNat_ofNat]
  exact Nat.mod_eq_of_lt (small.trans_le (Nat.pow_le_pow_right (by decide) narrow))

variable {i : Fin interfaces} {m : Fin (config i).length} {rule : FwRule} {state : FwFilterState}

/-- The rule with the id is to be deleted from the filter. -/
def Deletes (config : FwWebserverConfig interfaces) (i : Fin interfaces)
    (m : Fin (config i).length) (ruleId : Nat) : FirewallEvent interfaces → Prop
  | .call (.ruleDelete interface id protocol) =>
    selectFilter config interface protocol = .ok ⟨i, m⟩ ∧ (id.setWidth 16 : UInt16T).toNat = ruleId
  | _ => False

/-- A rule other than the default rule is the only one with its id, and can be removed by it. -/
def Designated (state : FwFilterState) (rule : FwRule) : Prop :=
  ∃ front rest, state.ruleTable = front ++ rule :: rest ∧
    (∀ other ∈ front ++ rest, other.ruleId ≠ rule.ruleId) ∧
    fwFilterRemoveRule state rule.ruleId = .ok (.okay, state.withoutRule front rule rest)

theorem designated_of_listed (sound : RuleTableSound state)
    (listed : rule ∈ state.ruleTable.tail) : Designated state rule := by
  obtain ⟨first, rest, table, default⟩ := sound.defaultFirst
  have member := List.mem_of_mem_tail listed
  have notDefault : rule.ruleId ≠ defaultActionRuleId := by
    rw [table, List.tail_cons] at listed
    intro same
    have distinct := sound.distinct
    rw [FwFilterState.ruleIds, table, List.map_cons, List.nodup_cons] at distinct
    exact distinct.1 (List.mem_map.mpr ⟨rule, listed, same.trans default.ruleId.symm⟩)
  obtain ⟨front, found, rest, table, same, removed⟩ :=
    fwFilterRemoveRule_of_mem sound (List.mem_map_of_mem member) notDefault
  obtain rfl : found = rule :=
    List.inj_on_of_nodup_map sound.distinct (table ▸ List.mem_append_right _ List.mem_cons_self)
      member same
  refine ⟨front, rest, table, fun other member sameId => ?_, removed⟩
  have distinct := sound.distinct
  rw [FwFilterState.ruleIds, table, List.map_append, List.map_cons, List.nodup_middle,
    List.nodup_cons, ← List.map_append] at distinct
  exact distinct.1 (List.mem_map.mpr ⟨other, member, sameId⟩)

theorem listed_withFilter {j : Fin interfaces} {n : Nat}
    (listed : rule ∈ (tables.filterStates i m).ruleTable.tail)
    (kept : rule ∈ (tables.filterStates j n).ruleTable.tail → (i, m.val) = (j, n) →
      rule ∈ state.ruleTable.tail) :
    rule ∈ ((tables.withFilter j n state).filterStates i m).ruleTable.tail := by
  by_cases same : (i, m.val) = (j, n)
  · obtain ⟨rfl, rfl⟩ := Prod.mk.inj same
    rw [withFilter_self]
    exact kept listed rfl
  · rw [withFilter_of_ne same]
    exact listed

/-- A rule stays in its filter unless it is to be deleted. -/
theorem listed_step {event : FirewallEvent interfaces} (sound : FirewallSound tables)
    (taken : FirewallStep config tables event next)
    (undeleted : ¬ Deletes config i m rule.ruleId event)
    (listed : rule ∈ (tables.filterStates i m).ruleTable.tail) :
    rule ∈ (next.filterStates i m).ruleTable.tail := by
  cases event with
  | packet j n external flow =>
    cases taken
    refine listed_withFilter listed fun listed _ => ?_
    rcases filterPacket_instances (sound.filters j n).rules external flow with
      same | ⟨_, _, _, same⟩
    all_goals rwa [same]
  | call call =>
    obtain ⟨ended, performed⟩ := taken
    obtain ⟨_, _, performed', outcome⟩ := @WebCall.ends _ config _ sound call
    cases performed.symm.trans performed'
    cases outcome with
    | refused | ruleIgnored | defaultIgnored | routeAdded | routeRemoved => exact listed
    | @ruleAdded args words parsed j n _ _ _ ruleId after added =>
      refine listed_withFilter listed fun listed _ => ?_
      obtain ⟨first, rest, table, _⟩ := (sound.filters j n).rules.defaultFirst
      obtain ⟨rfl, _⟩ := addRule_okay (sound.filters j n).rules added
      rw [FwFilterState.withRule, table]
      rw [table] at listed
      exact List.mem_append_left _ listed
    | @ruleRemoved interface ruleId protocol j n selects after removed =>
      refine listed_withFilter listed fun listed same => ?_
      obtain ⟨rfl, same⟩ := Prod.mk.inj same
      obtain rfl := Fin.ext same
      obtain ⟨front, gone, rest, table, nonempty, sameId, rfl⟩ :=
        removeRule_okay (sound.filters i m).rules removed
      obtain ⟨first, front, rfl⟩ := List.exists_cons_of_ne_nil nonempty
      rw [table] at listed
      show rule ∈ front ++ rest
      rcases List.mem_append.mp listed with before | behind
      · exact List.mem_append_left _ before
      · rcases List.mem_cons.mp behind with rfl | behind
        · exact absurd ⟨selects, sameId.symm⟩ undeleted
        · exact List.mem_append_right _ behind
    | @defaultSet interface protocol action j n _ _ _ after updated =>
      refine listed_withFilter listed fun listed _ => ?_
      obtain ⟨_, _, _, _, table⟩ := setDefault_okay (sound.filters j n).rules updated
      rwa [table]

/-- Whatever else is added, deleted and processed, a rule that is listed is the only one with its id
and can be deleted by it, until it is to be deleted. -/
theorem rule_id_designates {start : FirewallTables interfaces} (started : FirewallStarted start)
    {before after : List (FirewallEvent interfaces)}
    (run : Run (FirewallStep config) start before tables)
    (listed : rule ∈ (tables.filterStates i m).ruleTable.tail)
    (later : Run (FirewallStep config) tables after next)
    (undeleted : ∀ event ∈ after, ¬ Deletes config i m rule.ruleId event) :
    rule ∈ (next.filterStates i m).ruleTable.tail ∧
      Designated (next.filterStates i m) rule := by
  have kept : rule ∈ (next.filterStates i m).ruleTable.tail := by
    induction later with
    | nil => exact listed
    | snoc earlier last inductionHypothesis =>
      refine listed_step (started.run (run.trans earlier)) last ?_
        (inductionHypothesis fun event member => undeleted event (List.mem_append_left _ member))
      exact undeleted _ (List.mem_append_right _ List.mem_cons_self)
  exact ⟨kept, designated_of_listed ((started.run (run.trans later)).filters i m).rules kept⟩

/-- A packet is processed after a rule was added. -/
theorem rule_id_designates_added : ∃ (next : FirewallTables 1) (rule : FwRule),
    rule ∈ (next.filterStates 0 0).ruleTable.tail ∧ Designated (next.filterStates 0 0) rule := by
  have added : FirewallStep udpConfig routedTables
      (.call (.ruleAdd [0, 0x11, 0, 0, 1, 0, 0, 53, 0, 0, 2])) _ :=
    ⟨_, rfl⟩
  refine ⟨_, _, @rule_id_designates 1 udpConfig _ _ 0 ⟨0, by decide⟩ _ _ routedTables_started _
    [.packet 0 0 [] ⟨1, 2, 3, 4⟩] (.single added) (.head _) (.single rfl) fun event member => ?_⟩
  cases List.mem_singleton.mp member
  exact nofun

end UiServer

end LionsOS.Firewall
